import Bbp.PeerConnectivity

/-!
# The registered nodes of the peer connectivity controller

Beside the nodes, their policies and their allowed peers, the controller has a request and a
completion of a topology restore for every node, and the pairs whose restore is suppressed.
All of these maps are about the registered nodes.  A final registration builds a whole new
state and holds the locks until it is committed or given up.
-/

namespace Bbp

open Library PeerConnectivityController List

structure PeerRegistry where
  controller : PeerConnectivityController
  restoreRequests : List (String × Nat)
  restoreCompletions : List (String × Nat)
  suppressions : List (String × String)

inductive RegistryOperation where
  | registerNodes (nodes : List ChainNodeConfig) (policies : OptionalPolicyMap)
      (allowedPeers : AllowedPeerMap)
  | finalRegistration (nodes : List ChainNodeConfig) (policies : OptionalPolicyMap)
      (allowedPeers : AllowedPeerMap) (allPeerPolicyNodeIds : List String) (commit : Bool)
  | unregisterNode (id : String)
  | setPolicy (id : String) (policy : PeerCountPolicy)
  | setAllowedPeers (id : String) (peers : List String)
  | disconnectPeer (source target : String)

namespace PeerRegistry

section Operations

def ids (r : PeerRegistry) : List String := r.controller.nodes.map (·.id)

/-- What a call leaves behind, and the text of its exception. -/
abbrev Outcome := PeerRegistry × Option String

/-- Go on with the controller that a step has built; a step that throws has assigned nothing. -/
def answer (r : PeerRegistry) (x : Except PeerError PeerConnectivityController)
    (f : PeerConnectivityController → Outcome) : Outcome :=
  match x with
  | .error e => (r, some e.message)
  | .ok c => f c

def unrequested (nodes : List String) : List (String × Nat) := nodes.map (·, 0)

def create (nodes : List ChainNodeConfig) (policies : PolicyMap) (allowedPeers : AllowedPeerMap)
    (allPeerPolicyNodeIds : List String) : Except PeerError PeerRegistry :=
  (PeerConnectivityController.create nodes policies allowedPeers allPeerPolicyNodeIds).map
    fun c => ⟨c, unrequested (nodes.map (·.id)), unrequested (nodes.map (·.id)), []⟩

/-- The state of a final registration; `c` has the final nodes and their allowed peers. -/
def preparedFinalState (r : PeerRegistry) (c : PeerConnectivityController) : PeerRegistry :=
  let finalIds := c.nodes.map ChainNodeConfig.id
  let newIds := finalIds.filter fun id => !r.controller.nodes.any fun node => node.id = id
  let kept (map : List (String × Nat)) := map.filter (fun e => e.1 ∈ finalIds)
  { controller := c
    restoreRequests := kept r.restoreRequests ++ unrequested newIds
    restoreCompletions := kept r.restoreCompletions ++ unrequested newIds
    suppressions := r.suppressions.filter fun pair =>
      (c.allowedPeers.lookup pair.1).any (pair.2 ∈ ·) }

def call (r : PeerRegistry) : RegistryOperation → Outcome
  | .registerNodes nodes policies allowedPeers =>
    answer r (r.controller.registerNodes nodes policies allowedPeers) fun c =>
      if nodes.any fun node => (r.restoreRequests.lookup node.id).isSome ||
          (r.restoreCompletions.lookup node.id).isSome then
        (r, some "peer connectivity restoration registry is internally inconsistent")
      else
        ({ r with
            controller := c
            restoreRequests := r.restoreRequests ++ unrequested (nodes.map (·.id))
            restoreCompletions := r.restoreCompletions ++ unrequested (nodes.map (·.id)) }, none)
  | .finalRegistration nodes policies allowedPeers allPeers commit =>
    answer r (r.controller.prepareFinalRegistration nodes policies allowedPeers allPeers)
      fun c => (if commit then r.preparedFinalState c else r, none)
  | .unregisterNode id =>
    answer r (r.controller.unregisterNode id) fun c =>
      ({ controller := c
         restoreRequests := eraseKey id r.restoreRequests
         restoreCompletions := eraseKey id r.restoreCompletions
         suppressions := r.suppressions.filter fun pair => pair.1 ≠ id ∧ pair.2 ≠ id }, none)
  | .setPolicy id policy =>
    answer r (r.controller.setPolicy id policy) fun c => ({ r with controller := c }, none)
  | .setAllowedPeers id peers =>
    answer r (r.controller.setAllowedPeers id peers) fun c => ({ r with controller := c }, none)
  | .disconnectPeer source target =>
    if source ∉ r.ids then (r, some (PeerError.unknownNode source).message)
    else if target ∉ r.ids then (r, some (PeerError.unknownNode target).message)
    else if source = target then (r, some "peer source and target must differ")
    else ({ r with suppressions := r.suppressions ++ [(source, target)] }, none)

def registryMachine : Machine PeerRegistry RegistryOperation :=
  ⟨fun r operation => some (r.call operation).1⟩

end Operations

section Invariant

/-- The keys of a map are the registered nodes. -/
def Keyed {ν : Type} (map : List (String × ν)) (ids : List String) : Prop :=
  ∀ id, id ∈ map.map Prod.fst ↔ id ∈ ids

/-- Peers of a node: registered, not the node itself, each once. -/
structure Peers (ids : List String) (id : String) (peers : List String) : Prop where
  distinct : peers.Nodup
  other : id ∉ peers
  registered : ∀ peer, peer ∈ peers → peer ∈ ids

/-- Nodes, allowed peers and policies of a controller belong together. -/
structure Consistent (c : PeerConnectivityController) : Prop where
  distinct : (c.nodes.map (·.id)).Nodup
  keys : Keyed c.allowedPeers (c.nodes.map (·.id))
  peers : ∀ id peers, c.allowedPeers.lookup id = some peers → Peers (c.nodes.map (·.id)) id peers
  policies : ∀ id policy, c.policies.lookup id = some policy → policy.maximum ≤ c.nodes.length - 1 ∧
      ∃ peers, c.allowedPeers.lookup id = some peers ∧ policy.minimum ≤ peers.length

structure Registered (r : PeerRegistry) : Prop where
  controller : Consistent r.controller
  requests : Keyed r.restoreRequests r.ids
  completions : Keyed r.restoreCompletions r.ids
  suppressed : ∀ pair, pair ∈ r.suppressions → pair.1 ∈ r.ids ∧ pair.2 ∈ r.ids

variable {c c' : PeerConnectivityController} {nodes : List ChainNodeConfig}
  {id : String} {unique peers allPeers : List String} {allowedPeers : AllowedPeerMap}
  {policy : PeerCountPolicy} {policies : OptionalPolicyMap}

theorem findNodeConfig_ok {node : ChainNodeConfig} (h : findNodeConfig nodes id = .ok node) :
    node.id = id ∧ id ∈ nodes.map (·.id) := by
  unfold findNodeConfig at h
  split at h
  · exact nomatch h
  next found hfound =>
    cases h
    have hid : node.id = id := by simpa using find?_some hfound
    exact ⟨hid, hid ▸ mem_map_of_mem (mem_of_find?_eq_some hfound)⟩

/-- One more peer that is registered and new. -/
theorem Peers.cons {ids rest : List String} {id first : String}
    (hfirst : first ∈ ids ∧ first ≠ id ∧ first ∉ unique)
    (h : Peers ids id rest ∧ ∀ peer ∈ rest, peer ∉ first :: unique) :
    Peers ids id (first :: rest) ∧ ∀ peer ∈ first :: rest, peer ∉ unique := by
  obtain ⟨⟨hdistinct, hother, hregistered⟩, hunique⟩ := h
  refine ⟨{ distinct := ?_, other := ?_, registered := ?_ }, ?_⟩
  · exact nodup_cons.mpr ⟨fun hmem => hunique first hmem mem_cons_self, hdistinct⟩
  · rw [mem_cons, not_or]
    exact ⟨hfirst.2.1.symm, hother⟩
  · exact forall_mem_cons.mpr ⟨hfirst.1, hregistered⟩
  · exact forall_mem_cons.mpr ⟨hfirst.2.2,
      fun peer hpeer hmem => hunique peer hpeer (mem_cons_of_mem _ hmem)⟩

theorem checkPeers_none (h : checkPeers nodes id unique peers = none) :
    Peers (nodes.map (·.id)) id peers ∧ ∀ peer ∈ peers, peer ∉ unique := by
  induction peers generalizing unique with
  | nil => exact ⟨⟨nodup_nil, nofun, nofun⟩, nofun⟩
  | cons first rest ih =>
    unfold checkPeers at h
    split at h
    · exact nomatch h
    rename_i node hnode
    obtain ⟨rfl, hmem⟩ := findNodeConfig_ok hnode
    split_ifs at h
    exact Peers.cons ⟨hmem, ‹_›, ‹_›⟩ (ih h)

theorem checkFinalPeers_none {finalIds : List String}
    (h : checkFinalPeers finalIds id unique peers = none) :
    Peers finalIds id peers ∧ ∀ peer ∈ peers, peer ∉ unique := by
  induction peers generalizing unique with
  | nil => exact ⟨⟨nodup_nil, nofun, nofun⟩, nofun⟩
  | cons first rest ih =>
    unfold checkFinalPeers at h
    split_ifs at h with hknown hother
    exact Peers.cons ⟨hknown, not_or.mp hother⟩ (ih h)

theorem checkFinalIds_none (h : checkFinalIds unique nodes = none) :
    (nodes.map (·.id)).Nodup ∧ ∀ id ∈ nodes.map (·.id), id ∉ unique := by
  induction nodes generalizing unique with
  | nil => exact ⟨nodup_nil, nofun⟩
  | cons node rest ih =>
    unfold checkFinalIds at h
    split_ifs at h with hnew
    obtain ⟨hrest, hunique⟩ := ih h
    refine ⟨nodup_cons.mpr ⟨fun hmem => hunique _ hmem mem_cons_self, hrest⟩, ?_⟩
    exact forall_mem_cons.mpr ⟨fun hmem => hnew (.inr hmem),
      fun id hid hmem => hunique id hid (mem_cons_of_mem _ hmem)⟩

theorem checkBatch_none {known : List ChainNodeConfig} (h : checkBatch known unique nodes = none) :
    (nodes.map (·.id)).Nodup ∧
      ∀ id ∈ nodes.map (·.id), id ∉ unique ∧ id ∉ known.map (·.id) := by
  induction nodes generalizing unique with
  | nil => exact ⟨nodup_nil, nofun⟩
  | cons node rest ih =>
    unfold checkBatch at h
    split_ifs at h with _ hnew hknown
    obtain ⟨hrest, hunique⟩ := ih h
    refine ⟨nodup_cons.mpr ⟨fun hmem => (hunique _ hmem).1 mem_cons_self, hrest⟩, ?_⟩
    exact forall_mem_cons.mpr ⟨⟨hnew, by simpa using hknown⟩,
      fun id hid => ⟨fun hmem => (hunique id hid).1 (mem_cons_of_mem _ hmem), (hunique id hid).2⟩⟩

/-- Checks one after the other that find nothing. -/
theorem orElse_eq_none {α : Type} {x : Option α} {f : Unit → Option α} :
    x.orElse f = none ↔ x = none ∧ f () = none := by
  cases x with
  | none => exact (and_iff_right rfl).symm
  | some a => exact ⟨nofun, nofun⟩

theorem checkPolicy_none (h : checkPolicy nodes allowedPeers id policy = none)
    (hnodes : ∀ peers, allowedPeers.lookup id = some peers → 0 < nodes.length) :
    policy.maximum ≤ nodes.length - 1 ∧
      ∃ peers, allowedPeers.lookup id = some peers ∧ policy.minimum ≤ peers.length := by
  unfold checkPolicy at h
  split at h
  · exact nomatch h
  rename_i hmaximum
  split at h
  · exact nomatch h
  next peers hlookup =>
    split at h
    · exact nomatch h
    rename_i hminimum
    have hpos := hnodes peers hlookup
    rw [maximumPossible, if_neg (Nat.ne_of_gt hpos)] at hmaximum
    exact ⟨not_lt.mp hmaximum, peers, hlookup, not_lt.mp hminimum⟩

theorem checkFinalPolicy_none {finalIds : List String} {maximum : Nat}
    (h : checkFinalPolicy finalIds maximum allowedPeers id policy = none) :
    policy.maximum ≤ maximum ∧
      ∃ peers, allowedPeers.lookup id = some peers ∧ policy.minimum ≤ peers.length := by
  unfold checkFinalPolicy at h
  split at h
  · exact nomatch h
  rename_i hfits
  split at h
  · exact nomatch h
  next peers hlookup =>
    split at h
    · exact nomatch h
    next hminimum =>
      exact ⟨not_lt.mp fun hlarge => hfits (.inr hlarge), peers, hlookup, not_lt.mp hminimum⟩

theorem validateAllowedPeers_none (h : c.validateAllowedPeers id peers = none) :
    id ∈ c.nodes.map (·.id) ∧ Peers (c.nodes.map (·.id)) id peers := by
  unfold validateAllowedPeers at h
  split at h
  · exact nomatch h
  next node hnode =>
    obtain ⟨rfl, hmem⟩ := findNodeConfig_ok hnode
    exact ⟨hmem, (checkPeers_none h).1⟩

theorem Consistent.nodes_pos (hc : Consistent c) (h : c.allowedPeers.lookup id = some peers) :
    0 < c.nodes.length := by
  have hid := (hc.keys id).mp (lookup_isSome_iff_mem_keys.mp (by rw [h]; rfl))
  simpa using length_pos_of_mem hid

/-- As many keys as nodes, every node among them, and every entry checked. -/
theorem consistent_of_checks {policies : PolicyMap} (hdistinct : (nodes.map (·.id)).Nodup)
    (hlength : allowedPeers.length = nodes.length)
    (hpeers : ∀ node ∈ nodes, ∃ peers, allowedPeers.lookup node.id = some peers ∧
      Peers (nodes.map (·.id)) node.id peers)
    (hpolicies : ∀ entry ∈ policies, entry.2.maximum ≤ nodes.length - 1 ∧
      ∃ peers, allowedPeers.lookup entry.1 = some peers ∧ entry.2.minimum ≤ peers.length) :
    Consistent ⟨nodes, policies, allPeers, allowedPeers⟩ := by
  have hsub : nodes.map (·.id) ⊆ allowedPeers.map Prod.fst := by
    intro id hid
    obtain ⟨node, hnode, rfl⟩ := mem_map.mp hid
    obtain ⟨peers, hlookup, _⟩ := hpeers node hnode
    exact lookup_isSome_iff_mem_keys.mp (by rw [hlookup]; rfl)
  have hkeys : Keyed allowedPeers (nodes.map (·.id)) := fun id =>
    ((hdistinct.subperm hsub).perm_of_length_le (by simp [hlength])).symm.mem_iff
  refine ⟨hdistinct, hkeys, ?_, fun id policy hpolicy => hpolicies _ (mem_of_lookup hpolicy)⟩
  intro id peers hlookup
  obtain ⟨node, hnode, rfl⟩ := mem_map.mp
    ((hkeys id).mp (lookup_isSome_iff_mem_keys.mp (by rw [hlookup]; rfl)))
  obtain ⟨peers', hlookup', hgood⟩ := hpeers node hnode
  rw [hlookup'] at hlookup
  exact Option.some.inj hlookup ▸ hgood

theorem create_consistent {policies : PolicyMap}
    (h : PeerConnectivityController.create nodes policies allowedPeers allPeers = .ok c)
    (hdistinct : (nodes.map (·.id)).Nodup) : Consistent c ∧ c.nodes = nodes := by
  unfold PeerConnectivityController.create at h
  dsimp only at h
  iterate 4
    split at h
    · exact nomatch h
  next hlength _ hpeers _ _ _ _ hpolicies =>
    cases h
    rw [findSome?_eq_none_iff] at hpeers hpolicies
    refine ⟨consistent_of_checks hdistinct (not_not.mp hlength) ?_ ?_, rfl⟩
    · intro node hnode
      have hchecked := hpeers node hnode
      split at hchecked
      · exact nomatch hchecked
      next peers hlookup => exact ⟨peers, hlookup, (validateAllowedPeers_none hchecked).2⟩
    · intro entry hentry
      refine checkPolicy_none (hpolicies entry hentry) fun peers hlookup => ?_
      have hsome := length_pos_of_mem (mem_of_lookup hlookup)
      omega

theorem prepareFinalRegistration_consistent
    (h : c.prepareFinalRegistration nodes policies allowedPeers allPeers = .ok c') :
    Consistent c' := by
  unfold prepareFinalRegistration at h
  split at h
  · exact nomatch h
  rename_i hchecked
  dsimp only at h
  split at h
  · exact nomatch h
  split at h
  · exact nomatch h
  rename_i hpolicies
  cases h
  simp only [finalRegistrationFailure, Option.orElse_eq_orElse, orElse_eq_none,
    findSome?_eq_none_iff] at hchecked hpolicies
  obtain ⟨hids, _, _, _, hlength, hpeers⟩ := hchecked
  simp only [ite_eq_right_iff, reduceCtorEq, imp_false, not_not] at hlength
  refine consistent_of_checks (checkFinalIds_none hids).1 hlength ?_ ?_
  · intro node hnode
    have hnode := hpeers node hnode
    split at hnode
    · exact nomatch hnode
    next peers hlookup => exact ⟨peers, hlookup, (checkFinalPeers_none hnode).1⟩
  · exact fun entry hentry => checkFinalPolicy_none (hpolicies entry hentry)

theorem setPolicy_consistent (hc : Consistent c) (h : c.setPolicy id policy = .ok c') :
    Consistent c' ∧ c'.nodes = c.nodes := by
  unfold setPolicy at h
  split at h
  · exact nomatch h
  rename_i hchecked
  cases h
  refine ⟨⟨hc.distinct, hc.keys, hc.peers, fun other policy' hpolicy => ?_⟩, rfl⟩
  rw [lookup_assignKey] at hpolicy
  split at hpolicy
  next hsame =>
    cases hpolicy
    rw [hsame]
    exact checkPolicy_none hchecked fun peers hlookup => hc.nodes_pos hlookup
  next => exact hc.policies other policy' hpolicy

theorem setAllowedPeers_consistent (hc : Consistent c) (h : c.setAllowedPeers id peers = .ok c') :
    Consistent c' ∧ c'.nodes = c.nodes := by
  unfold setAllowedPeers at h
  split at h
  · exact nomatch h
  rename_i hchecked
  cases h
  unfold validateAllowedPeerUpdate at hchecked
  split at hchecked
  · exact nomatch hchecked
  rename_i hvalid
  obtain ⟨hid, hpeers⟩ := validateAllowedPeers_none hvalid
  refine ⟨⟨hc.distinct, fun other => ?_, fun other peers' hlookup => ?_,
    fun other policy hpolicy => ?_⟩, rfl⟩
  · rw [mem_keys_assignKey, hc.keys other]
    exact or_iff_right_of_imp fun hsame => hsame ▸ hid
  · rw [lookup_assignKey] at hlookup
    split at hlookup
    next hsame =>
      cases hlookup
      exact hsame ▸ hpeers
    next => exact hc.peers other peers' hlookup
  · obtain ⟨hmaximum, old, hold, hminimum⟩ := hc.policies other policy hpolicy
    refine ⟨hmaximum, ?_⟩
    dsimp only
    rw [lookup_assignKey]
    split
    next hsame =>
      subst hsame
      simp only [hpolicy, gt_iff_lt, ite_eq_right_iff, reduceCtorEq, imp_false, not_lt] at hchecked
      exact ⟨peers, rfl, hchecked⟩
    next => exact ⟨old, hold, hminimum⟩

theorem unregisterNode_consistent (hc : Consistent c) (h : c.unregisterNode id = .ok c') :
    Consistent c' ∧ c'.nodes.map (·.id) = (c.nodes.map (·.id)).erase id := by
  unfold unregisterNode at h
  split at h
  · exact nomatch h
  rename_i hknown
  split at h
  · exact nomatch h
  rename_i hfree
  split at h
  · exact nomatch h
  rename_i hroom
  cases h
  have hids : (c.nodes.eraseP fun node => node.id = id).map (·.id) =
      (c.nodes.map (·.id)).erase id := by
    rw [erase_eq_eraseP', eraseP_map]
    rfl
  have hleft : ∀ other, other ∈ (c.nodes.map (·.id)).erase id ↔
      other ≠ id ∧ other ∈ c.nodes.map (·.id) := fun _ => hc.distinct.mem_erase_iff
  refine ⟨⟨?_, ?_, ?_, ?_⟩, hids⟩
  · rw [hids]
    exact hc.distinct.erase id
  · intro other
    rw [hids, hleft, mem_keys_eraseKey, hc.keys other]
  · intro other peers hlookup
    rw [lookup_eraseKey] at hlookup
    split_ifs at hlookup
    have hpeers := hc.peers other peers hlookup
    refine ⟨hpeers.distinct, hpeers.other, fun peer hpeer => ?_⟩
    rw [hids, hleft]
    refine ⟨?_, hpeers.registered peer hpeer⟩
    rintro rfl
    exact hfree (any_eq_true.mpr ⟨_, mem_of_lookup hlookup, by simpa using ⟨‹_›, hpeer⟩⟩)
  · intro other policy hpolicy
    dsimp only at hpolicy ⊢
    rw [lookup_eraseKey] at hpolicy ⊢
    split_ifs at hpolicy with hother
    obtain ⟨_, peers, hlookup, hminimum⟩ := hc.policies other policy hpolicy
    have hsmall : ¬ policy.maximum > c.nodes.length - 2 := fun hlarge =>
      find?_eq_none.mp hroom _ (mem_of_lookup hpolicy) (decide_eq_true ⟨hother, hlarge⟩)
    have hlength := congrArg length hids
    rw [length_map, length_erase_of_mem (by simpa using hknown), length_map] at hlength
    exact ⟨by omega, peers, by rw [if_neg hother, hlookup], hminimum⟩

theorem assignPeers_origin {batch old : AllowedPeerMap}
    (h : (assignPeers batch old).lookup id = some peers) :
    (id, peers) ∈ batch ∨ id ∉ batch.map Prod.fst ∧ old.lookup id = some peers := by
  induction batch generalizing old with
  | nil => exact .inr ⟨nofun, h⟩
  | cons entry rest ih =>
    rcases ih h with hmem | ⟨hother, hlookup⟩
    · exact .inl (mem_cons_of_mem entry hmem)
    · rw [lookup_assignKey] at hlookup
      split at hlookup
      next hsame =>
        cases hlookup
        exact .inl (hsame ▸ mem_cons_self)
      next hne =>
        refine .inr ⟨?_, hlookup⟩
        rw [map_cons, mem_cons, not_or]
        exact ⟨hne, hother⟩

theorem assignPeers_keys (batch old : AllowedPeerMap) (id : String) :
    id ∈ (assignPeers batch old).map Prod.fst ↔
      id ∈ batch.map Prod.fst ∨ id ∈ old.map Prod.fst := by
  induction batch generalizing old with
  | nil => simp [assignPeers]
  | cons entry rest ih =>
    refine (ih (assignKey entry.1 entry.2 old)).trans ?_
    rw [mem_keys_assignKey, map_cons, mem_cons, or_left_comm, or_assoc]

theorem emplacePolicies_origin {next result : PolicyMap}
    (h : emplacePolicies policies nodes next = .ok result)
    (hpolicy : result.lookup id = some policy) :
    next.lookup id = some policy ∨
      id ∈ nodes.map (·.id) ∧ policies.lookup id = some (some policy) := by
  induction nodes generalizing next with
  | nil =>
    cases h
    exact .inl hpolicy
  | cons node rest ih =>
    unfold emplacePolicies at h
    split at h
    · exact nomatch h
    · rcases ih h with hold | ⟨hmem, hnew⟩
      · exact .inl hold
      · exact .inr ⟨mem_cons_of_mem _ hmem, hnew⟩
    next hentry =>
      split_ifs at h
      rcases ih h with hold | ⟨hmem, hnew⟩
      · rw [lookup_cons] at hold
        split at hold
        next hsame =>
          obtain rfl := beq_iff_eq.mp hsame
          cases hold
          exact .inr ⟨mem_cons_self, hentry⟩
        next => exact .inl hold
      · exact .inr ⟨mem_cons_of_mem _ hmem, hnew⟩

theorem registerNodes_consistent (hc : Consistent c)
    (h : c.registerNodes nodes policies allowedPeers = .ok c') :
    Consistent c' ∧ c'.nodes = c.nodes ++ nodes := by
  unfold registerNodes at h
  split at h
  · exact nomatch h
  rename_i hchecked
  split at h
  · exact nomatch h
  rename_i hnext
  cases h
  simp only [registrationFailure, Option.orElse_eq_orElse, orElse_eq_none,
    findSome?_eq_none_iff] at hchecked
  obtain ⟨_, hbatch, _, _, hentries, hnames, hextra, hregistered⟩ := hchecked
  obtain ⟨hnew, hfresh⟩ := checkBatch_none hbatch
  have hids : (c.nodes ++ nodes).map (·.id) = c.nodes.map (·.id) ++ nodes.map (·.id) := map_append
  have hgiven : ∀ id peers, (id, peers) ∈ allowedPeers →
      Peers ((c.nodes ++ nodes).map (·.id)) id peers ∧
      ∀ policy, (policies.lookup id = some (some policy) ∨
          policies.lookup id = none ∧ c.policies.lookup id = some policy) →
        policy.maximum ≤ maximumPossible (c.nodes ++ nodes) ∧ policy.minimum ≤ peers.length := by
    intro id peers hentry
    have hentry := hregistered _ hentry
    unfold checkRegistered at hentry
    split at hentry
    · exact nomatch hentry
    rename_i hpeers
    refine ⟨(checkPeers_none hpeers).1, fun policy hpolicy => ?_⟩
    rcases hpolicy with hpolicy | ⟨hnone, hpolicy⟩
    · simp only [hpolicy, gt_iff_lt, ite_eq_right_iff, reduceCtorEq, imp_false, not_or,
        not_lt] at hentry
      exact hentry
    · simp only [hnone, hpolicy, gt_iff_lt, ite_eq_right_iff, reduceCtorEq, imp_false, not_or,
        not_lt] at hentry
      exact hentry
  have hlisted : ∀ id ∈ nodes.map (·.id), id ∈ allowedPeers.map Prod.fst := by
    intro id hid
    have hentry := hentries id ((mem_insertionSort _).mpr hid)
    rw [← lookup_isSome_iff_mem_keys]
    split_ifs at hentry with _ hmissing
    simpa using hmissing
  have hknown : ∀ id ∈ allowedPeers.map Prod.fst,
      id ∈ c.nodes.map (·.id) ++ nodes.map (·.id) := by
    intro id hid
    obtain ⟨entry, hentry, rfl⟩ := mem_map.mp hid
    have hfound := hextra entry hentry
    split_ifs at hfound with hany
    rw [← hids]
    simpa using hany
  refine ⟨⟨?_, ?_, ?_, ?_⟩, rfl⟩
  · rw [hids]
    exact hc.distinct.append hnew fun id hold hid => (hfresh id hid).2 hold
  · intro id
    rw [assignPeers_keys, hids, hc.keys id]
    constructor
    · rintro (hnew | hold)
      · exact hknown id hnew
      · exact mem_append_left _ hold
    · intro hid
      rcases mem_append.mp hid with hold | hnew
      · exact .inr hold
      · exact .inl (hlisted id hnew)
  · intro id peers hlookup
    rcases assignPeers_origin hlookup with hmem | ⟨_, hold⟩
    · exact (hgiven id peers hmem).1
    · have hpeers := hc.peers id peers hold
      exact ⟨hpeers.distinct, hpeers.other,
        fun peer hpeer => hids ▸ mem_append_left _ (hpeers.registered peer hpeer)⟩
  · intro id policy hpolicy
    dsimp only at hpolicy ⊢
    have hfound : id ∈ (assignPeers allowedPeers c.allowedPeers).map Prod.fst →
        ∃ peers, (assignPeers allowedPeers c.allowedPeers).lookup id = some peers := fun hkey =>
      Option.isSome_iff_exists.mp (lookup_isSome_iff_mem_keys.mpr hkey)
    rcases emplacePolicies_origin hnext hpolicy with hold | ⟨hid, hbatchPolicy⟩
    · obtain ⟨hmaximum, old, hlookup, hminimum⟩ := hc.policies id policy hold
      have hkey := lookup_isSome_iff_mem_keys.mp (Option.isSome_of_eq_some hlookup)
      have hunnamed : policies.lookup id = none := by
        rw [Option.eq_none_iff_forall_ne_some]
        intro x hx
        have hname := hnames _ (mem_of_lookup hx)
        have hmem : id ∈ nodes.map (·.id) := by simpa [mem_insertionSort] using hname
        exact (hfresh id hmem).2 ((hc.keys id).mp hkey)
      obtain ⟨peers, hpeers⟩ := hfound ((assignPeers_keys _ _ id).mpr (.inr hkey))
      refine ⟨by rw [length_append]; omega, peers, hpeers, ?_⟩
      rcases assignPeers_origin hpeers with hmem | ⟨_, hsame⟩
      · exact ((hgiven id peers hmem).2 policy (.inr ⟨hunnamed, hold⟩)).2
      · rw [hlookup] at hsame
        exact Option.some.inj hsame ▸ hminimum
    · have hkey := hlisted id hid
      obtain ⟨peers, hpeers⟩ := hfound ((assignPeers_keys _ _ id).mpr (.inl hkey))
      have hmem : (id, peers) ∈ allowedPeers :=
        (assignPeers_origin hpeers).resolve_right fun hother => hother.1 hkey
      obtain ⟨hmaximum, hminimum⟩ := (hgiven id peers hmem).2 policy (.inl hbatchPolicy)
      refine ⟨?_, peers, hpeers, hminimum⟩
      have hsome : 0 < nodes.length := by simpa using length_pos_of_mem hid
      rw [maximumPossible, if_neg (by rw [length_append]; omega)] at hmaximum
      exact hmaximum

end Invariant

section Runs

variable {r t : PeerRegistry} {map : List (String × Nat)} {known ids : List String}

theorem Keyed.append (h : Keyed map known) (new : List String) :
    Keyed (map ++ unrequested new) (known ++ new) := by
  intro id
  have hid := h id
  simp [unrequested] at hid ⊢
  rw [hid]

theorem Keyed.filter (h : Keyed map known) (p : String → Bool) :
    Keyed (map.filter fun e => p e.1) (known.filter p) := by
  intro id
  rw [mem_filter, ← h id]
  simp

theorem Keyed.congr (h : Keyed map known) (hids : ∀ id, id ∈ known ↔ id ∈ ids) : Keyed map ids :=
  fun id => (h id).trans (hids id)

/-- The nodes that stay and the new ones. -/
theorem mem_stay_or_new {id : String} :
    id ∈ known.filter (· ∈ ids) ++ ids.filter (· ∉ known) ↔ id ∈ ids := by
  by_cases hid : id ∈ known <;> simp [hid]

theorem create_registered
    {nodes : List ChainNodeConfig} {policies : PolicyMap} {allowedPeers : AllowedPeerMap}
    {allPeers : List String} (h : create nodes policies allowedPeers allPeers = .ok r)
    (hdistinct : (nodes.map (·.id)).Nodup) : r.Registered := by
  unfold create at h
  cases hcreate : PeerConnectivityController.create nodes policies allowedPeers allPeers with
  | error e =>
    rw [hcreate] at h
    exact nomatch h
  | ok c =>
    rw [hcreate] at h
    cases h
    obtain ⟨hconsistent, rfl⟩ := create_consistent hcreate hdistinct
    have hkeyed : Keyed (unrequested (c.nodes.map (·.id))) (c.nodes.map (·.id)) := by
      simp [Keyed, unrequested]
    exact ⟨hconsistent, hkeyed, hkeyed, nofun⟩

theorem Registered.withController {c : PeerConnectivityController} (hr : r.Registered)
    (hc : Consistent c) (hnodes : c.nodes = r.controller.nodes) :
    Registered { r with controller := c } := by
  have hids : ids { r with controller := c } = r.ids := congrArg (map ChainNodeConfig.id) hnodes
  refine ⟨hc, ?_, ?_, ?_⟩
  · exact hids ▸ hr.requests
  · exact hids ▸ hr.completions
  · rw [hids]
    exact hr.suppressed

/-- New nodes get their entries, and those of the nodes that leave are forgotten. -/
theorem Registered.final {c : PeerConnectivityController} (hr : r.Registered)
    (hc : Consistent c) : (r.preparedFinalState c).Registered := by
  have hnew : (fun id => !r.controller.nodes.any fun node => node.id = id) =
      fun id => decide (id ∉ r.ids) := by
    funext id
    rw [Bool.eq_iff_iff]
    simp [ids]
  have hkeyed : ∀ {map : List (String × Nat)}, Keyed map r.ids →
      Keyed (map.filter (fun e => e.1 ∈ c.nodes.map (·.id)) ++ unrequested
        ((c.nodes.map (·.id)).filter fun id => !r.controller.nodes.any fun node => node.id = id))
        (c.nodes.map (·.id)) := by
    intro map h
    rw [hnew]
    exact ((h.filter (· ∈ c.nodes.map (·.id))).append _).congr fun id => mem_stay_or_new
  refine ⟨hc, hkeyed hr.requests, hkeyed hr.completions, fun pair hpair => ?_⟩
  obtain ⟨peers, hpeers, hmem⟩ := (Option.any_eq_true _ _).mp (mem_filter.mp hpair).2
  exact ⟨(hc.keys pair.1).mp (lookup_isSome_iff_mem_keys.mp (Option.isSome_of_eq_some hpeers)),
    (hc.peers _ _ hpeers).registered _ (of_decide_eq_true hmem)⟩

/-- A call that throws changes nothing, and every call keeps the registry in order. -/
structure Keeps (r : PeerRegistry) (o : Outcome) : Prop where
  unchanged : o.2.isSome = true → o.1 = r
  registered : r.Registered → o.1.Registered

variable {o : Outcome}

theorem Keeps.refuse {e : Option String} : Keeps r (r, e) := ⟨fun _ => rfl, fun h => h⟩

theorem Keeps.guard {c : Prop} [Decidable c] {e : String} (h : ¬ c → Keeps r o) :
    Keeps r (if c then (r, some e) else o) := by
  split
  next => exact .refuse
  next hc => exact h hc

theorem Keeps.done (h : r.Registered → t.Registered) : Keeps r (t, none) := ⟨nofun, h⟩

theorem Keeps.answer {x : Except PeerError PeerConnectivityController}
    {f : PeerConnectivityController → Outcome} (h : ∀ c, x = .ok c → Keeps r (f c)) :
    Keeps r (answer r x f) := by
  cases x with
  | error e => exact .refuse
  | ok c => exact h c rfl

theorem call_keeps (r : PeerRegistry) (operation : RegistryOperation) :
    Keeps r (r.call operation) := by
  cases operation with
  | registerNodes nodes policies allowedPeers =>
    refine .answer fun c hc => .guard fun _ => .done fun hr => ?_
    obtain ⟨hconsistent, hnodes⟩ := registerNodes_consistent hr.controller hc
    have hids : ∀ id, id ∈ r.ids ++ nodes.map (·.id) ↔ id ∈ c.nodes.map (·.id) := by
      simp [ids, hnodes]
    refine ⟨hconsistent, (hr.requests.append _).congr hids, (hr.completions.append _).congr hids,
      fun pair hpair => ?_⟩
    obtain ⟨hfirst, hsecond⟩ := hr.suppressed pair hpair
    exact ⟨(hids _).mp (mem_append_left _ hfirst), (hids _).mp (mem_append_left _ hsecond)⟩
  | finalRegistration nodes policies allowedPeers allPeers commit =>
    refine .answer fun c hc => .done fun hr => ?_
    split
    next => exact hr.final (prepareFinalRegistration_consistent hc)
    next => exact hr
  | unregisterNode id =>
    refine .answer fun c hc => .done fun hr => ?_
    obtain ⟨hconsistent, hids⟩ := unregisterNode_consistent hr.controller hc
    have hleft : ∀ other, other ∈ r.ids.filter (· ≠ id) ↔ other ∈ c.nodes.map (·.id) := by
      intro other
      rw [hids, hr.controller.distinct.mem_erase_iff, mem_filter, decide_eq_true_eq, and_comm]
      rfl
    refine ⟨hconsistent, (hr.requests.filter _).congr hleft, (hr.completions.filter _).congr hleft,
      fun pair hpair => ?_⟩
    obtain ⟨hmem, hother⟩ := mem_filter.mp hpair
    have hother := of_decide_eq_true hother
    have hold := hr.suppressed pair hmem
    exact ⟨(hleft _).mp (mem_filter.mpr ⟨hold.1, decide_eq_true hother.1⟩),
      (hleft _).mp (mem_filter.mpr ⟨hold.2, decide_eq_true hother.2⟩)⟩
  | setPolicy id policy =>
    refine .answer fun c hc => .done fun hr => ?_
    obtain ⟨hconsistent, hnodes⟩ := setPolicy_consistent hr.controller hc
    exact hr.withController hconsistent hnodes
  | setAllowedPeers id peers =>
    refine .answer fun c hc => .done fun hr => ?_
    obtain ⟨hconsistent, hnodes⟩ := setAllowedPeers_consistent hr.controller hc
    exact hr.withController hconsistent hnodes
  | disconnectPeer source target =>
    refine .guard fun hsource => .guard fun htarget => .guard fun _ => .done fun hr => ?_
    refine ⟨hr.controller, hr.requests, hr.completions, fun pair hpair => ?_⟩
    rcases mem_append.mp hpair with hold | hnew
    · exact hr.suppressed pair hold
    · rw [mem_singleton.mp hnew]
      exact ⟨not_not.mp hsource, not_not.mp htarget⟩

/--
Whatever is called on a controller that was made with different node ids, its maps are about
the registered nodes and its policies can be met; a call that throws and a preparation that is
given up change nothing.
-/
theorem registry_stays_consistent
    {nodes : List ChainNodeConfig} {policies : PolicyMap} {allowedPeers : AllowedPeerMap}
    {allPeers : List String} {start : PeerRegistry} {operations : List RegistryOperation}
    (hdistinct : (nodes.map (·.id)).Nodup)
    (hcreate : create nodes policies allowedPeers allPeers = .ok start)
    (hrun : registryMachine.run start operations = some r) :
    r.Registered ∧ (∀ operation, (r.call operation).2.isSome = true → (r.call operation).1 = r) ∧
      ∀ nodes policies allowedPeers allPeers,
        (r.call (.finalRegistration nodes policies allowedPeers allPeers false)).1 = r := by
  refine ⟨?_, fun operation => (call_keeps r operation).unchanged, ?_⟩
  · refine registryMachine.run_preserves (I := Registered) ?_ hrun
      (create_registered hcreate hdistinct)
    intro s operation u hstep hs
    cases Option.some.inj hstep
    exact (call_keeps s operation).registered hs
  · intro nodes policies allowedPeers allPeers
    simp only [call, answer]
    split <;> rfl

/-- Three nodes, of which the first has one peer. -/
def threeNodes : PeerRegistry :=
  ⟨⟨[peerNode "a" "h", peerNode "b" "h", peerNode "c" "h"], [("a", .exactly 1)], [],
    [("a", ["b"]), ("b", []), ("c", [])]⟩, unrequested ["a", "b", "c"],
    unrequested ["a", "b", "c"], []⟩

theorem removed_node_leaves_consistent :
    ∃ r, registryMachine.run threeNodes [.disconnectPeer "a" "c", .unregisterNode "c"] = some r ∧
      r.ids = ["a", "b"] ∧ r.Registered := by
  obtain ⟨r, hrun, hids⟩ := registryMachine.run_of_any threeNodes
    [.disconnectPeer "a" "c", .unregisterNode "c"] (fun r => decide (r.ids = ["a", "b"]))
    (by decide +kernel)
  have hcreate : create threeNodes.controller.nodes threeNodes.controller.policies
      threeNodes.controller.allowedPeers [] = .ok threeNodes := rfl
  exact ⟨r, hrun, of_decide_eq_true hids, (registry_stays_consistent (by decide) hcreate hrun).1⟩

/-- The constructor counts nodes and entries: a node that comes twice makes room for a stranger. -/
theorem stranger_has_allowed_peers :
    ∃ r, create [peerNode "a" "h", peerNode "a" "h"] [] [("a", []), ("b", [])] [] = .ok r ∧
      ¬ Keyed r.controller.allowedPeers r.ids :=
  ⟨_, rfl, fun h => absurd ((h "b").mp (by decide)) (by decide)⟩

end Runs

end PeerRegistry

end Bbp
