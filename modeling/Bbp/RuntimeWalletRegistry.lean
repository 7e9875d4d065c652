import Bbp.Library.Stores
import Bbp.SimulationRegistry

/-!
# Generations of the runtime wallet registry

The runtime registry publishes generations of the simulation registry.  An update or a
replacement is prepared first; it holds the registry's mutex until it is committed or given
up, so no other call comes between.  Beside the generations stand the target addresses that
the workload pays to and no wallet of the simulation owns.

A replacement is validated from scratch.  The validation accepts every well-formed registry
with complete identities and distinct addresses.
-/

namespace Bbp

open Library List

namespace SimulationRegistry

section Replacement

/-- The identities of the wallets are filled in. -/
def walletsComplete (r : SimulationRegistry) : Bool :=
  r.wallets.all fun w => w.nodeId ≠ "" ∧ w.address ≠ "" ∧ w.fundingAddress ≠ ""

/-- Why a registry may not replace the current one. -/
def replacementFault (r : SimulationRegistry) : Option String :=
  let t := r.topology
  let misplaced (nodes : List Nat) : Bool := ¬ (nodes.Nodup ∧ ∀ n ∈ nodes, n < t.nodeCount)
  if ¬ (t.walletNodeCount = t.walletNodes.length ∧ t.minerNodeCount = t.minerNodes.length ∧
      t.masternodeNodeCount = t.masternodeNodes.length) then
    some "runtime role replacement count does not match its node indexes"
  else if misplaced t.walletNodes then
    some "runtime role replacement contains an invalid wallet node"
  else if misplaced t.minerNodes then some "runtime role replacement contains an invalid miner node"
  else if misplaced t.masternodeNodes then
    some "runtime role replacement contains an invalid masternode node"
  else if r.masternodes.length ≠ t.masternodeNodes.length then
    some "runtime role replacement masternode identities do not match its node indexes"
  else if !t.allowMinerWalletOverlap ∧ t.minerNodes.any (· ∈ t.walletNodes) then
    some "runtime role replacement contains a forbidden role overlap"
  else if ¬ (r.walletsComplete ∧ (r.wallets.map (·.address)).Nodup ∧
      r.wallets.map (·.walletIndex) = (range r.wallets.length).map (· + 1) ∧
      ∀ w ∈ r.wallets, w.node ≠ 0 ∧ w.node ≤ t.nodeCount ∧ w.node - 1 ∈ t.walletNodes) then
    some "runtime role replacement contains an invalid wallet identity"
  else if ¬ ((r.masternodes.map (·.proTxHash)).Nodup ∧ (r.masternodes.map (·.service)).Nodup ∧
      ∀ m ∈ r.masternodes, m.node ≠ 0 ∧ m.node ≤ t.nodeCount ∧ m.complete ∧ m.state ≠ "" ∧
        m.node - 1 ∈ t.masternodeNodes) then
    some "runtime role replacement contains an invalid masternode identity"
  else none

theorem replacementFault_of_wellformed {r : SimulationRegistry} (h : r.Wellformed)
    (hcomplete : r.walletsComplete = true) (haddresses : (r.wallets.map (·.address)).Nodup) :
    replacementFault r = none := by
  have hplaced : ∀ nodes, Placed r.topology.nodeCount nodes →
      nodes.Nodup ∧ ∀ n ∈ nodes, n < r.topology.nodeCount :=
    fun nodes hnodes => ⟨hnodes.distinct, hnodes.below⟩
  have hoverlap : ¬ (!r.topology.allowMinerWalletOverlap ∧
      r.topology.minerNodes.any (· ∈ r.topology.walletNodes)) := by
    rintro ⟨hallow, hany⟩
    obtain ⟨n, hn, hwallet⟩ := any_eq_true.mp hany
    exact h.apart (by simpa using hallow) n hn (of_decide_eq_true hwallet)
  have hindexes : r.wallets.map (·.walletIndex) = (range r.wallets.length).map (· + 1) := by
    apply ext_getElem (by simp)
    intro i hi _
    rw [length_map] at hi
    simpa using h.indexed i _ (getElem?_eq_getElem hi)
  have hwallets : ∀ w ∈ r.wallets,
      w.node ≠ 0 ∧ w.node ≤ r.topology.nodeCount ∧ w.node - 1 ∈ r.topology.walletNodes := by
    intro w hw
    have hrole := (h.backed (w.node - 1)).mpr (mem_map_of_mem hw)
    have hbelow := h.wallets.below _ hrole
    exact ⟨h.numbered w hw, by omega, hrole⟩
  have hunique := pairwise_and_iff.mp h.unique
  have hmasternodes : ∀ m ∈ r.masternodes, m.node ≠ 0 ∧ m.node ≤ r.topology.nodeCount ∧
      m.complete ∧ m.state ≠ "" ∧ m.node - 1 ∈ r.topology.masternodeNodes := by
    intro m hm
    obtain ⟨hnode, htexts, hstate⟩ := h.complete m hm
    have hrole := h.staffed.mem_iff.mp (mem_map_of_mem (f := (·.node - 1)) hm)
    have hbelow := h.masternodes.below _ hrole
    exact ⟨hnode, by omega, htexts, by rw [hstate]; decide, hrole⟩
  have hlength : r.masternodes.length = r.topology.masternodeNodes.length := by
    rw [← h.staffed.length_eq, length_map]
  unfold replacementFault
  rw [if_neg (not_not.mpr h.counts), if_neg (by simpa using hplaced _ h.wallets),
    if_neg (by simpa using hplaced _ h.miners), if_neg (by simpa using hplaced _ h.masternodes),
    if_neg (not_not.mpr hlength), if_neg hoverlap,
    if_neg (not_not.mpr ⟨hcomplete, haddresses, hindexes, hwallets⟩),
    if_neg (not_not.mpr ⟨pairwise_map.mpr hunique.1, pairwise_map.mpr hunique.2, hmasternodes⟩)]

/-- A topology as the resolver hands it over, before any masternode is registered. -/
structure Resolved (t : NodeRoleTopology) : Prop where
  counts : t.walletNodeCount = t.walletNodes.length ∧ t.minerNodeCount = t.minerNodes.length ∧
    t.masternodeNodeCount = 0
  wallets : Placed t.nodeCount t.walletNodes
  miners : Placed t.nodeCount t.minerNodes
  noMasternodes : t.masternodeNodes = []
  apart : t.allowMinerWalletOverlap = false → ∀ n, n ∈ t.minerNodes → n ∉ t.walletNodes
  configured : t.configured = true ∨ t.walletNodes = []

theorem fromTopology_wellformed {t : NodeRoleTopology} {r : SimulationRegistry} (h : Resolved t)
    (hfrom : fromTopology t = .ok r) : r.Wellformed := by
  have hmasternodes : Placed t.nodeCount t.masternodeNodes := by
    rw [h.noMasternodes]
    exact ⟨nodup_nil, nofun⟩
  have hcounts : t.masternodeNodeCount = t.masternodeNodes.length := by
    rw [h.noMasternodes]
    exact h.counts.2.2
  have hwellformed : Wellformed
      ⟨t, t.walletNodes.mapIdx fun i n => ⟨i + 1, n + 1, "", "", ""⟩, []⟩ :=
    { counts := ⟨h.counts.1, h.counts.2.1, hcounts⟩
      wallets := h.wallets, miners := h.miners, masternodes := hmasternodes
      indexed := by
        intro i w hw
        rw [getElem?_mapIdx] at hw
        obtain ⟨_, _, rfl⟩ := Option.map_eq_some_iff.mp hw
        rfl
      numbered := by
        intro w hw
        obtain ⟨i, _, rfl⟩ := mem_mapIdx.mp hw
        exact Nat.succ_ne_zero _
      backed := by
        intro n
        have hnodes := map_mapIdx_of_field (g := fun w : WalletIdentity => w.node - 1) (p := id)
          (f := fun i n => ⟨i + 1, n + 1, "", "", ""⟩) (fun _ _ => rfl) t.walletNodes
        rw [hnodes, map_id]
      apart := h.apart, unique := .nil, complete := nofun
      staffed := by
        rw [h.noMasternodes]
        exact .nil }
  unfold fromTopology at hfrom
  split at hfrom
  next hunset =>
    rcases h.configured with hset | hempty
    · simp [hset] at hunset
    · cases hfrom
      rw [hempty] at hwellformed
      exact hwellformed
  next =>
    split_ifs at hfrom
    cases hfrom
    exact hwellformed

/--
Whatever calls are made on a registry of a resolved topology, its lists, counts and identities
belong together, it may replace the current registry as soon as the wallets are complete and
have distinct addresses, and a call that throws leaves it unchanged.
-/
theorem calls_keep_registry_wellformed
    {t : NodeRoleTopology} {r₀ r : SimulationRegistry} {calls : List RegistryCall} (ht : Resolved t)
    (hfrom : fromTopology t = .ok r₀) (hrun : registryMachine.run r₀ calls = some r) :
    r.Wellformed ∧
      (r.walletsComplete = true → (r.wallets.map (·.address)).Nodup → replacementFault r = none) ∧
      ∀ call, (perform call r).2.isSome = true → (perform call r).1 = r := by
  have hwellformed : r.Wellformed := by
    refine registryMachine.run_preserves (I := Wellformed) ?_ hrun
      (fromTopology_wellformed ht hfrom)
    intro s call u hstep hs
    cases Option.some.inj hstep
    exact (perform_keeps call s).wellformed hs
  exact ⟨hwellformed, replacementFault_of_wellformed hwellformed,
    fun call => (perform_keeps call r).unchanged⟩

theorem two_wallets_keep_registry_wellformed :
    ∃ r, registryMachine.run ⟨⟨true, 4, 1, 0, 0, false, [3], [], []⟩, [⟨1, 4, "", "", ""⟩], []⟩
        [.addWallet ⟨0, 1, "n1", "a", "f"⟩, .removeWalletNode 3] = some r ∧
      r.wallets = [⟨1, 1, "n1", "a", "f"⟩] ∧ replacementFault r = none := by
  obtain ⟨r, hrun, hr⟩ := registryMachine.run_of_any
    ⟨⟨true, 4, 1, 0, 0, false, [3], [], []⟩, [⟨1, 4, "", "", ""⟩], []⟩
    [.addWallet ⟨0, 1, "n1", "a", "f"⟩, .removeWalletNode 3]
    (fun r => decide (r.wallets = [⟨1, 1, "n1", "a", "f"⟩])) (by decide +kernel)
  have hwallets := of_decide_eq_true hr
  refine ⟨r, hrun, hwallets, ?_⟩
  refine (calls_keep_registry_wellformed (t := ⟨true, 4, 1, 0, 0, false, [3], [], []⟩)
    ⟨by decide, ⟨by decide, by decide⟩, ⟨by decide, by decide⟩, rfl, by decide, .inl rfl⟩ rfl
    hrun).2.1 ?_ ?_
  · rw [walletsComplete, hwallets]
    decide
  · rw [hwallets]
    decide

/--
The wallet of a later call can have an earlier node, and may share its address with another
wallet; and a topology can come with nodes in both roles, with a wrong number of miners, or
with wallet nodes that are not configured.
-/
theorem wallet_order_and_address_are_unchecked :
    (∃ r₀ r, fromTopology ⟨true, 4, 1, 0, 0, false, [3], [], []⟩ = .ok r₀ ∧
      registryMachine.run r₀ [.addWallet ⟨0, 1, "n1", "a", "f"⟩] = some r ∧
      r.topology.walletNodes ≠ r.wallets.map (·.node - 1)) ∧
    (∃ r₀ r, fromTopology ⟨true, 4, 0, 0, 0, false, [], [], []⟩ = .ok r₀ ∧
      registryMachine.run r₀ [.addWallet ⟨0, 1, "n1", "a", "f"⟩, .addWallet ⟨0, 2, "n2", "a", "g"⟩]
        = some r ∧
      r.walletsComplete = true ∧ replacementFault r ≠ none) ∧
    (∃ r, fromTopology ⟨true, 4, 1, 7, 0, false, [2], [2], []⟩ = .ok r ∧
      r.topology.minerNodeCount ≠ r.topology.minerNodes.length ∧
      r.topology.minerNodes.any (· ∈ r.topology.walletNodes) = true) ∧
    ∃ r, fromTopology ⟨false, 4, 1, 0, 0, false, [2], [], []⟩ = .ok r ∧
      r.topology.walletNodes ≠ r.wallets.map (·.node - 1) := by
  refine ⟨⟨_, _, rfl, rfl, by decide +kernel⟩,
    ⟨_, _, rfl, rfl, by decide +kernel, by decide +kernel⟩,
    ⟨_, rfl, by decide, by decide⟩, ⟨_, rfl, by decide⟩⟩

end Replacement

end SimulationRegistry

/-- The current generation, the enabled targets, and a prepared generation that holds the mutex. -/
structure RuntimeWalletRegistry where
  sequence : Nat
  registry : SimulationRegistry
  targetAddresses : List String
  prepared : Option SimulationRegistry

namespace RuntimeWalletRegistry

open SimulationRegistry

section Calls

def validTargetAddressText (address : String) : Bool :=
  address ≠ "" ∧ address.utf8ByteSize ≤ 512 ∧
    address.toList.all fun c => 32 < c.toNat ∧ c.toNat < 127

/-- The address belongs to a wallet of the registry. -/
def manages (r : SimulationRegistry) (address : String) : Bool :=
  r.wallets.any fun w => w.address = address ∨ w.fundingAddress = address

def setTargetAddress (address : String) (enabled : Bool) (s : RuntimeWalletRegistry) :
    Except String RuntimeWalletRegistry :=
  if !validTargetAddressText address then
    .error "target address must be 1..512 printable non-space characters"
  else if enabled && manages s.registry address then
    .error "address already belongs to a managed wallet"
  else
    .ok { s with
      targetAddresses :=
        if enabled then
          if address ∈ s.targetAddresses then s.targetAddresses
          else s.targetAddresses ++ [address]
        else s.targetAddresses.erase address }

/-- The registry after a call that did not throw. -/
def orThrow (o : Outcome) : Except String SimulationRegistry := o.2.elim (.ok o.1) .error

def publishWallet (count : Nat) (next : SimulationRegistry) (wallet : WalletIdentity) :
    Except String SimulationRegistry :=
  if wallet.node = 0 ∨ count < wallet.node ∨ wallet.nodeId = "" ∨ wallet.address = "" ∨
      wallet.fundingAddress = "" then
    .error "runtime wallet publication contains an incomplete wallet"
  else if next.wallets.any (·.address = wallet.address) then
    .error "runtime wallet publication contains a duplicate address"
  else orThrow (addWallet wallet next)

def publishMasternode (count : Nat) (next : SimulationRegistry) (m : MasternodeIdentity) :
    Except String SimulationRegistry :=
  if m.node = 0 ∨ count < m.node ∨ !m.complete ∨ m.state ≠ "READY" ∨
      next.masternodes.any (fun x => x.node - 1 = m.node - 1 ∨ x.proTxHash = m.proTxHash ∨
        x.service = m.service) then
    .error "runtime role publication contains an invalid masternode"
  else orThrow (addMasternode m next)

/-- Miner nodes in order; a repeated one has its own text. -/
def publishMiners : List Nat → List Nat → SimulationRegistry → Except String SimulationRegistry
  | _, [], next => .ok next
  | seen, node :: nodes, next =>
    if node ∈ seen then .error "runtime role publication contains a duplicate miner node"
    else orThrow (addMinerNode node next) >>= publishMiners (node :: seen) nodes

def prepareUpdate (expected : Nat) (wallets : List WalletIdentity) (minerNodes : List Nat)
    (masternodes : List MasternodeIdentity) (count : Nat) (s : RuntimeWalletRegistry) :
    Except String RuntimeWalletRegistry :=
  if s.sequence = 0 then .error "runtime wallet registry is not initialized"
  else if s.sequence ≠ expected then .error "runtime wallet registry changed before publication"
  else if wallets = [] ∧ minerNodes = [] ∧ masternodes = [] ∧
      count = s.registry.topology.nodeCount then
    .error "runtime role publication requires a state change"
  else if s.sequence = 2 ^ 64 - 1 then .error "runtime wallet registry generation overflow"
  else do
    let next ← orThrow (setRuntimeNodeCount count s.registry)
    let next ← wallets.foldlM (publishWallet count) next
    let next ← publishMiners [] minerNodes next
    let next ← masternodes.foldlM (publishMasternode count) next
    return { s with prepared := some next }

def prepareReplace (expected : Nat) (registry : SimulationRegistry) (s : RuntimeWalletRegistry) :
    Except String RuntimeWalletRegistry :=
  if s.sequence = 0 then .error "runtime wallet registry is not initialized"
  else if s.sequence ≠ expected then
    .error "runtime wallet registry changed before replacement publication"
  else if s.sequence = 2 ^ 64 - 1 then .error "runtime wallet registry generation overflow"
  else (replacementFault registry).elim (.ok { s with prepared := some registry }) .error

inductive RuntimeCall where
  | setTargetAddress (address : String) (enabled : Bool)
  | prepareUpdate (expected : Nat) (wallets : List WalletIdentity) (minerNodes : List Nat)
      (masternodes : List MasternodeIdentity) (count : Nat)
  | prepareReplace (expected : Nat) (registry : SimulationRegistry)
  | commit
  | abandon

/-- A successful call.  While a generation is prepared, other calls wait for the mutex. -/
def step (s : RuntimeWalletRegistry) : RuntimeCall → Option RuntimeWalletRegistry
  | .setTargetAddress address enabled =>
    if s.prepared.isSome then none else (s.setTargetAddress address enabled).toOption
  | .prepareUpdate expected wallets minerNodes masternodes count =>
    if s.prepared.isSome then none
    else (s.prepareUpdate expected wallets minerNodes masternodes count).toOption
  | .prepareReplace expected registry =>
    if s.prepared.isSome then none else (s.prepareReplace expected registry).toOption
  | .commit =>
    s.prepared.map fun next =>
      { s with sequence := s.sequence + 1, registry := next, prepared := none }
  | .abandon => s.prepared.map fun _ => { s with prepared := none }

def runtimeMachine : Machine RuntimeWalletRegistry RuntimeCall := ⟨step⟩

/-- The registry after it was given its first generation. -/
def ofRegistry (registry : SimulationRegistry) : RuntimeWalletRegistry := ⟨1, registry, [], none⟩

end Calls

section Targets

variable {targets : List String}

/-- No wallet of the registry has one of the targets. -/
def Foreign (targets : List String) (r : SimulationRegistry) : Prop :=
  ∀ w, w ∈ r.wallets → w.address ∉ targets ∧ w.fundingAddress ∉ targets

variable {r : SimulationRegistry}

theorem orThrow_eq_ok {o : Outcome} (h : orThrow o = .ok r) : o = (r, none) := by
  obtain ⟨t, _ | e⟩ := o
  · cases Except.ok.inj h
    rfl
  · exact nomatch h

variable {next : SimulationRegistry}

theorem Foreign.of_wallets {o : Outcome} (hwallets : o.1.wallets = r.wallets)
    (h : orThrow o = .ok next) (hr : Foreign targets r) : Foreign targets next := by
  rw [orThrow_eq_ok h] at hwallets
  unfold Foreign
  rw [hwallets]
  exact hr

theorem foldlM_foreign
    {α : Type} {f : SimulationRegistry → α → Except String SimulationRegistry} {l : List α}
    (hf : ∀ x ∈ l, ∀ r next, f r x = .ok next → Foreign targets r → Foreign targets next)
    (h : l.foldlM f r = .ok next) (hr : Foreign targets r) : Foreign targets next := by
  induction l generalizing r with
  | nil =>
    cases h
    exact hr
  | cons x l ih =>
    rw [foldlM_cons] at h
    obtain ⟨middle, hx, hrest⟩ := bind_eq_ok.mp h
    exact ih (fun y hy => hf y (mem_cons_of_mem x hy)) hrest (hf x mem_cons_self r middle hx hr)

theorem publishWallet_foreign {count : Nat} {w : WalletIdentity}
    (hw : w.address ∉ targets ∧ w.fundingAddress ∉ targets) (h : publishWallet count r w = .ok next)
    (hr : Foreign targets r) : Foreign targets next := by
  unfold publishWallet at h
  split_ifs at h
  have hadd := orThrow_eq_ok h
  unfold addWallet at hadd
  iterate 3
    split at hadd
    · exact nomatch hadd
  rw [← (Prod.mk.inj hadd).1]
  intro x hx
  rcases mem_append.mp hx with hold | hnew
  · exact hr x hold
  · rw [mem_singleton.mp hnew]
    exact hw

theorem publishMiners_foreign {nodes seen : List Nat} (h : publishMiners seen nodes r = .ok next)
    (hr : Foreign targets r) : Foreign targets next := by
  induction nodes generalizing seen r with
  | nil =>
    cases h
    exact hr
  | cons node nodes ih =>
    unfold publishMiners at h
    split_ifs at h
    obtain ⟨middle, hmiddle, hrest⟩ := bind_eq_ok.mp h
    refine ih hrest (Foreign.of_wallets ?_ hmiddle hr)
    unfold addMinerNode
    grind

variable {s t : RuntimeWalletRegistry}

/-- What is prepared has the wallets of the current generation and the new ones. -/
theorem prepareUpdate_foreign
    {expected count : Nat} {wallets : List WalletIdentity} {minerNodes : List Nat}
    {masternodes : List MasternodeIdentity}
    (h : s.prepareUpdate expected wallets minerNodes masternodes count = .ok t)
    (hnew : ∀ w ∈ wallets, w.address ∉ targets ∧ w.fundingAddress ∉ targets)
    (hs : Foreign targets s.registry) :
    ∃ next, t = { s with prepared := some next } ∧ Foreign targets next := by
  unfold prepareUpdate at h
  iterate 4
    split at h
    · exact nomatch h
  obtain ⟨grown, hgrown, h⟩ := bind_eq_ok.mp h
  obtain ⟨paid, hpaid, h⟩ := bind_eq_ok.mp h
  obtain ⟨mined, hmined, h⟩ := bind_eq_ok.mp h
  obtain ⟨next, hnext, h⟩ := bind_eq_ok.mp h
  have hpaid' : Foreign targets paid := by
    refine foldlM_foreign (fun w hw r next hw' => publishWallet_foreign (hnew w hw) hw') hpaid
      (Foreign.of_wallets ?_ hgrown hs)
    unfold setRuntimeNodeCount
    grind
  refine ⟨next, (Except.ok.inj h).symm,
    foldlM_foreign (fun m _ r next hm => ?_) hnext (publishMiners_foreign hmined hpaid')⟩
  unfold publishMasternode at hm
  split_ifs at hm
  refine Foreign.of_wallets ?_ hm
  unfold addMasternode
  grind

/-- No target belongs to a wallet of the current or of a prepared generation. -/
def TargetsForeign (s : RuntimeWalletRegistry) : Prop :=
  Foreign s.targetAddresses s.registry ∧
    ∀ next, s.prepared = some next → Foreign s.targetAddresses next

/-- A prepared generation brings no wallet with an enabled target. -/
def BringsNoTarget (s : RuntimeWalletRegistry) : RuntimeCall → Prop
  | .prepareUpdate _ wallets _ _ _ =>
    ∀ w, w ∈ wallets → w.address ∉ s.targetAddresses ∧ w.fundingAddress ∉ s.targetAddresses
  | .prepareReplace _ registry => Foreign s.targetAddresses registry
  | _ => True

theorem setTargetAddress_foreign {address : String} {enabled : Bool}
    (h : s.setTargetAddress address enabled = .ok t) (hs : Foreign s.targetAddresses s.registry) :
    t.prepared = s.prepared ∧ Foreign t.targetAddresses t.registry := by
  unfold setTargetAddress at h
  split at h
  · exact nomatch h
  split at h
  · exact nomatch h
  rename_i hmanaged
  cases h
  refine ⟨rfl, fun w hw => ?_⟩
  have hold := hs w hw
  cases enabled with
  | false => exact ⟨fun hmem => hold.1 (mem_of_mem_erase hmem),
      fun hmem => hold.2 (mem_of_mem_erase hmem)⟩
  | true =>
    have hother : ¬ (w.address = address ∨ w.fundingAddress = address) := fun hown =>
      hmanaged (any_eq_true.mpr ⟨w, hw, decide_eq_true hown⟩)
    grind

theorem step_targetsForeign {call : RuntimeCall} (h : step s call = some t)
    (hnew : BringsNoTarget s call) (hs : TargetsForeign s) : TargetsForeign t := by
  cases call with
  | setTargetAddress address enabled =>
    obtain ⟨hfree, h⟩ := Option.ite_none_left_eq_some.mp h
    obtain ⟨hprepared, ht⟩ := setTargetAddress_foreign (eq_ok_of_toOption h) hs.1
    refine ⟨ht, fun next hnext => ?_⟩
    rw [← hprepared, hnext] at hfree
    exact absurd rfl hfree
  | prepareUpdate expected wallets minerNodes masternodes count =>
    obtain ⟨_, h⟩ := Option.ite_none_left_eq_some.mp h
    obtain ⟨next, rfl, hnext⟩ := prepareUpdate_foreign (eq_ok_of_toOption h) hnew hs.1
    exact ⟨hs.1, fun _ heq => Option.some.inj heq ▸ hnext⟩
  | prepareReplace expected registry =>
    obtain ⟨_, h⟩ := Option.ite_none_left_eq_some.mp h
    have h := eq_ok_of_toOption h
    unfold prepareReplace at h
    iterate 3
      split at h
      · exact nomatch h
    cases hfault : replacementFault registry with
    | some e => exact nomatch hfault ▸ h
    | none =>
      rw [hfault] at h
      cases h
      exact ⟨hs.1, fun _ heq => Option.some.inj heq ▸ hnew⟩
  | commit =>
    obtain ⟨next, hnext, rfl⟩ := Option.map_eq_some_iff.mp h
    exact ⟨hs.2 next hnext, nofun⟩
  | abandon =>
    obtain ⟨next, hnext, rfl⟩ := Option.map_eq_some_iff.mp h
    exact ⟨hs.1, nofun⟩

/--
While no generation with a wallet of a target is prepared, no target is the address or the
funding address of a wallet of the current generation.
-/
theorem targets_are_never_managed
    {registry : SimulationRegistry} {s : RuntimeWalletRegistry} {calls : List RuntimeCall}
    (hnew : runtimeMachine.Meets BringsNoTarget (ofRegistry registry) calls)
    (hrun : runtimeMachine.run (ofRegistry registry) calls = some s) :
    ∀ address, address ∈ s.targetAddresses → manages s.registry address = false := by
  have hforeign : TargetsForeign s :=
    runtimeMachine.meets_preserves (I := TargetsForeign)
      (fun _ _ _ => step_targetsForeign) hnew hrun
      ⟨fun _ _ => ⟨nofun, nofun⟩, nofun⟩
  intro address hmem
  refine List.any_eq_false.mpr fun w hw => ?_
  have hw := hforeign.1 w hw
  rw [decide_eq_true_eq]
  rintro (rfl | rfl)
  · exact hw.1 hmem
  · exact hw.2 hmem

/-- A node without a role and a wallet for it. -/
def oneNode : SimulationRegistry := ⟨⟨true, 1, 0, 0, 0, false, [], [], []⟩, [], []⟩

theorem published_wallet_is_not_a_target :
    ∃ s, runtimeMachine.run (ofRegistry oneNode)
        [.setTargetAddress "x" true, .prepareUpdate 1 [⟨0, 1, "n1", "a", "f"⟩] [] [] 1, .commit]
        = some s ∧
      s.targetAddresses = ["x"] ∧ s.sequence = 2 ∧ manages s.registry "x" = false := by
  obtain ⟨s, hrun, hs⟩ := runtimeMachine.run_of_any (ofRegistry oneNode)
    [.setTargetAddress "x" true, .prepareUpdate 1 [⟨0, 1, "n1", "a", "f"⟩] [] [] 1, .commit]
    (fun s => decide (s.targetAddresses = ["x"] ∧ s.sequence = 2)) (by decide +kernel)
  have hfacts := of_decide_eq_true hs
  refine ⟨s, hrun, hfacts.1, hfacts.2, targets_are_never_managed ?_ hrun "x" ?_⟩
  · refine ⟨trivial, fun t ht => ⟨?_, fun _ _ => ⟨trivial, fun _ _ => trivial⟩⟩⟩
    have htargets : t.targetAddresses = ["x"] := by
      cases ht
      rfl
    intro w hw
    rw [htargets, List.mem_singleton.mp hw]
    decide
  · rw [hfacts.1]
    exact List.mem_singleton_self _

/-- A wallet published later may have an address that is already a target. -/
theorem published_wallet_takes_target :
    ∃ s, runtimeMachine.run (ofRegistry oneNode)
        [.setTargetAddress "x" true, .prepareUpdate 1 [⟨0, 1, "n1", "x", "f"⟩] [] [] 1, .commit]
        = some s ∧
      "x" ∈ s.targetAddresses ∧ manages s.registry "x" = true := by
  obtain ⟨s, hrun, hs⟩ := runtimeMachine.run_of_any (ofRegistry oneNode)
    [.setTargetAddress "x" true, .prepareUpdate 1 [⟨0, 1, "n1", "x", "f"⟩] [] [] 1, .commit]
    (fun s => decide ("x" ∈ s.targetAddresses ∧ manages s.registry "x" = true))
    (by decide +kernel)
  exact ⟨s, hrun, of_decide_eq_true hs⟩

end Targets

end RuntimeWalletRegistry

end Bbp
