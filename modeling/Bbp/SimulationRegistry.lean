import Bbp.Library.Transition

/-!
# The registry of roles

A registry holds the nodes of each role beside the identities that back them: lists, counts
and identities are edited together.  A call that throws keeps what it has changed so far, so
an operation is a function to the registry it leaves and the text it throws.

The node lists of wallets and masternodes are kept sorted and without repetition, while the
identities stay in the order in which they were added.  `Wellformed` says how they belong
together.
-/

namespace Bbp

open Library List

structure WalletIdentity where
  walletIndex : Nat
  node : Nat
  nodeId : String
  address : String
  fundingAddress : String
deriving DecidableEq

structure MasternodeIdentity where
  node : Nat
  nodeId : String
  fundingWalletNodeId : String
  proTxHash : String
  service : String
  collateralAddress : String
  ownerAddress : String
  operatorPublicKey : String
  operatorSecretKey : String
  votingAddress : String
  payoutAddress : String
  state : String
deriving DecidableEq

structure NodeRoleTopology where
  configured : Bool
  nodeCount : Nat
  walletNodeCount : Nat
  minerNodeCount : Nat
  masternodeNodeCount : Nat
  allowMinerWalletOverlap : Bool
  walletNodes : List Nat
  minerNodes : List Nat
  masternodeNodes : List Nat
deriving DecidableEq

structure SimulationRegistry where
  topology : NodeRoleTopology
  wallets : List WalletIdentity
  masternodes : List MasternodeIdentity
deriving DecidableEq

/-- The identity has every text that a masternode needs. -/
def MasternodeIdentity.complete (m : MasternodeIdentity) : Bool :=
  [m.nodeId, m.fundingWalletNodeId, m.proTxHash, m.service, m.collateralAddress,
    m.ownerAddress, m.operatorPublicKey, m.operatorSecretKey, m.votingAddress,
    m.payoutAddress].all (· ≠ "")

namespace SimulationRegistry

/-- What a call has made of the registry, and the text of its exception. -/
abbrev Outcome := SimulationRegistry × Option String

section Operations

def fromTopology (topology : NodeRoleTopology) : Except String SimulationRegistry :=
  if !topology.configured then .ok ⟨topology, [], []⟩
  else if topology.walletNodeCount ≠ topology.walletNodes.length then
    .error "resolved topology wallet_nodes size must match wallet_node_count"
  else if topology.masternodeNodeCount ≠ topology.masternodeNodes.length then
    .error "resolved topology masternode_nodes size must match masternode_node_count"
  else .ok ⟨topology, topology.walletNodes.mapIdx fun i n => ⟨i + 1, n + 1, "", "", ""⟩, []⟩

/-- A node list with one more node. -/
def insertNode (node : Nat) (nodes : List Nat) : List Nat := (nodes ++ [node]).insertionSort (· ≤ ·)

def addWallet (wallet : WalletIdentity) (r : SimulationRegistry) : Outcome :=
  if wallet.node = 0 ∨ r.topology.nodeCount < wallet.node then
    (r, some "wallet backing node is out of range")
  else if r.wallets.length ≥ 2 ^ 32 - 1 then (r, some "wallet index exceeds uint32")
  else if !r.topology.allowMinerWalletOverlap ∧ wallet.node - 1 ∈ r.topology.minerNodes then
    (r, some "wallet node overlaps a miner node without overlap permission")
  else
    let nodes :=
      if wallet.node - 1 ∈ r.topology.walletNodes then r.topology.walletNodes
      else insertNode (wallet.node - 1) r.topology.walletNodes
    ({ r with
        topology := { r.topology with
          walletNodes := nodes, configured := true, walletNodeCount := nodes.length }
        wallets := r.wallets ++ [{ wallet with walletIndex := r.wallets.length + 1 }] }, none)

def removeWalletNode (node : Nat) (r : SimulationRegistry) : Outcome :=
  if node ∉ r.topology.walletNodes then (r, some "wallet removal references an unregistered node")
  else
    let kept := r.wallets.filter fun w => ¬ (w.node ≠ 0 ∧ w.node - 1 = node)
    if kept.length = r.wallets.length then
      ({ r with wallets := kept }, some "wallet role has no registered wallet identity")
    else
      let nodes := r.topology.walletNodes.erase node
      ({ r with
          topology := { r.topology with walletNodes := nodes, walletNodeCount := nodes.length }
          wallets := kept.mapIdx fun i w => { w with walletIndex := i + 1 } }, none)

def addMinerNode (node : Nat) (r : SimulationRegistry) : Outcome :=
  if r.topology.nodeCount ≤ node then (r, some "miner node is out of range")
  else if node ∈ r.topology.minerNodes then (r, some "miner node is already registered")
  else if !r.topology.allowMinerWalletOverlap ∧ node ∈ r.topology.walletNodes then
    (r, some "miner node overlaps a wallet node without overlap permission")
  else
    let nodes := insertNode node r.topology.minerNodes
    ({ r with
        topology := { r.topology with
          minerNodes := nodes, configured := true, minerNodeCount := nodes.length } }, none)

def removeMinerNodes (requested : List Nat) (r : SimulationRegistry) : Outcome :=
  if ¬ requested.Nodup then (r, some "miner removal contains duplicate node indexes")
  else if requested.any (· ∉ r.topology.minerNodes) then
    (r, some "miner removal references an unregistered node")
  else
    let nodes := r.topology.minerNodes.filter (· ∉ requested)
    ({ r with
        topology := { r.topology with
          minerNodes := nodes, minerNodeCount := nodes.length } }, none)

def addMasternode (m : MasternodeIdentity) (r : SimulationRegistry) : Outcome :=
  if m.node = 0 ∨ r.topology.nodeCount < m.node then
    (r, some "masternode backing node is out of range")
  else if ¬ (m.complete ∧ m.state = "READY") then (r, some "masternode identity is incomplete")
  else if m.node - 1 ∈ r.topology.masternodeNodes then
    (r, some "masternode node is already registered")
  else if r.masternodes.any fun x => x.proTxHash = m.proTxHash ∨ x.service = m.service then
    (r, some "masternode ProTx hash or service is already registered")
  else
    let nodes := insertNode (m.node - 1) r.topology.masternodeNodes
    ({ r with
        topology := { r.topology with
          masternodeNodes := nodes, configured := true, masternodeNodeCount := nodes.length }
        masternodes := (r.masternodes ++ [m]).insertionSort (·.node ≤ ·.node) }, none)

def removeMasternodeNodes (requested : List Nat) (r : SimulationRegistry) : Outcome :=
  if ¬ requested.Nodup then (r, some "masternode removal contains duplicate node indexes")
  else if requested.any (· ∉ r.topology.masternodeNodes) then
    (r, some "masternode removal references an unregistered node")
  else
    let nodes := r.topology.masternodeNodes.filter (· ∉ requested)
    ({ r with
        topology := { r.topology with
          masternodeNodes := nodes, masternodeNodeCount := nodes.length }
        masternodes := r.masternodes.filter fun m =>
          ¬ (m.node ≠ 0 ∧ m.node - 1 ∈ requested) }, none)

def setRuntimeNodeCount (count : Nat) (r : SimulationRegistry) : Outcome :=
  if count < r.topology.nodeCount then
    (r, some "runtime node count cannot shrink through wallet publication")
  else ({ r with topology := { r.topology with nodeCount := count } }, none)

/-- The new index of a node that stays. -/
def remapped (oldToNew : List (Option Nat)) (node : Nat) : Option Nat := oldToNew[node]?.join

/-- The present indexes are distinct and have no gap; `count` is one more than the last. -/
def compactRemap (oldToNew : List (Option Nat)) (count : Nat) : Bool :=
  oldToNew.all (fun x => x.all (· < oldToNew.length)) &&
    decide (oldToNew.Pairwise fun x y => x = none ∨ x ≠ y) &&
    (range count).all (some · ∈ oldToNew)

/--
The remapped registry.  Whether the connectivity policies fit the new topology is an answer
of the topology code: `policiesFit` is its text otherwise.
-/
def remapRuntimeNodes (oldToNew : List (Option Nat)) (policiesFit : Option String)
    (r : SimulationRegistry) : Outcome :=
  let count := oldToNew.foldl (fun n x => max n (x.elim 0 (· + 1))) 0
  let stays (node : Nat) : Bool := (remapped oldToNew node).isSome
  let moved (nodes : List Nat) : List Nat := nodes.filterMap (remapped oldToNew)
  if oldToNew.length ≠ r.topology.nodeCount then
    (r, some "runtime role node remap size must match the current node count")
  else if !compactRemap oldToNew count then
    (r, some "runtime role node remap must contain unique compact indexes")
  else if !r.topology.walletNodes.all stays then
    (r, some "cannot remove a node with the wallet role")
  else if !r.topology.minerNodes.all stays then (r, some "cannot remove a node with the miner role")
  else if !r.topology.masternodeNodes.all stays then
    (r, some "cannot remove a node with the masternode role")
  else if policiesFit.isSome then (r, policiesFit)
  else if !r.wallets.all (fun w => w.node ≠ 0 ∧ stays (w.node - 1)) then
    (r, some "cannot remove a node backing a registered wallet")
  else if !r.masternodes.all (fun m => m.node ≠ 0 ∧ stays (m.node - 1)) then
    (r, some "cannot remove a node backing a registered masternode")
  else
    ({ topology := { r.topology with
        nodeCount := count
        walletNodes := moved r.topology.walletNodes
        minerNodes := moved r.topology.minerNodes
        masternodeNodes := moved r.topology.masternodeNodes
        walletNodeCount := (moved r.topology.walletNodes).length
        minerNodeCount := (moved r.topology.minerNodes).length
        masternodeNodeCount := (moved r.topology.masternodeNodes).length }
       wallets := r.wallets.map fun w =>
        { w with node := (remapped oldToNew (w.node - 1)).getD 0 + 1 }
       masternodes := r.masternodes.map fun m =>
        { m with node := (remapped oldToNew (m.node - 1)).getD 0 + 1 } }, none)

end Operations

inductive RegistryCall where
  | addWallet (wallet : WalletIdentity)
  | removeWalletNode (node : Nat)
  | addMinerNode (node : Nat)
  | removeMinerNodes (requested : List Nat)
  | addMasternode (masternode : MasternodeIdentity)
  | removeMasternodeNodes (requested : List Nat)
  | setRuntimeNodeCount (count : Nat)
  | remapRuntimeNodes (oldToNew : List (Option Nat)) (policiesFit : Option String)

def perform : RegistryCall → SimulationRegistry → Outcome
  | .addWallet wallet => addWallet wallet
  | .removeWalletNode node => removeWalletNode node
  | .addMinerNode node => addMinerNode node
  | .removeMinerNodes requested => removeMinerNodes requested
  | .addMasternode masternode => addMasternode masternode
  | .removeMasternodeNodes requested => removeMasternodeNodes requested
  | .setRuntimeNodeCount count => setRuntimeNodeCount count
  | .remapRuntimeNodes oldToNew policiesFit => remapRuntimeNodes oldToNew policiesFit

def registryMachine : Machine SimulationRegistry RegistryCall :=
  ⟨fun r call => some (perform call r).1⟩

section Lists

/-- Nodes of a role: distinct, and below the number of nodes. -/
structure Placed (count : Nat) (nodes : List Nat) : Prop where
  distinct : nodes.Nodup
  below : ∀ n, n ∈ nodes → n < count

variable {count node : Nat} {nodes : List Nat} {oldToNew : List (Option Nat)}

theorem insertNode_perm (node : Nat) (nodes : List Nat) :
    (insertNode node nodes).Perm (node :: nodes) :=
  (perm_insertionSort _ _).trans (perm_append_singleton _ _)

@[simp] theorem mem_insertNode {n : Nat} : n ∈ insertNode node nodes ↔ n = node ∨ n ∈ nodes := by
  rw [(insertNode_perm node nodes).mem_iff, mem_cons]

theorem Placed.insertNode (h : Placed count nodes) (hnode : node < count) (hnew : node ∉ nodes) :
    Placed count (insertNode node nodes) where
  distinct := (insertNode_perm node nodes).nodup_iff.mpr (nodup_cons.mpr ⟨hnew, h.distinct⟩)
  below := by
    intro n hn
    rcases mem_insertNode.mp hn with rfl | hold
    · exact hnode
    · exact h.below n hold

theorem Placed.sublist {kept : List Nat} (h : Placed count nodes) (hsub : kept.Sublist nodes) :
    Placed count kept :=
  ⟨h.distinct.sublist hsub, fun n hn => h.below n (hsub.subset hn)⟩

theorem remapped_eq_some {n : Nat} :
    remapped oldToNew node = some n ↔ oldToNew[node]? = some (some n) := by
  rw [remapped, Option.join_eq_some_iff]

/-- Two nodes that stay do not meet. -/
theorem remapped_injective (h : compactRemap oldToNew count = true) {a b n : Nat}
    (ha : remapped oldToNew a = some n) (hb : remapped oldToNew b = some n) : a = b := by
  rw [compactRemap, Bool.and_eq_true, Bool.and_eq_true, decide_eq_true_eq] at h
  have hpairs := List.pairwise_iff_getElem.mp h.1.2
  obtain ⟨hla, hga⟩ := List.getElem?_eq_some_iff.mp (remapped_eq_some.mp ha)
  obtain ⟨hlb, hgb⟩ := List.getElem?_eq_some_iff.mp (remapped_eq_some.mp hb)
  rcases Nat.lt_trichotomy a b with hlt | heq | hlt
  · have hpair := hpairs a b hla hlb hlt
    simp [hga, hgb] at hpair
  · exact heq
  · have hpair := hpairs b a hlb hla hlt
    simp [hga, hgb] at hpair

/-- The count is beyond every index that is still in use. -/
theorem lt_remapCount {n : Nat} (h : remapped oldToNew node = some n) :
    n < oldToNew.foldl (fun n x => max n (x.elim 0 (· + 1))) 0 := by
  have hfold : ∀ (l : List (Option Nat)) (start : Nat),
      start ≤ l.foldl (fun n x => max n (x.elim 0 (· + 1))) start ∧
        (some n ∈ l → n < l.foldl (fun n x => max n (x.elim 0 (· + 1))) start) := by
    intro l
    induction l with
    | nil => simp
    | cons x l ih =>
      intro start
      have hrest := ih (max start (x.elim 0 (· + 1)))
      refine ⟨(le_max_left _ _).trans hrest.1, fun hmem => ?_⟩
      rcases mem_cons.mp hmem with rfl | htail
      · exact Nat.lt_of_lt_of_le (Nat.le_max_right start (n + 1)) hrest.1
      · exact hrest.2 htail
  exact (hfold oldToNew 0).2 (mem_of_getElem? (remapped_eq_some.mp h))

theorem Placed.remap {bound : Nat} (h : Placed bound nodes)
    (hcompact : compactRemap oldToNew count = true) :
    Placed (oldToNew.foldl (fun n x => max n (x.elim 0 (· + 1))) 0)
      (nodes.filterMap (remapped oldToNew)) where
  distinct := h.distinct.filterMap fun _ _ _ ha hb => remapped_injective hcompact ha hb
  below := by
    intro n hn
    obtain ⟨_, _, heq⟩ := mem_filterMap.mp hn
    exact lt_remapCount heq

/-- The nodes of identities that all stay. -/
theorem map_remapped {α : Type} {l : List α} {f g : α → Nat}
    (hstay : ∀ x ∈ l, (remapped oldToNew (f x)).isSome = true)
    (hg : ∀ x, g x = (remapped oldToNew (f x)).getD 0) :
    l.map g = (l.map f).filterMap (remapped oldToNew) := by
  rw [filterMap_map, ← filterMap_eq_map]
  refine filterMap_congr fun x hx => ?_
  obtain ⟨n, hn⟩ := Option.isSome_iff_exists.mp (hstay x hx)
  simp [hg, hn]

/-- A field that does not depend on the position. -/
theorem map_mapIdx_of_field {α β γ : Type} {f : Nat → α → β} {g : β → γ} {p : α → γ}
    (h : ∀ i x, g (f i x) = p x) (l : List α) : (l.mapIdx f).map g = l.map p := by
  apply ext_getElem?
  intro i
  rw [getElem?_map, getElem?_mapIdx, Option.map_map, getElem?_map]
  exact congrArg (Option.map · l[i]?) (funext (h i))

end Lists

section Invariant

/-- How lists, counts and identities belong together. -/
structure Wellformed (r : SimulationRegistry) : Prop where
  counts : r.topology.walletNodeCount = r.topology.walletNodes.length ∧
    r.topology.minerNodeCount = r.topology.minerNodes.length ∧
    r.topology.masternodeNodeCount = r.topology.masternodeNodes.length
  wallets : Placed r.topology.nodeCount r.topology.walletNodes
  miners : Placed r.topology.nodeCount r.topology.minerNodes
  masternodes : Placed r.topology.nodeCount r.topology.masternodeNodes
  indexed : ∀ i w, r.wallets[i]? = some w → w.walletIndex = i + 1
  numbered : ∀ w, w ∈ r.wallets → w.node ≠ 0
  backed : ∀ n, n ∈ r.topology.walletNodes ↔ n ∈ r.wallets.map (·.node - 1)
  apart : r.topology.allowMinerWalletOverlap = false →
    ∀ n, n ∈ r.topology.minerNodes → n ∉ r.topology.walletNodes
  unique : r.masternodes.Pairwise fun x y => x.proTxHash ≠ y.proTxHash ∧ x.service ≠ y.service
  staffed : (r.masternodes.map (·.node - 1)).Perm r.topology.masternodeNodes
  complete : ∀ m, m ∈ r.masternodes → m.node ≠ 0 ∧ m.complete = true ∧ m.state = "READY"

/-- A call that throws changes nothing, and every call keeps the registry well formed. -/
structure Keeps (r : SimulationRegistry) (o : Outcome) : Prop where
  unchanged : o.2.isSome = true → o.1 = r
  wellformed : r.Wellformed → o.1.Wellformed

variable {r : SimulationRegistry} {o : Outcome}

theorem Keeps.refuse {e : Option String} : Keeps r (r, e) := ⟨fun _ => rfl, fun h => h⟩

theorem Keeps.guard {c : Prop} [Decidable c] {e : Option String} (h : ¬ c → Keeps r o) :
    Keeps r (if c then (r, e) else o) := by
  split
  next => exact .refuse
  next hc => exact h hc

theorem Keeps.done {t : SimulationRegistry} (h : r.Wellformed → t.Wellformed) : Keeps r (t, none) :=
  ⟨nofun, h⟩

theorem addWallet_keeps (wallet : WalletIdentity) (r : SimulationRegistry) :
    Keeps r (addWallet wallet r) := by
  unfold addWallet
  refine .guard fun hnode => .guard fun _ => .guard fun hoverlap => .done fun h => ?_
  have hmem : ∀ n, n ∈ (if wallet.node - 1 ∈ r.topology.walletNodes then
      r.topology.walletNodes else insertNode (wallet.node - 1) r.topology.walletNodes) ↔
        n = wallet.node - 1 ∨ n ∈ r.topology.walletNodes := by
    intro n
    split
    · grind
    · exact mem_insertNode
  refine { h with
    counts := ⟨rfl, h.counts.2⟩, wallets := ?_, indexed := ?_, numbered := ?_, backed := ?_
    apart := ?_ }
  · dsimp only
    split
    next => exact h.wallets
    next hnew => exact h.wallets.insertNode (by omega) hnew
  · intro i w hw
    have hold := h.indexed i
    rw [getElem?_append] at hw
    grind
  · intro w hw
    rcases mem_append.mp hw with hold | hnew
    · exact h.numbered w hold
    · rw [mem_singleton.mp hnew]
      exact fun hzero => hnode (.inl hzero)
  · intro n
    rw [hmem, h.backed, map_append, mem_append, map_singleton, mem_singleton, or_comm]
  · intro hallow n hn
    rw [hmem]
    have hold := h.apart hallow n hn
    have hallow' : r.topology.allowMinerWalletOverlap = false := hallow
    rintro (rfl | hwallet)
    · exact hoverlap ⟨by rw [hallow']; rfl, hn⟩
    · exact hold hwallet

theorem removeWalletNode_keeps (node : Nat) (r : SimulationRegistry) :
    Keeps r (removeWalletNode node r) := by
  unfold removeWalletNode
  refine .guard fun hnode => ?_
  dsimp only
  split
  next hlength =>
    have hsame := filter_sublist.eq_of_length hlength
    rw [hsame]
    exact .refuse
  next =>
    refine .done fun h => ?_
    have hwallets : ∀ n, n ∈ r.topology.walletNodes.erase node ↔
        n ≠ node ∧ n ∈ r.topology.walletNodes := fun n => h.wallets.distinct.mem_erase_iff
    refine { h with
      counts := ⟨rfl, h.counts.2⟩, wallets := h.wallets.sublist (erase_sublist)
      indexed := ?_, numbered := ?_, backed := ?_, apart := ?_ }
    · intro i w hw
      rw [getElem?_mapIdx] at hw
      obtain ⟨_, _, rfl⟩ := Option.map_eq_some_iff.mp hw
      rfl
    · intro w hw
      obtain ⟨i, hi, rfl⟩ := mem_mapIdx.mp hw
      have hkept := h.numbered _ (mem_of_mem_filter (getElem_mem hi))
      exact hkept
    · intro n
      have hnumbered := h.numbered
      rw [map_mapIdx_of_field (p := (·.node - 1)) (fun _ _ => rfl), hwallets, h.backed]
      simp only [mem_map, mem_filter, decide_eq_true_eq]
      grind
    · intro hallow n hn
      rw [hwallets]
      exact fun hboth => h.apart hallow n hn hboth.2

theorem addMinerNode_keeps (node : Nat) (r : SimulationRegistry) :
    Keeps r (addMinerNode node r) := by
  unfold addMinerNode
  refine .guard fun hnode => .guard fun hnew => .guard fun hoverlap => .done fun h => ?_
  refine { h with
    counts := ⟨h.counts.1, rfl, h.counts.2.2⟩
    miners := h.miners.insertNode (by omega) hnew, apart := ?_ }
  intro hallow n hn
  rcases mem_insertNode.mp hn with rfl | hold
  · have hallow' : r.topology.allowMinerWalletOverlap = false := hallow
    exact fun hwallet => hoverlap ⟨by rw [hallow']; rfl, hwallet⟩
  · exact h.apart hallow n hold

theorem removeMinerNodes_keeps (requested : List Nat) (r : SimulationRegistry) :
    Keeps r (removeMinerNodes requested r) := by
  unfold removeMinerNodes
  refine .guard fun _ => .guard fun _ => .done fun h => ?_
  exact { h with
    counts := ⟨h.counts.1, rfl, h.counts.2.2⟩
    miners := h.miners.sublist filter_sublist
    apart := fun hallow n hn => h.apart hallow n (mem_of_mem_filter hn) }

theorem addMasternode_keeps (m : MasternodeIdentity) (r : SimulationRegistry) :
    Keeps r (addMasternode m r) := by
  unfold addMasternode
  refine .guard fun hnode => .guard fun hcomplete => .guard fun hnew => .guard fun hunique =>
    .done fun h => ?_
  have hperm : ((r.masternodes ++ [m]).insertionSort (·.node ≤ ·.node)).Perm (m :: r.masternodes) :=
    (perm_insertionSort _ _).trans (perm_append_singleton _ _)
  refine { h with
    counts := ⟨h.counts.1, h.counts.2.1, rfl⟩
    masternodes := h.masternodes.insertNode (by omega) hnew, unique := ?_, staffed := ?_
    complete := ?_ }
  · refine (hperm.pairwise_iff fun hxy => ⟨Ne.symm hxy.1, Ne.symm hxy.2⟩).mpr
      (pairwise_cons.mpr ⟨fun x hx => ?_, h.unique⟩)
    have hother := any_eq_false.mp (Bool.not_eq_true _ ▸ hunique) x hx
    grind
  · exact (hperm.map _).trans ((h.staffed.cons _).trans (insertNode_perm _ _).symm)
  · intro x hx
    rcases mem_cons.mp (hperm.mem_iff.mp hx) with rfl | hold
    · exact ⟨by omega, by grind⟩
    · exact h.complete x hold

theorem removeMasternodeNodes_keeps (requested : List Nat) (r : SimulationRegistry) :
    Keeps r (removeMasternodeNodes requested r) := by
  unfold removeMasternodeNodes
  refine .guard fun _ => .guard fun _ => .done fun h => ?_
  refine { h with
    counts := ⟨h.counts.1, h.counts.2.1, rfl⟩
    masternodes := h.masternodes.sublist filter_sublist
    unique := h.unique.filter _, staffed := ?_
    complete := fun m hm => h.complete m (mem_of_mem_filter hm) }
  have hfilter : (r.masternodes.filter fun m => ¬ (m.node ≠ 0 ∧ m.node - 1 ∈ requested)) =
      r.masternodes.filter fun m => m.node - 1 ∉ requested := by
    refine filter_congr fun m hm => ?_
    simp [(h.complete m hm).1]
  rw [hfilter]
  have hmoved := h.staffed.filter (fun n => decide (n ∉ requested))
  rw [filter_map] at hmoved
  exact hmoved

theorem remapRuntimeNodes_keeps
    (oldToNew : List (Option Nat)) (policiesFit : Option String) (r : SimulationRegistry) :
    Keeps r (remapRuntimeNodes oldToNew policiesFit r) := by
  unfold remapRuntimeNodes
  refine .guard fun _ => .guard fun hcompact => .guard fun _ => .guard fun _ =>
    .guard fun _ => .guard fun _ => .guard fun hwallets => .guard fun hmasternodes =>
    .done fun h => ?_
  rw [Bool.not_eq_true', Bool.not_eq_false] at hcompact hwallets hmasternodes
  rw [all_eq_true] at hwallets hmasternodes
  have hnodes := map_remapped (g := fun w : WalletIdentity =>
      (remapped oldToNew (w.node - 1)).getD 0 + 1 - 1) (l := r.wallets)
    (fun w hw => (of_decide_eq_true (hwallets w hw)).2) fun _ => rfl
  have hstaff := map_remapped (g := fun m : MasternodeIdentity =>
      (remapped oldToNew (m.node - 1)).getD 0 + 1 - 1) (l := r.masternodes)
    (fun m hm => (of_decide_eq_true (hmasternodes m hm)).2) fun _ => rfl
  exact
    { counts := ⟨rfl, rfl, rfl⟩
      wallets := h.wallets.remap hcompact
      miners := h.miners.remap hcompact
      masternodes := h.masternodes.remap hcompact
      indexed := by
        intro i w hw
        rw [getElem?_map] at hw
        obtain ⟨x, hx, rfl⟩ := Option.map_eq_some_iff.mp hw
        exact h.indexed i x hx
      numbered := by
        intro w hw
        obtain ⟨x, _, rfl⟩ := mem_map.mp hw
        exact Nat.succ_ne_zero _
      backed := by
        intro n
        rw [map_map]
        refine Iff.trans ?_ (Iff.of_eq (congrArg (n ∈ ·) hnodes.symm))
        simp only [mem_filterMap, h.backed]
      apart := by
        intro hallow n hminer hwallet
        obtain ⟨a, ha, hna⟩ := mem_filterMap.mp hminer
        obtain ⟨b, hb, hnb⟩ := mem_filterMap.mp hwallet
        rw [remapped_injective hcompact hna hnb] at ha
        exact h.apart hallow b ha hb
      unique := pairwise_map.mpr h.unique
      staffed := by
        rw [map_map]
        exact (List.Perm.of_eq hstaff).trans (h.staffed.filterMap _)
      complete := by
        intro m hm
        obtain ⟨x, hx, rfl⟩ := mem_map.mp hm
        exact ⟨Nat.succ_ne_zero _, (h.complete x hx).2⟩ }

theorem perform_keeps (call : RegistryCall) (r : SimulationRegistry) :
    Keeps r (perform call r) := by
  cases call with
  | addWallet wallet => exact addWallet_keeps wallet r
  | removeWalletNode node => exact removeWalletNode_keeps node r
  | addMinerNode node => exact addMinerNode_keeps node r
  | removeMinerNodes requested => exact removeMinerNodes_keeps requested r
  | addMasternode masternode => exact addMasternode_keeps masternode r
  | removeMasternodeNodes requested => exact removeMasternodeNodes_keeps requested r
  | setRuntimeNodeCount count =>
    refine Keeps.guard fun hcount => .done fun h => ?_
    have hgrow : ∀ nodes, Placed r.topology.nodeCount nodes → Placed count nodes :=
      fun nodes hplaced => ⟨hplaced.distinct, fun n hn => by
        have hbelow := hplaced.below n hn
        omega⟩
    exact { h with
      wallets := hgrow _ h.wallets, miners := hgrow _ h.miners
      masternodes := hgrow _ h.masternodes }
  | remapRuntimeNodes oldToNew policiesFit => exact remapRuntimeNodes_keeps oldToNew policiesFit r

end Invariant

end SimulationRegistry
end Bbp
