import Bbp.NetworkAddressPlan
import Bbp.PeerConnectivity

/-!
# Generations of runtime nodes

The nodes of a run are published in generations.  A call prepares the next generation from
the current one, under the lock of the inventory, and the caller then commits it or lets it
go.  A node keeps its slot, and the slot its two addresses, for as long as it is there; the
ids that were ever used are remembered, so that none comes back.
-/

namespace Bbp

open Library List

section Model

structure NodeRuntime where
  object : Nat
  config : ChainNodeConfig
deriving DecidableEq

structure RuntimeNodeInsertion where
  slot : Nat
  runtime : NodeRuntime
deriving DecidableEq

def RuntimeNodeInsertion.id (n : RuntimeNodeInsertion) : String := n.runtime.config.id

namespace SimulationNetworkAddressPlan

/-- The address itself instead of its text. -/
def hostAddress (plan : SimulationNetworkAddressPlan) (slot : Nat) : Option Nat :=
  plan.linkBases[slot]?

def nodeAddress (plan : SimulationNetworkAddressPlan) (slot : Nat) : Option Nat :=
  plan.linkBases[slot]?.map fun base => (base + 1) % 2 ^ 32

end SimulationNetworkAddressPlan

structure NodeGeneration where
  sequence : Nat
  capacity : Nat
  networkAddressPlan : Option SimulationNetworkAddressPlan := none
  nodes : List RuntimeNodeInsertion := []
  configs : List ChainNodeConfig := []

structure RuntimeNodeInventory where
  generation : NodeGeneration
  usedNodeIds : List String := []

namespace NodeGeneration

def addresses (plan : Option SimulationNetworkAddressPlan) (slot : Nat) : Option Nat × Option Nat :=
  (plan.bind (·.hostAddress slot), plan.bind (·.nodeAddress slot))

/-- Every reserved address is the same in another plan. -/
def keepsAddresses (g : NodeGeneration) (candidate : Option SimulationNetworkAddressPlan) : Bool :=
  (range g.capacity).all fun slot => addresses candidate slot == addresses g.networkAddressPlan slot

/-- What is wrong with the nodes of a generation, after these slots and ids. -/
def nodesFault (capacity : Nat) : List Nat → List String → List RuntimeNodeInsertion → Option String
  | _, _, [] => none
  | slots, ids, n :: rest =>
    if n.id = "" ∨ n.id ∈ ids then some "runtime node generation has an empty or duplicate node id"
    else if n.slot ∈ slots then some "runtime node generation has a duplicate resource slot"
    else if n.slot ≥ capacity then some "runtime node generation has an out-of-range resource slot"
    else nodesFault capacity (n.slot :: slots) (n.id :: ids) rest

def makeGeneration (sequence : Nat) (nodes : List RuntimeNodeInsertion) (capacity : Nat)
    (networkAddressPlan : Option SimulationNetworkAddressPlan) : Except String NodeGeneration :=
  match nodesFault capacity [] [] nodes with
  | some message => .error message
  | none =>
    .ok { sequence, capacity, networkAddressPlan, nodes
          configs := nodes.map (·.runtime.config) }

/-- The configurations that the caller publishes, in the order of the nodes. -/
def withConfigs (g : NodeGeneration) (configs : List ChainNodeConfig)
    (sizeMessage identityMessage : String) : Except String NodeGeneration :=
  if configs.length ≠ g.nodes.length then .error sizeMessage
  else if configs.map (·.id) ≠ g.nodes.map (·.id) then .error identityMessage
  else .ok { g with configs }

/-- The configurations of an append, if there are any. -/
def withAnyConfigs (g : NodeGeneration) (configs : List ChainNodeConfig) :
    Except String NodeGeneration :=
  if configs.isEmpty then .ok g
  else
    g.withConfigs configs "runtime node published configs must match the next generation"
      "runtime node published config identity does not match its runtime"

end NodeGeneration

namespace RuntimeNodeInventory

open NodeGeneration

def create (capacity : Nat) : Except String RuntimeNodeInventory :=
  if capacity = 0 then .error "runtime node capacity must be positive"
  else .ok { generation := { sequence := 0, capacity } }

variable (inventory : RuntimeNodeInventory)

def initializeNodes (nodes : List NodeRuntime)
    (networkAddressPlan : Option SimulationNetworkAddressPlan) :
    Except String RuntimeNodeInventory :=
  let current := inventory.generation
  let ids := nodes.map (·.config.id)
  if current.sequence ≠ 0 ∨ current.nodes ≠ [] then
    .error "runtime node inventory is already initialized"
  else if nodes.length > current.capacity then
    .error "initial runtime node count exceeds configured capacity"
  else if ¬ networkAddressPlan.all (·.capacity == current.capacity) then
    .error "initial network address plan does not match the node capacity"
  else if "" ∈ ids ∨ ¬ ids.Nodup then
    .error "initial runtime nodes have an empty or duplicate node id"
  else
    .ok
      { generation :=
          { sequence := 1, capacity := current.capacity, networkAddressPlan
            nodes := nodes.zipIdx.map fun (runtime, slot) => { slot, runtime }
            configs := nodes.map (·.config) }
        usedNodeIds := ids }

/-- The ids of the insertions join the used ones; `none` is an insertion without a runtime. -/
def useNodeIds :
    List String → List (Option RuntimeNodeInsertion) →
      Except String (List RuntimeNodeInsertion × List String)
  | used, [] => .ok ([], used)
  | _, none :: _ => .error "runtime node insertion is empty"
  | used, some n :: rest =>
    if n.id ∈ used then .error ("runtime node id was already used by this run: " ++ n.id)
    else
      match useNodeIds (n.id :: used) rest with
      | .error message => .error message
      | .ok (added, used) => .ok (n :: added, used)

def prepareAppend (expectedGeneration : Nat) (insertions : List (Option RuntimeNodeInsertion))
    (publishedConfigs : List ChainNodeConfig) (candidateCapacity : Nat)
    (candidatePlan : Option SimulationNetworkAddressPlan) : Except String RuntimeNodeInventory :=
  let current := inventory.generation
  if current.sequence ≠ expectedGeneration then
    .error "runtime node inventory changed before publication"
  else if insertions.isEmpty then .error "runtime node publication requires at least one insertion"
  else if candidateCapacity < current.capacity then
    .error "runtime node publication cannot shrink the node capacity"
  else if insertions.length > candidateCapacity - current.nodes.length then
    .error "runtime node publication exceeds configured capacity"
  else if candidatePlan.isSome ≠ current.networkAddressPlan.isSome then
    .error "runtime node publication cannot change the network allocation mode"
  else if ¬ candidatePlan.all (·.capacity == candidateCapacity) then
    .error "runtime network address plan does not match the node capacity"
  else if ¬ current.keepsAddresses candidatePlan then
    .error "runtime node publication must preserve every reserved address"
  else if current.sequence = 2 ^ 64 - 1 then .error "runtime node inventory generation overflow"
  else do
    let (added, usedNodeIds) ← useNodeIds inventory.usedNodeIds insertions
    let next ← makeGeneration (current.sequence + 1) (current.nodes ++ added)
      candidateCapacity candidatePlan
    let generation ← next.withAnyConfigs publishedConfigs
    .ok { generation, usedNodeIds }

def prepareRemoval (expectedGeneration : Nat) (removedNodeIds : List String)
    (publishedConfigs : List ChainNodeConfig) : Except String RuntimeNodeInventory :=
  let current := inventory.generation
  if current.sequence ≠ expectedGeneration then
    .error "runtime node inventory changed before removal publication"
  else if removedNodeIds = [] then .error "runtime node removal requires at least one node id"
  else if current.sequence = 2 ^ 64 - 1 then .error "runtime node inventory generation overflow"
  else if ¬ removedNodeIds.Nodup then .error "runtime node removal contains a duplicate node id"
  else if (current.nodes.filter (·.id ∈ removedNodeIds)).length ≠ removedNodeIds.length then
    .error "runtime node removal references an unknown node id"
  else do
    let next ← makeGeneration (current.sequence + 1)
      (current.nodes.filter (·.id ∉ removedNodeIds)) current.capacity
      current.networkAddressPlan
    let generation ← next.withConfigs publishedConfigs
      "runtime node removal published configs must match the next generation"
      "runtime node removal config identity does not match its runtime"
    .ok { inventory with generation }

/-- The nodes with the replacement in its place, and whether there is such a place. -/
def replaceNode (nodeId : String) (replacement : RuntimeNodeInsertion) :
    List RuntimeNodeInsertion → List ChainNodeConfig →
      Except String (List RuntimeNodeInsertion × Bool)
  | n :: nodes, config :: configs =>
    if n.id = nodeId ∧ (replacement.slot ≠ n.slot ∨ replacement.id ≠ n.id) then
      .error "runtime node replacement must preserve its identity and slot"
    else if config.id ≠ n.id ∨ (n.id = nodeId ∧ config.id ≠ replacement.id) then
      .error "runtime node replacement config identity does not match its runtime"
    else
      match replaceNode nodeId replacement nodes configs with
      | .error message => .error message
      | .ok (next, found) =>
        .ok ((if n.id = nodeId then replacement else n) :: next,
          n.id == nodeId || found)
  | _, _ => .ok ([], false)

def prepareReplacement (expectedGeneration : Nat) (nodeId : String)
    (replacement : Option RuntimeNodeInsertion) (publishedConfigs : List ChainNodeConfig) :
    Except String RuntimeNodeInventory :=
  let current := inventory.generation
  if current.sequence ≠ expectedGeneration then
    .error "runtime node inventory changed before replacement publication"
  else if nodeId = "" then .error "runtime node replacement requires a node id"
  else if current.sequence = 2 ^ 64 - 1 then .error "runtime node inventory generation overflow"
  else if publishedConfigs.length ≠ current.nodes.length then
    .error "runtime node replacement published configs must match the current generation"
  else
    match replacement with
    | none => .error "runtime node replacement candidate is empty"
    | some replacement => do
        let (nodes, found) ← replaceNode nodeId replacement current.nodes publishedConfigs
        if !found then .error "runtime node replacement references an unknown node id"
        else
          let next ← makeGeneration (current.sequence + 1) nodes current.capacity
            current.networkAddressPlan
          .ok { inventory with generation := { next with configs := publishedConfigs } }

end RuntimeNodeInventory

/-- A preparation with its arguments. -/
inductive InventoryCall where
  | append (expectedGeneration : Nat) (insertions : List (Option RuntimeNodeInsertion))
      (publishedConfigs : List ChainNodeConfig) (candidateCapacity : Nat)
      (candidatePlan : Option SimulationNetworkAddressPlan)
  | removal (expectedGeneration : Nat) (removedNodeIds : List String)
      (publishedConfigs : List ChainNodeConfig)
  | replacement (expectedGeneration : Nat) (nodeId : String)
      (replacement : Option RuntimeNodeInsertion) (publishedConfigs : List ChainNodeConfig)

namespace InventoryCall

def expectedGeneration : InventoryCall → Nat
  | .append expected _ _ _ _ | .removal expected _ _ | .replacement expected _ _ _ => expected

/-- The nodes that the call appends. -/
def appended : InventoryCall → List RuntimeNodeInsertion
  | .append _ insertions _ _ _ => insertions.filterMap id
  | _ => []

end InventoryCall

/-- What a preparation would publish. -/
def RuntimeNodeInventory.prepare (inventory : RuntimeNodeInventory) :
    InventoryCall → Except String RuntimeNodeInventory
  | .append expected insertions configs capacity plan =>
    inventory.prepareAppend expected insertions configs capacity plan
  | .removal expected removed configs => inventory.prepareRemoval expected removed configs
  | .replacement expected nodeId replacement configs =>
    inventory.prepareReplacement expected nodeId replacement configs

/-- An inventory, the generations that were published and the nodes that joined. -/
structure InventoryHistory where
  inventory : RuntimeNodeInventory
  generations : List NodeGeneration
  joined : List RuntimeNodeInsertion

namespace InventoryHistory

def begin (inventory : RuntimeNodeInventory) : InventoryHistory :=
  { inventory, generations := [inventory.generation], joined := inventory.generation.nodes }

/-- A preparation throws, or it is committed or let go. -/
def call (h : InventoryHistory) (c : InventoryCall) (committed : Bool) : InventoryHistory :=
  match h.inventory.prepare c with
  | .error _ => h
  | .ok next =>
    if committed then
      { inventory := next, generations := h.generations ++ [next.generation]
        joined := h.joined ++ c.appended }
    else h

end InventoryHistory

def inventoryMachine : Machine InventoryHistory (InventoryCall × Bool) where
  step h label := some (h.call label.1 label.2)

end Model

namespace NodeGeneration

section Generations

variable {g next later : NodeGeneration} {capacity sequence : Nat}
  {nodes : List RuntimeNodeInsertion} {plan : Option SimulationNetworkAddressPlan}

/-- A generation as it may be published. -/
structure Published (g : NodeGeneration) : Prop where
  ids : (g.nodes.map (·.id)).Nodup
  slots : (g.nodes.map (·.slot)).Nodup
  below : ∀ n, n ∈ g.nodes → n.slot < g.capacity
  aligned : g.configs.map (·.id) = g.nodes.map (·.id)
  plan : g.networkAddressPlan.all (·.capacity == g.capacity) = true

/-- What a later generation has to keep. -/
structure Precedes (g later : NodeGeneration) : Prop where
  capacity : g.capacity ≤ later.capacity
  mode : later.networkAddressPlan.isSome = g.networkAddressPlan.isSome
  addresses : ∀ slot, slot < g.capacity →
    addresses later.networkAddressPlan slot = addresses g.networkAddressPlan slot

theorem Precedes.refl (g : NodeGeneration) : g.Precedes g := ⟨Nat.le_refl _, rfl, fun _ _ => rfl⟩

theorem Precedes.trans (h : g.Precedes next) (hlater : next.Precedes later) : g.Precedes later :=
  ⟨h.capacity.trans hlater.capacity, hlater.mode.trans h.mode, fun slot hslot =>
    (hlater.addresses slot (hslot.trans_le h.capacity)).trans (h.addresses slot hslot)⟩

theorem nodesFault_eq_none {slots : List Nat} {ids : List String}
    (h : nodesFault capacity slots ids nodes = none) :
    ((nodes.map (·.id)).Nodup ∧ ∀ n ∈ nodes, n.id ∉ ids) ∧
      ((nodes.map (·.slot)).Nodup ∧ ∀ n ∈ nodes, n.slot ∉ slots) ∧
      ∀ n ∈ nodes, n.slot < capacity := by
  induction nodes generalizing slots ids with
  | nil => simp
  | cons n rest ih =>
    simp only [nodesFault] at h
    split_ifs at h with hid hslot hbelow
    obtain ⟨⟨hids, hnewId⟩, ⟨hslots, hnewSlot⟩, hrest⟩ := ih h
    rw [not_or] at hid
    simp only [mem_cons, not_or] at hnewId hnewSlot
    simp only [map_cons, nodup_cons, mem_map, forall_mem_cons]
    refine ⟨⟨⟨?_, hids⟩, hid.2, fun m hm => (hnewId m hm).2⟩,
      ⟨⟨?_, hslots⟩, hslot, fun m hm => (hnewSlot m hm).2⟩, Nat.lt_of_not_le hbelow, hrest⟩
    · rintro ⟨m, hm, heq⟩
      exact (hnewId m hm).1 heq
    · rintro ⟨m, hm, heq⟩
      exact (hnewSlot m hm).1 heq

theorem makeGeneration_eq_ok (h : makeGeneration sequence nodes capacity plan = .ok g)
    (hplan : plan.all (·.capacity == capacity) = true) :
    g.Published ∧ g.sequence = sequence ∧ g.capacity = capacity ∧
      g.networkAddressPlan = plan ∧ g.nodes = nodes := by
  unfold makeGeneration at h
  split at h <;> cases h
  next hnone =>
    obtain ⟨hids, hslots, hbelow⟩ := nodesFault_eq_none hnone
    exact ⟨⟨hids.1, hslots.1, hbelow, map_map, hplan⟩, rfl, rfl, rfl, rfl⟩

theorem withConfigs_eq_ok {configs : List ChainNodeConfig} {sizeMessage identityMessage : String}
    (h : g.withConfigs configs sizeMessage identityMessage = .ok next) :
    next = { g with configs } ∧ configs.map (·.id) = g.nodes.map (·.id) := by
  unfold withConfigs at h
  split_ifs at h with hsize hids
  cases h
  exact ⟨rfl, not_not.mp hids⟩

end Generations

end NodeGeneration

namespace RuntimeNodeInventory

open NodeGeneration

section Preparations

variable {inventory next : RuntimeNodeInventory} {insertions : List (Option RuntimeNodeInsertion)}
  {configs : List ChainNodeConfig} {plan : Option SimulationNetworkAddressPlan}

/-- What a preparation that does not throw would publish. -/
structure Succeeds (inventory : RuntimeNodeInventory) (c : InventoryCall)
    (next : RuntimeNodeInventory) : Prop where
  expected : c.expectedGeneration = inventory.generation.sequence
  published : next.generation.Published
  sequence : next.generation.sequence = inventory.generation.sequence + 1
  precedes : inventory.generation.Precedes next.generation
  distinct : (c.appended.map (·.id)).Nodup
  unused : ∀ n, n ∈ c.appended → n.id ∉ inventory.usedNodeIds
  used : inventory.usedNodeIds ++ c.appended.map (·.id) ⊆ next.usedNodeIds

theorem useNodeIds_eq_ok {used usedNext : List String} {added : List RuntimeNodeInsertion}
    (h : useNodeIds used insertions = .ok (added, usedNext)) :
    insertions.filterMap id = added ∧ (added.map (·.id)).Nodup ∧
      (∀ n ∈ added, n.id ∉ used) ∧ used ++ added.map (·.id) ⊆ usedNext := by
  induction insertions generalizing used added with
  | nil =>
    cases h
    simp
  | cons insertion rest ih =>
    cases insertion with
    | none => cases h
    | some n =>
      simp only [useNodeIds] at h
      split_ifs at h with hused
      split at h <;> cases h
      rename_i hrest
      obtain ⟨hadded, hids, hunused, hnext⟩ := ih hrest
      simp only [mem_cons, not_or] at hunused
      refine ⟨congrArg (n :: ·) hadded, ?_, ?_, ?_⟩
      · rw [map_cons, nodup_cons, mem_map]
        refine ⟨?_, hids⟩
        rintro ⟨m, hm, heq⟩
        exact (hunused m hm).1 heq
      · simp only [forall_mem_cons]
        exact ⟨hused, fun m hm => (hunused m hm).2⟩
      · refine List.Subset.trans ?_ hnext
        intro id hid
        simp only [map_cons, mem_append, mem_cons] at hid ⊢
        tauto

/-- The next generation has the nodes, the capacity and the plan it was made of. -/
theorem Succeeds.of_generation (c : InventoryCall) {g : NodeGeneration}
    {nodes : List RuntimeNodeInsertion}
    (hexpected : c.expectedGeneration = inventory.generation.sequence) (happended : c.appended = [])
    (h : inventory.generation.Published)
    (hmake : makeGeneration (inventory.generation.sequence + 1) nodes
      inventory.generation.capacity inventory.generation.networkAddressPlan = .ok g)
    (haligned : configs.map (·.id) = g.nodes.map (·.id)) :
    inventory.Succeeds c { inventory with generation := { g with configs } } := by
  obtain ⟨hpublished, hsequence, hcapacity, hplan, -⟩ := makeGeneration_eq_ok hmake h.plan
  refine ⟨hexpected, { hpublished with aligned := haligned }, hsequence, ⟨?_, ?_, ?_⟩, ?_, ?_, ?_⟩
  · exact hcapacity.ge
  · exact congrArg Option.isSome hplan
  · intro slot _
    exact congrArg (addresses · slot) hplan
  · rw [happended]
    exact nodup_nil
  · rw [happended]
    exact forall_mem_nil _
  · rw [happended, map_nil, append_nil]
    exact List.Subset.refl _

theorem prepareAppend_succeeds {expected capacity : Nat}
    (hprepare : inventory.prepareAppend expected insertions configs capacity plan = .ok next) :
    inventory.Succeeds (.append expected insertions configs capacity plan) next := by
  unfold prepareAppend at hprepare
  dsimp only at hprepare
  split_ifs at hprepare with hexpected hempty hcapacity hroom hmode hplan hkeeps hlast
  obtain ⟨⟨added, used⟩, huse, hprepare⟩ := bind_eq_ok.mp hprepare
  obtain ⟨made, hmake, hprepare⟩ := bind_eq_ok.mp hprepare
  obtain ⟨generation, hconfigs, hprepare⟩ := bind_eq_ok.mp hprepare
  cases hprepare
  obtain ⟨hadded, hdistinct, hunused, hused⟩ := useNodeIds_eq_ok huse
  obtain ⟨hpublished, hsequence, hmade, hmadePlan, -⟩ := makeGeneration_eq_ok hmake hplan
  have hgeneration : ∃ published, generation = { made with configs := published } ∧
      published.map (·.id) = made.nodes.map (·.id) := by
    unfold withAnyConfigs at hconfigs
    split_ifs at hconfigs
    · cases hconfigs
      exact ⟨_, rfl, hpublished.aligned⟩
    · exact ⟨configs, withConfigs_eq_ok hconfigs⟩
  obtain ⟨published, rfl, haligned⟩ := hgeneration
  have happended : (InventoryCall.append expected insertions configs capacity plan).appended =
      added := hadded
  refine ⟨(not_not.mp hexpected).symm, { hpublished with aligned := haligned }, hsequence,
    ⟨?_, ?_, ?_⟩, ?_, ?_, ?_⟩
  · exact (Nat.le_of_not_lt hcapacity).trans hmade.ge
  · exact (congrArg Option.isSome hmadePlan).trans (not_not.mp hmode)
  · intro slot hslot
    have hsame := all_eq_true.mp hkeeps slot (mem_range.mpr hslot)
    exact (congrArg (addresses · slot) hmadePlan).trans (eq_of_beq hsame)
  · rw [happended]
    exact hdistinct
  · rw [happended]
    exact hunused
  · rw [happended]
    exact hused

variable (h : inventory.generation.Published)

include h

theorem prepareRemoval_succeeds {expected : Nat} {removed : List String}
    (hprepare : inventory.prepareRemoval expected removed configs = .ok next) :
    inventory.Succeeds (.removal expected removed configs) next := by
  unfold prepareRemoval at hprepare
  dsimp only at hprepare
  split_ifs at hprepare with hexpected hempty hlast hdistinct hknown
  obtain ⟨made, hmake, hprepare⟩ := bind_eq_ok.mp hprepare
  obtain ⟨generation, hconfigs, hprepare⟩ := bind_eq_ok.mp hprepare
  cases hprepare
  obtain ⟨rfl, haligned⟩ := withConfigs_eq_ok hconfigs
  exact .of_generation (.removal expected removed configs) (not_not.mp hexpected).symm rfl h
    hmake haligned

omit h in
/-- A replacement takes the place of the node with its id and its slot. -/
theorem replaceNode_eq_ok {nodeId : String} {replacement : RuntimeNodeInsertion} {found : Bool}
    {nodes result : List RuntimeNodeInsertion} (hlength : configs.length = nodes.length)
    (h : replaceNode nodeId replacement nodes configs = .ok (result, found)) :
    result = nodes.map (fun n => if n.id = nodeId then replacement else n) ∧
      (∀ n ∈ nodes, n.id = nodeId → replacement.slot = n.slot ∧ replacement.id = n.id) ∧
      configs.map (·.id) = nodes.map (·.id) ∧
      (found = true → nodeId ∈ nodes.map (·.id)) := by
  induction nodes generalizing configs result found with
  | nil =>
    cases h
    simpa using hlength
  | cons n nodes ih =>
    cases configs with
    | nil => cases hlength
    | cons config configs =>
      simp only [replaceNode] at h
      split at h
      · cases h
      rename_i hplace
      split at h
      · cases h
      rename_i hconfig
      split at h <;> cases h
      rename_i hrest
      obtain ⟨hnext, hplaces, hconfigs, hfound⟩ := ih (Nat.succ.inj hlength) hrest
      have hhead : n.id = nodeId → replacement.slot = n.slot ∧ replacement.id = n.id := by
        intro hid
        by_contra hother
        exact hplace ⟨hid, not_and_or.mp hother⟩
      rw [not_or, not_not] at hconfig
      refine ⟨by rw [hnext, map_cons], forall_mem_cons.mpr ⟨hhead, hplaces⟩,
        by rw [map_cons, map_cons, hconfig.1, hconfigs], ?_⟩
      intro heither
      rw [map_cons, mem_cons]
      rcases Bool.or_eq_true_iff.mp heither with hid | hlater
      · exact .inl (eq_of_beq hid).symm
      · exact .inr (hfound hlater)

/-- The node with this id has been replaced, and its id, slot and position are the same. -/
def Replaces (g : NodeGeneration) (nodeId : String) (replacement : RuntimeNodeInsertion)
    (next : NodeGeneration) : Prop :=
  nodeId ∈ g.nodes.map (·.id) ∧
    next.nodes = g.nodes.map (fun n => if n.id = nodeId then replacement else n) ∧
    next.nodes.map (·.id) = g.nodes.map (·.id) ∧
    next.nodes.map (·.slot) = g.nodes.map (·.slot)

theorem prepareReplacement_succeeds {expected : Nat} {nodeId : String}
    {replacement : Option RuntimeNodeInsertion}
    (hprepare : inventory.prepareReplacement expected nodeId replacement configs = .ok next) :
    inventory.Succeeds (.replacement expected nodeId replacement configs) next ∧
      ∃ n, replacement = some n ∧
        Replaces inventory.generation nodeId n next.generation := by
  unfold prepareReplacement at hprepare
  dsimp only at hprepare
  split_ifs at hprepare with hexpected hempty hlast hlength
  split at hprepare
  · cases hprepare
  rename_i n
  obtain ⟨⟨nodes, found⟩, hreplace, hprepare⟩ := bind_eq_ok.mp hprepare
  dsimp only at hprepare
  split_ifs at hprepare with hunknown
  obtain ⟨made, hmake, hprepare⟩ := bind_eq_ok.mp hprepare
  cases hprepare
  obtain ⟨hnodes, hplaces, hconfigs, hfound⟩ := replaceNode_eq_ok (not_not.mp hlength) hreplace
  have hmade : made.nodes = nodes := (makeGeneration_eq_ok hmake h.plan).2.2.2.2
  have hids : made.nodes.map (·.id) = inventory.generation.nodes.map (·.id) := by
    rw [hmade, hnodes, map_map]
    refine map_congr_left fun m hm => ?_
    show (if m.id = nodeId then n else m).id = m.id
    split_ifs with hid
    · exact (hplaces m hm hid).2
    · rfl
  have hslots : made.nodes.map (·.slot) = inventory.generation.nodes.map (·.slot) := by
    rw [hmade, hnodes, map_map]
    refine map_congr_left fun m hm => ?_
    show (if m.id = nodeId then n else m).slot = m.slot
    split_ifs with hid
    · exact (hplaces m hm hid).1
    · rfl
  exact ⟨.of_generation (.replacement expected nodeId _ configs) (not_not.mp hexpected).symm
    rfl h hmake (hconfigs.trans hids.symm), n, rfl, hfound (by simpa using hunknown),
    hmade.trans hnodes, hids, hslots⟩

theorem prepare_succeeds {c : InventoryCall}
    (hprepare : inventory.prepare c = .ok next) : inventory.Succeeds c next := by
  cases c with
  | append => exact prepareAppend_succeeds hprepare
  | removal => exact prepareRemoval_succeeds h hprepare
  | replacement => exact (prepareReplacement_succeeds h hprepare).1

omit h in
theorem initializeNodes_published {nodes : List NodeRuntime}
    (h : inventory.initializeNodes nodes plan = .ok next) :
    next.generation.Published ∧ next.generation.sequence = 1 ∧
      next.usedNodeIds = next.generation.nodes.map (·.id) := by
  unfold initializeNodes at h
  dsimp only at h
  split_ifs at h with hstarted hroom hplan hids
  cases h
  rw [not_or, not_not] at hids
  have hmap : (nodes.zipIdx.map fun (runtime, slot) =>
      ({ slot, runtime } : RuntimeNodeInsertion)).map (·.id) = nodes.map (·.config.id) := by
    rw [map_map, ← zipIdx_map_fst 0 nodes, map_map, zipIdx_map_fst]
    rfl
  refine ⟨⟨?_, ?_, ?_, ?_, hplan⟩, rfl, hmap.symm⟩
  · rw [hmap]
    exact hids.2
  · rw [map_map]
    show (nodes.zipIdx.map Prod.snd).Nodup
    rw [zipIdx_map_snd]
    exact nodup_range'
  · intro n hn
    obtain ⟨⟨runtime, slot⟩, hmem, rfl⟩ := mem_map.mp hn
    have hslot := snd_lt_of_mem_zipIdx hmem
    show slot < inventory.generation.capacity
    omega
  · rw [hmap, map_map]
    rfl

end Preparations

end RuntimeNodeInventory

namespace InventoryHistory

open NodeGeneration RuntimeNodeInventory

section Histories

variable {h : InventoryHistory}

/-- What the published generations and the nodes that joined have in common. -/
structure Consistent (h : InventoryHistory) : Prop where
  published : ∀ g, g ∈ h.generations → g.Published
  current : h.generations.getLast? = some h.inventory.generation
  sequences : h.generations.map (·.sequence) = range' 1 h.generations.length
  ordered : h.generations.Pairwise Precedes
  distinct : (h.joined.map (·.id)).Nodup
  used : h.joined.map (·.id) ⊆ h.inventory.usedNodeIds

theorem begin_consistent {inventory start : RuntimeNodeInventory} {nodes : List NodeRuntime}
    {plan : Option SimulationNetworkAddressPlan}
    (hstart : inventory.initializeNodes nodes plan = .ok start) : (begin start).Consistent := by
  obtain ⟨hpublished, hsequence, hused⟩ := initializeNodes_published hstart
  refine ⟨forall_mem_singleton.mpr hpublished, rfl, ?_, pairwise_singleton _ _,
    hpublished.ids, fun id hid => hused ▸ hid⟩
  show [start.generation.sequence] = [1]
  rw [hsequence]

theorem Consistent.precedes_current (hconsistent : h.Consistent) {g : NodeGeneration}
    (hg : g ∈ h.generations) : g.Precedes h.inventory.generation := by
  have hordered := hconsistent.ordered
  rw [← dropLast_append_getLast? _ hconsistent.current] at hg hordered
  rcases mem_append.mp hg with hg | hg
  · exact (pairwise_append.mp hordered).2.2 g hg _ (mem_singleton_self _)
  · rw [mem_singleton.mp hg]
    exact .refl _

theorem call_consistent (hconsistent : h.Consistent) (c : InventoryCall) (committed : Bool) :
    (h.call c committed).Consistent := by
  unfold call
  split
  · exact hconsistent
  rename_i next hprepare
  split_ifs
  · have hlast := mem_of_getLast? hconsistent.current
    have hnext := prepare_succeeds (hconsistent.published _ hlast) hprepare
    have hcount : h.inventory.generation.sequence = h.generations.length := by
      have hsequences := congrArg getLast? hconsistent.sequences
      rw [getLast?_map, hconsistent.current, getLast?_range'] at hsequences
      split_ifs at hsequences with hzero
      · exact nomatch hsequences
      have hvalue : h.inventory.generation.sequence = _ := Option.some.inj hsequences
      omega
    refine ⟨?_, getLast?_concat, ?_, ?_, ?_, ?_⟩
    · intro g hg
      rcases mem_append.mp hg with hg | hg
      · exact hconsistent.published g hg
      · rw [mem_singleton.mp hg]
        exact hnext.published
    · show (h.generations ++ [next.generation]).map (·.sequence) = _
      rw [map_append, hconsistent.sequences, map_singleton, hnext.sequence, hcount,
        length_append, length_singleton, range'_concat]
      simp [Nat.add_comm]
    · refine pairwise_append.mpr
        ⟨hconsistent.ordered, pairwise_singleton _ _, fun g hg later hlater => ?_⟩
      rw [mem_singleton.mp hlater]
      exact (hconsistent.precedes_current hg).trans hnext.precedes
    · show ((h.joined ++ c.appended).map (·.id)).Nodup
      rw [map_append]
      refine hconsistent.distinct.append hnext.distinct ?_
      intro id hold hnew
      obtain ⟨n, hn, rfl⟩ := mem_map.mp hnew
      exact hnext.unused n hn (hconsistent.used hold)
    · show (h.joined ++ c.appended).map (·.id) ⊆ next.usedNodeIds
      rw [map_append]
      refine List.Subset.trans ?_ hnext.used
      exact append_subset.mpr ⟨subset_append_of_subset_left _ hconsistent.used,
        subset_append_right _ _⟩
  · exact hconsistent

/-- Nodes that were ever in the same slot had the same addresses. -/
theorem Consistent.same_addresses (hconsistent : h.Consistent)
    {g other : NodeGeneration} {n m : RuntimeNodeInsertion} (hg : g ∈ h.generations)
    (hother : other ∈ h.generations) (hn : n ∈ g.nodes) (hm : m ∈ other.nodes)
    (hslot : n.slot = m.slot) :
    addresses g.networkAddressPlan n.slot = addresses other.networkAddressPlan m.slot := by
  have hsame := (hconsistent.precedes_current hg).addresses n.slot
    ((hconsistent.published g hg).below n hn)
  rw [← hsame, hslot]
  exact (hconsistent.precedes_current hother).addresses m.slot
    ((hconsistent.published other hother).below m hm)

/--
In every history the published generations are numbered one after the other, each of them
is well formed and keeps the capacity and the addresses of those before, and no two nodes
that joined have the same id.  A preparation for another generation is refused; one that
throws or is let go changes nothing; a replacement stays at its place.
-/
theorem generations_never_conflict
    {capacity : Nat} {nodes : List NodeRuntime} {plan : Option SimulationNetworkAddressPlan}
    {start : RuntimeNodeInventory} {labels : List (InventoryCall × Bool)}
    (hstart : create capacity >>= (·.initializeNodes nodes plan) = .ok start)
    (hrun : inventoryMachine.run (begin start) labels = some h) :
    h.Consistent ∧
      (∀ g other n m, g ∈ h.generations → other ∈ h.generations → n ∈ g.nodes →
        m ∈ other.nodes → n.slot = m.slot →
        addresses g.networkAddressPlan n.slot = addresses other.networkAddressPlan m.slot) ∧
      (∀ c, c.expectedGeneration ≠ h.inventory.generation.sequence →
        ∃ message, h.inventory.prepare c = .error message) ∧
      (∀ c next, h.inventory.prepare c = .ok next →
        next.generation.sequence = h.inventory.generation.sequence + 1) ∧
      (∀ c message, h.inventory.prepare c = .error message → h.call c true = h) ∧
      (∀ c, h.call c false = h) ∧
      ∀ expected nodeId replacement configs next,
        h.inventory.prepare (.replacement expected nodeId replacement configs) = .ok next →
        ∃ n, replacement = some n ∧
          Replaces h.inventory.generation nodeId n next.generation := by
  obtain ⟨empty, -, hstart⟩ := bind_eq_ok.mp hstart
  have hconsistent : h.Consistent := by
    refine inventoryMachine.run_preserves (I := Consistent) ?_ hrun (begin_consistent hstart)
    intro s label t hstep hs
    cases Option.some.inj hstep
    exact call_consistent hs label.1 label.2
  have hcurrent := hconsistent.published _ (List.mem_of_getLast? hconsistent.current)
  refine ⟨hconsistent, ?_, ?_, ?_, ?_, ?_, ?_⟩
  · intro g other n m hg hother hn hm hslot
    exact hconsistent.same_addresses hg hother hn hm hslot
  · intro c hexpected
    cases hprepare : h.inventory.prepare c with
    | error message => exact ⟨message, rfl⟩
    | ok next => exact absurd (prepare_succeeds hcurrent hprepare).expected hexpected
  · intro c next hprepare
    exact (prepare_succeeds hcurrent hprepare).sequence
  · intro c message hprepare
    unfold call
    rw [hprepare]
  · intro c
    unfold call
    split <;> rfl
  · intro expected nodeId replacement configs next hprepare
    exact (prepareReplacement_succeeds hcurrent hprepare).2

/-- Two or three links of a pool. -/
def links (count : Nat) : Option SimulationNetworkAddressPlan :=
  some ⟨167772160, 24, (range count).map (167772160 + 2 * ·)⟩

/-- A node joins and there is room for more, the first one leaves, and the one that is left is
replaced. -/
def threeCalls : List (InventoryCall × Bool) :=
  [(.append 1 [some ⟨1, 1, "b", "h", 2⟩] [] 3 (links 3), true),
    (.removal 2 ["a"] [⟨"b", "h", 2⟩], true),
    (.replacement 3 "b" (some ⟨1, 2, "b", "h", 3⟩) [⟨"b", "h", 3⟩], true)]

/-- The second slot has the same addresses in every generation. -/
theorem three_calls_never_conflict :
    ∃ start h, create 2 >>= (·.initializeNodes [⟨0, "a", "h", 1⟩] (links 2)) = .ok start ∧
      inventoryMachine.run (begin start) threeCalls = some h ∧
      h.generations.map (addresses ·.networkAddressPlan 1) =
        replicate 4 (some 167772162, some 167772163) ∧
      h.Consistent ∧
      ∀ g other n m, g ∈ h.generations → other ∈ h.generations → n ∈ g.nodes →
        m ∈ other.nodes → n.slot = m.slot →
        addresses g.networkAddressPlan n.slot = addresses other.networkAddressPlan m.slot := by
  have hagree : ∀ {start h}, create 2 >>= (·.initializeNodes [⟨0, "a", "h", 1⟩] (links 2)) =
      .ok start → inventoryMachine.run (begin start) threeCalls = some h → _ :=
    fun hstart hrun => generations_never_conflict hstart hrun
  exact ⟨_, _, rfl, rfl, rfl, (hagree rfl rfl).1, (hagree rfl rfl).2.1⟩

end Histories

end InventoryHistory

end Bbp
