import Bbp.Library.Stores
import Bbp.Library.Transition

/-!
# Network partitions

A partition is put into force as two drop rules for every pair of nodes that it
separates, each in the egress filter table of the node that the traffic goes to.  The
tables are shared by all partitions, and nothing records which of them a rule belongs
to: a heal deletes every rule of its own pairs.  So a partition that is still listed as
active may have lost rules to the heal of one that overlaps it
(`overlapping_heal_opens_partition`).

A call is exact about the rules it names (`mutateRules_spec`), and that gives the
invariant for the runs in which no heal meets an active partition that shares a pair with
it (`active_partition_stays_applied`).
-/

namespace Bbp.Simulator

open Library List

section Rules

structure NodeNetwork where
  nodeAddress : String
deriving DecidableEq

structure NodeRuntime where
  id : String
  p2pPort : Nat
  network : Option NodeNetwork

structure NetworkBlockRule where
  nodeIndex : Nat := 0
  srcAddress : String := ""
  srcPort : Nat := 0
  dstAddress : String := ""
  dstPort : Nat := 0
  handle : Nat := 0
deriving DecidableEq

/-- Two groups of node indexes without a common member. -/
structure NetworkPartitionRule where
  groupA : List Nat
  groupB : List Nat
  nonemptyA : groupA ≠ []
  nonemptyB : groupB ≠ []
  disjoint : ∀ a, a ∈ groupA → a ∉ groupB
deriving DecidableEq

inductive PartitionError where
  | nodeOutOfRange
  | notIsolated
  | duplicateHandle (handle : Nat)
  | handleUsed (handle : Nat)
  | zeroPort
  | notVisible
  | remained
  | notRestored
  | simulationCancelled
  | external (text : String)
  | unconfirmed (original : String) (rollback : List String)
  | unpublished (original : String)
deriving DecidableEq

/-- The errors that leave open what the call has done. -/
def PartitionError.isUnconfirmed : PartitionError → Bool
  | .unconfirmed _ _ | .unpublished _ => true
  | _ => false

def PartitionError.message : PartitionError → String
  | .nodeOutOfRange => "partition node is out of range"
  | .notIsolated => "partition nodes do not have isolated network addresses"
  | .duplicateHandle handle =>
    "network partition produced a duplicate rule handle: " ++ toString handle
  | .handleUsed handle =>
    "network block rule handle is already used by different filter: " ++ toString handle
  | .zeroPort => "drop filter TCP destination port must be > 0"
  | .notVisible => "runtime network partition rule was not visible after apply"
  | .remained => "runtime network partition rule remained after heal"
  | .notRestored => "network block rule rollback did not restore prior state"
  | .simulationCancelled => "simulation cancelled"
  | .external text => text
  | .unconfirmed original rollback =>
    "network partition mutation outcome is unconfirmed: " ++ original ++
      "; rollback failed:" ++ rollback.foldl (fun text e => text ++ " [" ++ e ++ "]") ""
  | .unpublished original =>
    "network partition completed without a publishable outcome: " ++ original

def mixByte (hash value : Nat) : Nat := (hash ^^^ value) * 16777619 % 2 ^ 32

def mixUint32 (hash value : Nat) : Nat :=
  [0, 8, 16, 24].foldl (fun hash shift => mixByte hash (value >>> shift % 256)) hash

/-- The bytes of a text, in UTF-8. -/
def stringBytes (text : String) : List Nat :=
  (text.toList.flatMap String.utf8EncodeChar).map UInt8.toNat

def mixString (hash : Nat) (text : String) : Nat := (stringBytes text).foldl mixByte hash

/-- A handle of 24 bits that is never zero. -/
def stableRuleHandle (rule : NetworkBlockRule) : Nat :=
  let hash := mixUint32 2166136261 ((rule.nodeIndex + 1) % 2 ^ 32)
  let hash := mixString hash rule.srcAddress
  let hash := if rule.srcPort ≠ 0 then mixUint32 (mixByte hash 255) rule.srcPort else hash
  let hash := mixString hash rule.dstAddress
  let hash := mixUint32 hash rule.dstPort
  let hash := hash % 2 ^ 24
  if hash = 0 then 1 else hash

/-- Traffic from one node to the other one is dropped where it arrives. -/
def makeP2pBlockRule (nodes : List NodeRuntime) (src dst : Nat) :
    Except PartitionError NetworkBlockRule :=
  match nodes[src]?, nodes[dst]? with
  | some source, some target =>
    match source.network, target.network with
    | some sourceNetwork, some targetNetwork =>
      let rule : NetworkBlockRule :=
        { nodeIndex := dst
          srcAddress := sourceNetwork.nodeAddress
          dstAddress := targetNetwork.nodeAddress
          dstPort := target.p2pPort }
      .ok { rule with handle := stableRuleHandle rule }
    | _, _ => .error .notIsolated
  | _, _ => .error .nodeOutOfRange

/-- Both directions of every pair that the partition separates. -/
def NetworkPartitionRule.pairs (p : NetworkPartitionRule) : List (Nat × Nat) :=
  p.groupA.flatMap fun a => p.groupB.flatMap fun b => [(a, b), (b, a)]

def partitionBlockRules (p : NetworkPartitionRule) (nodes : List NodeRuntime) :
    Except PartitionError (List NetworkBlockRule) :=
  p.pairs.mapM fun pair => makeP2pBlockRule nodes pair.1 pair.2

theorem mem_pairs {p : NetworkPartitionRule} {a b : Nat} (ha : a ∈ p.groupA) (hb : b ∈ p.groupB) :
    (a, b) ∈ p.pairs ∧ (b, a) ∈ p.pairs := by
  unfold NetworkPartitionRule.pairs
  refine ⟨mem_flatMap.mpr ⟨a, ha, mem_flatMap.mpr ⟨b, hb, ?_⟩⟩,
    mem_flatMap.mpr ⟨a, ha, mem_flatMap.mpr ⟨b, hb, ?_⟩⟩⟩
  · exact mem_cons_self
  · exact mem_cons_of_mem _ mem_cons_self

variable {nodes : List NodeRuntime}

theorem makeP2pBlockRule_error {src dst : Nat} {e : PartitionError}
    (h : makeP2pBlockRule nodes src dst = .error e) : e.isUnconfirmed = false := by
  unfold makeP2pBlockRule at h
  split at h
  · split at h <;> cases h
    rfl
  · cases h
    rfl

/-- What is planned is what the pairs give, one rule for each. -/
theorem partitionBlockRules_spec (p : NetworkPartitionRule) (nodes : List NodeRuntime) :
    match partitionBlockRules p nodes with
    | .ok rules =>
      (∀ pair ∈ p.pairs, ∃ rule ∈ rules, makeP2pBlockRule nodes pair.1 pair.2 = .ok rule) ∧
      ∀ rule ∈ rules, ∃ pair ∈ p.pairs, makeP2pBlockRule nodes pair.1 pair.2 = .ok rule
    | .error e => e.isUnconfirmed = false := by
  unfold partitionBlockRules
  induction p.pairs with
  | nil => exact ⟨nofun, nofun⟩
  | cons pair pairs ih =>
    rw [mapM_cons]
    cases hpair : makeP2pBlockRule nodes pair.1 pair.2 with
    | error e => exact makeP2pBlockRule_error hpair
    | ok rule =>
      generalize (pairs.mapM fun pair => makeP2pBlockRule nodes pair.1 pair.2) = rest at ih ⊢
      cases rest with
      | error e => exact ih
      | ok rules =>
        obtain ⟨hfrom, hto⟩ := ih
        refine ⟨forall_mem_cons.mpr ⟨⟨rule, mem_cons_self, hpair⟩, ?_⟩,
          forall_mem_cons.mpr ⟨⟨pair, mem_cons_self, hpair⟩, ?_⟩⟩
        · intro other hother
          obtain ⟨r, hr, hrule⟩ := hfrom other hother
          exact ⟨r, mem_cons_of_mem _ hr, hrule⟩
        · intro r hr
          obtain ⟨other, hother, hrule⟩ := hto r hr
          exact ⟨other, mem_cons_of_mem _ hother, hrule⟩

/-- The addresses of the nodes, in their order. -/
def nodeAddresses (nodes : List NodeRuntime) : List (Option String) :=
  nodes.map fun node => node.network.map NodeNetwork.nodeAddress

theorem makeP2pBlockRule_ok {src dst : Nat} {rule : NetworkBlockRule}
    (h : makeP2pBlockRule nodes src dst = .ok rule) :
    rule.nodeIndex = dst ∧ (nodeAddresses nodes)[src]? = some (some rule.srcAddress) := by
  unfold makeP2pBlockRule at h
  split at h
  · rename_i source target hsource htarget
    split at h <;> cases h
    rename_i sourceNetwork targetNetwork hnetwork _
    refine ⟨rfl, ?_⟩
    rw [nodeAddresses, getElem?_map, hsource, Option.map_some, hnetwork]
    rfl
  · cases h

end Rules

section Filters

/-- What a filter of the egress table drops. -/
structure DropFilter where
  srcAddress : String
  srcPort : Nat
  dstAddress : String
  dstPort : Nat
deriving DecidableEq

def NetworkBlockRule.filter (rule : NetworkBlockRule) : DropFilter :=
  ⟨rule.srcAddress, rule.srcPort, rule.dstAddress, rule.dstPort⟩

/-- The table of every node, from handles to drop filters. -/
abbrev FilterTables : Type := Nat → Nat → Option DropFilter

namespace FilterTables

def put (tables : FilterTables) (node handle : Nat) (filter : Option DropFilter) : FilterTables :=
  fun n h => if n = node ∧ h = handle then filter else tables n h

@[simp] theorem put_same (tables : FilterTables) (node handle : Nat) (filter : Option DropFilter) :
    tables.put node handle filter node handle = filter :=
  if_pos ⟨rfl, rfl⟩

variable {tables : FilterTables}

theorem put_other {node handle n h : Nat} {filter : Option DropFilter}
    (hother : ¬ (n = node ∧ h = handle)) : tables.put node handle filter n h = tables n h :=
  if_neg hother

def networkBlockRulePresent (tables : FilterTables) (rule : NetworkBlockRule) : Bool :=
  tables rule.nodeIndex rule.handle == some rule.filter

/-- No other filter has the handle of the rule. -/
def handleAvailable (tables : FilterTables) (rule : NetworkBlockRule) : Bool :=
  (tables rule.nodeIndex rule.handle).all (· == rule.filter)

variable {rule : NetworkBlockRule}

theorem present_iff :
    tables.networkBlockRulePresent rule = true ↔
      tables rule.nodeIndex rule.handle = some rule.filter := by
  simp only [networkBlockRulePresent, beq_iff_eq]

theorem value_of_available (h : tables.handleAvailable rule = true) :
    tables rule.nodeIndex rule.handle =
      if tables.networkBlockRulePresent rule then some rule.filter else none := by
  rw [handleAvailable] at h
  rw [networkBlockRulePresent]
  cases hfilter : tables rule.nodeIndex rule.handle with
  | none => rfl
  | some filter =>
    rw [hfilter, Option.all_some, beq_iff_eq] at h
    rw [h, if_pos (beq_self_eq_true _)]

theorem filter_of_available {filter : DropFilter} (havailable : tables.handleAvailable rule = true)
    (hfilter : tables rule.nodeIndex rule.handle = some filter) : filter = rule.filter := by
  simpa only [handleAvailable, hfilter, Option.all_some, beq_iff_eq] using havailable

end FilterTables

end Filters

section Call

structure PartitionRuleState where
  rule : NetworkBlockRule
  existedBefore : Bool
  presentAfter : Bool := false
deriving DecidableEq

/-- The rule a call is about, as a place in the tables. -/
def PartitionRuleState.place (state : PartitionRuleState) : Nat × Nat :=
  (state.rule.nodeIndex, state.rule.handle)

/-- How the check of one rule can go wrong: one of its two listings may fail. -/
inductive PlanningFault where
  | stop
  | available (text : String)
  | present (text : String)

/-- How the change of one rule can go wrong. -/
inductive RuleFault where
  | stopBefore
  | mutation (text : String) (effective : Bool)
  | stopAfter
  | listing (text : String)

/-- What the environment answers during one call. -/
structure CallAnswers where
  planningFault : Nat → Option PlanningFault := fun _ => none
  fault : Nat → Option RuleFault := fun _ => none
  /-- The text, and whether the rule has been restored all the same. -/
  restoreFault : Nat → Option (String × Bool) := fun _ => none
  written : Except String Unit := .ok ()

/-- Why a rule is not planned. -/
def planningError (tables : FilterTables) (planned : List (Nat × Nat)) (rule : NetworkBlockRule) :
    Option PlanningFault → Option PartitionError
  | some .stop => some .simulationCancelled
  | fault =>
    if (rule.nodeIndex, rule.handle) ∈ planned then some (.duplicateHandle rule.handle)
    else
      match fault with
      | some (.available text) => some (.external text)
      | fault =>
        if tables.handleAvailable rule = false then some (.handleUsed rule.handle)
        else
          match fault with
          | some (.present text) => some (.external text)
          | _ => none

/-- Every rule is checked before one of them is changed. -/
def planRules (tables : FilterTables) (fault : Nat → Option PlanningFault) :
    Nat → List (Nat × Nat) → List NetworkBlockRule → Except PartitionError (List PartitionRuleState)
  | _, _, [] => .ok []
  | index, planned, rule :: rules =>
    match planningError tables planned rule (fault index) with
    | some e => .error e
    | none =>
      match planRules tables fault (index + 1) ((rule.nodeIndex, rule.handle) :: planned)
          rules with
      | .error e => .error e
      | .ok states =>
        .ok
          ({ rule, existedBefore := tables.networkBlockRulePresent rule } :: states)

/-- The change of one rule, without its faults. -/
def mutateRule (tables : FilterTables) (heal : Bool) (state : PartitionRuleState) : FilterTables :=
  if heal then
    if state.existedBefore then tables.put state.rule.nodeIndex state.rule.handle none
    else tables
  else tables.put state.rule.nodeIndex state.rule.handle (some state.rule.filter)

inductive MutationResult where
  | changed (tables : FilterTables) (states : List PartitionRuleState)
  | failed (tables : FilterTables) (attempted : List PartitionRuleState)
      (error : PartitionError)

def mutateRules (heal : Bool) (fault : Nat → Option RuleFault) :
    Nat → FilterTables → List PartitionRuleState → List PartitionRuleState → MutationResult
  | _, tables, _, [] => .changed tables []
  | index, tables, attempted, state :: states =>
    match fault index with
    | some .stopBefore => .failed tables attempted .simulationCancelled
    | some (.mutation text effective) =>
      .failed (if effective then mutateRule tables heal state else tables)
        (state :: attempted) (.external text)
    | some .stopAfter =>
      .failed (mutateRule tables heal state) (state :: attempted)
        .simulationCancelled
    | some (.listing text) =>
      .failed (mutateRule tables heal state) (state :: attempted) (.external text)
    | none =>
      if heal = false ∧ state.rule.dstPort = 0 then .failed tables (state :: attempted) .zeroPort
      else
        let changed := mutateRule tables heal state
        let presentAfter := changed.networkBlockRulePresent state.rule
        if heal = false ∧ presentAfter = false then .failed changed (state :: attempted) .notVisible
        else if heal = true ∧ presentAfter = true then
          .failed changed (state :: attempted) .remained
        else
          match mutateRules heal fault (index + 1) changed (state :: attempted) states with
          | .failed tables attempted e => .failed tables attempted e
          | .changed tables rest => .changed tables ({ state with presentAfter } :: rest)

def restoreNetworkBlockRule
    (tables : FilterTables) (rule : NetworkBlockRule) (shouldBePresent : Bool)
    (fault : Option (String × Bool)) : FilterTables × Option PartitionError :=
  if tables.handleAvailable rule = false then (tables, some (.handleUsed rule.handle))
  else
    match fault with
    | some (text, false) => (tables, some (.external text))
    | fault =>
      let present := tables.networkBlockRulePresent rule
      if shouldBePresent && !present && rule.dstPort == 0 then (tables, some .zeroPort)
      else
        let restored :=
          if shouldBePresent && !present then
            tables.put rule.nodeIndex rule.handle (some rule.filter)
          else if !shouldBePresent && present then tables.put rule.nodeIndex rule.handle none
          else tables
        match fault with
        | some (text, _) => (restored, some (.external text))
        | none =>
          if restored.networkBlockRulePresent rule ≠ shouldBePresent then
            (restored, some .notRestored)
          else (restored, none)

/-- The attempted rules are restored, the last one first. -/
def rollBack (nodes : List NodeRuntime) (fault : Nat → Option (String × Bool)) :
    FilterTables → List PartitionRuleState → FilterTables × List String
  | tables, [] => (tables, [])
  | tables, state :: attempted =>
    let (restored, e) :=
      restoreNetworkBlockRule tables state.rule state.existedBefore (fault attempted.length)
    let (restored, errors) := rollBack nodes fault restored attempted
    match e with
    | none => (restored, errors)
    | some e =>
      let id := (nodes[state.rule.nodeIndex]?).elim "" NodeRuntime.id
      (restored, (toString state.rule.handle ++ " on " ++ id ++ ": " ++ e.message) :: errors)

def applyRuntimeNetworkPartition
    (nodes : List NodeRuntime) (tables : FilterTables) (partition : NetworkPartitionRule)
    (heal : Bool) (answers : CallAnswers) :
    FilterTables × Except PartitionError (List PartitionRuleState) :=
  match partitionBlockRules partition nodes with
  | .error e => (tables, .error e)
  | .ok rules =>
    match planRules tables answers.planningFault 0 [] rules with
    | .error e => (tables, .error e)
    | .ok states =>
      match mutateRules heal answers.fault 0 tables [] states with
      | .failed changed attempted e =>
        match rollBack nodes answers.restoreFault changed attempted with
        | (restored, []) => (restored, .error e)
        | (restored, errors) => (restored, .error (.unconfirmed e.message errors))
      | .changed changed states =>
        match answers.written with
        | .error text => (changed, .error (.unpublished text))
        | .ok () => (changed, .ok states)

end Call

section Exactness

open FilterTables
open PartitionRuleState (place)

variable {tables changed base : FilterTables} {heal : Bool} {state : PartitionRuleState}
  {states planned attempted : List PartitionRuleState}

/-- What the first pass has found out about the rules of a call. -/
structure Planned (tables : FilterTables) (states : List PartitionRuleState) : Prop where
  places : (states.map place).Nodup
  available : ∀ state, state ∈ states → tables.handleAvailable state.rule = true
  existed : ∀ state, state ∈ states →
    state.existedBefore = tables.networkBlockRulePresent state.rule

theorem planningError_spec (planned : List (Nat × Nat)) (rule : NetworkBlockRule)
    (fault : Option PlanningFault) :
    match planningError tables planned rule fault with
    | none => (rule.nodeIndex, rule.handle) ∉ planned ∧ tables.handleAvailable rule = true
    | some e => e.isUnconfirmed = false := by
  by_cases hfresh : (rule.nodeIndex, rule.handle) ∈ planned <;>
    cases hused : tables.handleAvailable rule <;> rcases fault with _ | (_ | _ | _) <;>
    simp [planningError, PartitionError.isUnconfirmed, hfresh, hused]

theorem planRules_spec (index : Nat) (planned : List (Nat × Nat)) (rules : List NetworkBlockRule)
    (fault : Nat → Option PlanningFault) :
    match planRules tables fault index planned rules with
    | .ok states => states.map PartitionRuleState.rule = rules ∧
      (∀ state ∈ states, state.place ∉ planned) ∧ Planned tables states
    | .error e => e.isUnconfirmed = false := by
  induction rules generalizing index planned with
  | nil => exact ⟨rfl, nofun, nodup_nil, nofun, nofun⟩
  | cons rule rules ih =>
    have hchecked := @planningError_spec tables planned rule (fault index)
    have hrest := ih (index + 1) ((rule.nodeIndex, rule.handle) :: planned)
    unfold planRules
    generalize planningError tables planned rule (fault index) = checked at hchecked ⊢
    generalize planRules tables fault (index + 1) ((rule.nodeIndex, rule.handle) :: planned) rules =
      rest at hrest ⊢
    cases checked with
    | some e => exact hchecked
    | none =>
      cases rest with
      | error e => exact hrest
      | ok rest =>
        obtain ⟨hrules, hplaces, hplanned⟩ := hrest
        refine ⟨congrArg (rule :: ·) hrules, ?_, ?_, ?_, ?_⟩
        · refine forall_mem_cons.mpr ⟨hchecked.1, ?_⟩
          exact fun state hstate hmem => hplaces state hstate (mem_cons_of_mem _ hmem)
        · refine nodup_cons.mpr ⟨?_, hplanned.places⟩
          intro hmem
          obtain ⟨state, hstate, hplace⟩ := mem_map.mp hmem
          refine hplaces state hstate ?_
          rw [hplace]
          exact mem_cons_self
        · exact forall_mem_cons.mpr ⟨hchecked.2, hplanned.available⟩
        · exact forall_mem_cons.mpr ⟨rfl, hplanned.existed⟩

/-- One operation on a rule: its place is left as it is, cleared, or set to the filter. -/
def Moves (state : PartitionRuleState) (tables changed : FilterTables) : Prop :=
  changed = tables ∨ ∃ filter, (filter = none ∨ filter = some state.rule.filter) ∧
    changed = tables.put state.rule.nodeIndex state.rule.handle filter

theorem mutateRule_moves : Moves state tables (mutateRule tables heal state) := by
  unfold mutateRule
  split
  · split
    · exact Or.inr ⟨none, Or.inl rfl, rfl⟩
    · exact Or.inl rfl
  · exact Or.inr ⟨_, Or.inr rfl, rfl⟩

theorem Moves.other {n h : Nat} (hmoves : Moves state tables changed)
    (hother : state.place ≠ (n, h)) : changed n h = tables n h := by
  rcases hmoves with rfl | ⟨filter, -, rfl⟩
  · rfl
  · refine put_other ?_
    rintro ⟨rfl, rfl⟩
    exact hother rfl

/-- No operation on a planned rule takes the handle of another one. -/
theorem Moves.available (hmoves : Moves state tables changed)
    (hplaces : (planned.map place).Nodup) (hstate : state ∈ planned)
    (h : ∀ other ∈ planned, tables.handleAvailable other.rule = true) :
    ∀ other ∈ planned, changed.handleAvailable other.rule = true := by
  intro other hother
  by_cases hplace : state.place = other.place
  · cases inj_on_of_nodup_map hplaces hstate hother hplace
    rcases hmoves with rfl | ⟨filter, hfilter, rfl⟩
    · exact h state hother
    · rw [handleAvailable, put_same]
      rcases hfilter with rfl | rfl
      · rfl
      · exact beq_self_eq_true _
  · rw [handleAvailable, hmoves.other hplace]
    exact h other hother

/-- The tables in the middle of a call differ from those before it at attempted rules only. -/
structure Partway (base : FilterTables) (planned : List PartitionRuleState) (tables : FilterTables)
    (attempted : List PartitionRuleState) : Prop where
  available : ∀ state ∈ planned, tables.handleAvailable state.rule = true
  within : ∃ rest, attempted.reverse ++ rest = planned
  differs : ∀ n k, tables n k ≠ base n k → ∃ state ∈ attempted, state.place = (n, k)

theorem Partway.move (h : Partway base planned tables attempted)
    (hplaces : (planned.map place).Nodup) (hsplit : attempted.reverse ++ state :: states = planned)
    (hmoves : Moves state tables changed) : Partway base planned changed (state :: attempted) := by
  have hstate : state ∈ planned := hsplit ▸ mem_append_right _ mem_cons_self
  refine ⟨hmoves.available hplaces hstate h.available, ⟨states, by simpa using hsplit⟩, ?_⟩
  intro n k hne
  by_cases hplace : state.place = (n, k)
  · exact ⟨state, mem_cons_self, hplace⟩
  · rw [hmoves.other hplace] at hne
    obtain ⟨other, hmem, hother⟩ := h.differs n k hne
    exact ⟨other, mem_cons_of_mem _ hmem, hother⟩

/-- A call changes all its rules and nothing else, or has touched those it lists as attempted. -/
theorem mutateRules_spec (fault : Nat → Option RuleFault) (index : Nat)
    (hplaces : (planned.map place).Nodup) (hsplit : attempted.reverse ++ states = planned)
    (h : Partway base planned tables attempted) :
    match mutateRules heal fault index tables attempted states with
    | .failed changed result e => Partway base planned changed result ∧ e.isUnconfirmed = false
    | .changed changed _ =>
      (∀ state ∈ states, changed state.rule.nodeIndex state.rule.handle =
        if heal then none else some state.rule.filter) ∧
      ∀ n k, (∀ state ∈ states, state.place ≠ (n, k)) → changed n k = tables n k := by
  induction states generalizing index tables attempted with
  | nil => exact ⟨nofun, fun _ _ _ => rfl⟩
  | cons state states ih =>
    have hstate : state ∈ planned := hsplit ▸ mem_append_right _ mem_cons_self
    have hstates : (state :: states).Sublist planned := hsplit ▸ sublist_append_right ..
    have hsame := h.move hplaces hsplit (Or.inl rfl)
    have hmoves := @mutateRule_moves tables heal state
    have hchanged := h.move hplaces hsplit hmoves
    have hrest := ih (index + 1) (by simpa using hsplit) hchanged
    have hvalue := value_of_available (hchanged.available state hstate)
    unfold mutateRules
    rcases fault index with _ | (_ | ⟨text, _ | _⟩ | _ | _)
    case some.stopBefore => exact ⟨h, rfl⟩
    case some.mutation.false => exact ⟨hsame, rfl⟩
    case none =>
      dsimp only
      by_cases hport : heal = false ∧ state.rule.dstPort = 0
      · rw [if_pos hport]
        exact ⟨hsame, rfl⟩
      rw [if_neg hport]
      generalize (mutateRule tables heal state).networkBlockRulePresent state.rule = present
        at hvalue ⊢
      by_cases habsent : heal = false ∧ present = false
      · rw [if_pos habsent]
        exact ⟨hchanged, rfl⟩
      by_cases hpresent : heal = true ∧ present = true
      · rw [if_neg habsent, if_pos hpresent]
        exact ⟨hchanged, rfl⟩
      rw [if_neg habsent, if_neg hpresent]
      generalize mutateRules heal fault (index + 1) (mutateRule tables heal state)
        (state :: attempted) states = rest at hrest ⊢
      cases rest with
      | failed => exact hrest
      | changed changed rest =>
        obtain ⟨hrules, hothers⟩ := hrest
        refine ⟨forall_mem_cons.mpr ⟨?_, hrules⟩, ?_⟩
        · rw [hothers, hvalue]
          · cases heal with
            | true => exact if_neg fun h => hpresent ⟨rfl, h⟩
            | false => exact if_pos (eq_true_of_ne_false fun h => habsent ⟨rfl, h⟩)
          · intro later hlater hplace
            refine (nodup_cons.mp (hplaces.sublist (hstates.map _))).1 ?_
            exact mem_map.mpr ⟨later, hlater, hplace⟩
        · intro n k hnone
          rw [hothers n k (fun later hlater => hnone later (mem_cons_of_mem _ hlater))]
          exact hmoves.other (hnone state mem_cons_self)
    all_goals exact ⟨hchanged, rfl⟩

variable {should : Bool} {answer : Option (String × Bool)}

theorem restoreNetworkBlockRule_moves :
    Moves state tables (restoreNetworkBlockRule tables state.rule should answer).1 := by
  unfold restoreNetworkBlockRule
  grind [Moves]

/-- A restore without a fault has put the rule back, unless the kernel refuses its port. -/
theorem restoreNetworkBlockRule_spec (havailable : tables.handleAvailable state.rule = true) :
    match restoreNetworkBlockRule tables state.rule should answer with
    | (restored, none) => restored state.rule.nodeIndex state.rule.handle =
      if should then some state.rule.filter else none
    | (_, some _) => answer ≠ none ∨ should = true ∧
      tables.networkBlockRulePresent state.rule = false ∧ state.rule.dstPort = 0 := by
  have hvalue := value_of_available havailable
  have hput : ∀ filter, (tables.put state.rule.nodeIndex state.rule.handle
      filter).networkBlockRulePresent state.rule = (filter == some state.rule.filter) := by
    intro filter
    rw [networkBlockRulePresent, put_same]
  unfold restoreNetworkBlockRule
  by_cases hport : state.rule.dstPort = 0 <;> cases should <;>
    cases hpresent : tables.networkBlockRulePresent state.rule <;>
    rcases answer with _ | ⟨text, _ | _⟩ <;> simp_all

variable {nodes : List NodeRuntime} {partition : NetworkPartitionRule} {answers : CallAnswers}

/-- Which step of a rollback fails, by the rules that were attempted before its own: one that
meets a fault, or that has to put a rule back whose port the kernel refuses. -/
def StepFails (fault : Nat → Option (String × Bool)) (tables : FilterTables)
    (state : PartitionRuleState) (earlier : List PartitionRuleState) : Prop :=
  fault earlier.length ≠ none ∨ state.existedBefore = true ∧
    tables.networkBlockRulePresent state.rule = false ∧ state.rule.dstPort = 0

/-- A rollback without an error restores the tables, and one with an error has a step that fails. -/
theorem rollBack_spec (hplanned : Planned base planned)
    (hattempted : ∀ state ∈ attempted, state ∈ planned) (hplaces : (attempted.map place).Nodup)
    (havailable : ∀ state ∈ planned, tables.handleAvailable state.rule = true) :
    match rollBack nodes answers.restoreFault tables attempted with
    | (restored, []) =>
      (∀ n k, tables n k ≠ base n k → ∃ state ∈ attempted, state.place = (n, k)) → restored = base
    | (_, _ :: _) => ∃ state earlier, state :: earlier <:+ attempted ∧
      StepFails answers.restoreFault tables state earlier := by
  induction attempted generalizing tables with
  | nil =>
    intro hdiffers
    funext n k
    by_contra hne
    obtain ⟨state, hstate, -⟩ := hdiffers n k hne
    cases hstate
  | cons state attempted ih =>
    have hstate := hattempted state mem_cons_self
    have hmoves := @restoreNetworkBlockRule_moves tables state state.existedBefore
      (answers.restoreFault attempted.length)
    have hspec := @restoreNetworkBlockRule_spec tables state state.existedBefore
      (answers.restoreFault attempted.length) (havailable state hstate)
    obtain ⟨hfresh, hplaces⟩ := nodup_cons.mp hplaces
    unfold rollBack
    generalize restoreNetworkBlockRule tables state.rule state.existedBefore
      (answers.restoreFault attempted.length) = restore at hmoves hspec ⊢
    obtain ⟨restored, e⟩ := restore
    have hrest := ih (fun other hother => hattempted other (mem_cons_of_mem _ hother)) hplaces
      (hmoves.available hplanned.places hstate havailable)
    dsimp only at hmoves hspec hrest ⊢
    generalize rollBack nodes answers.restoreFault restored attempted = rest at hrest ⊢
    obtain ⟨last, errors⟩ := rest
    cases e with
    | some e => exact ⟨state, attempted, suffix_rfl, hspec⟩
    | none =>
      cases errors with
      | cons e errors =>
        obtain ⟨other, earlier, hsuffix, hfails⟩ := hrest
        have hother : state.place ≠ other.place := fun h =>
          hfresh (h ▸ mem_map_of_mem (hsuffix.subset mem_cons_self))
        refine ⟨other, earlier, hsuffix.trans (suffix_cons ..), ?_⟩
        unfold StepFails networkBlockRulePresent at hfails ⊢
        rwa [hmoves.other hother] at hfails
      | nil =>
        intro hdiffers
        refine hrest ?_
        intro n k hne
        have hother : state.place ≠ (n, k) := by
          rintro h
          obtain ⟨rfl, rfl⟩ := Prod.mk.inj h
          refine hne (hspec.trans ?_)
          rw [hplanned.existed state hstate]
          exact (value_of_available (hplanned.available state hstate)).symm
        rw [hmoves.other hother] at hne
        obtain ⟨other, hmem, hplace⟩ := hdiffers n k hne
        exact ⟨other, (mem_cons.mp hmem).resolve_left fun h => hother (h ▸ hplace), hplace⟩

/-- What a successful call has done. -/
structure Effect (nodes : List NodeRuntime) (tables : FilterTables)
    (partition : NetworkPartitionRule) (heal : Bool) (changed : FilterTables)
    (rules : List NetworkBlockRule) : Prop where
  planned : partitionBlockRules partition nodes = .ok rules
  available : ∀ rule, rule ∈ rules → tables.handleAvailable rule = true
  touched : ∀ rule, rule ∈ rules →
    changed rule.nodeIndex rule.handle = if heal then none else some rule.filter
  others : ∀ n k, (∀ rule, rule ∈ rules → (rule.nodeIndex, rule.handle) ≠ (n, k)) →
    changed n k = tables n k

/-- The call gives up at one of its rules, and a step of its rollback fails. -/
def RollbackFails (nodes : List NodeRuntime) (tables : FilterTables)
    (partition : NetworkPartitionRule) (heal : Bool) (answers : CallAnswers) : Prop :=
  ∃ rules states changed attempted e, partitionBlockRules partition nodes = .ok rules ∧
    planRules tables answers.planningFault 0 [] rules = .ok states ∧
    mutateRules heal answers.fault 0 tables [] states = .failed changed attempted e ∧
    ∃ state earlier, state :: earlier <:+ attempted ∧
      StepFails answers.restoreFault changed state earlier

/-- What a call has done, by its result. -/
def Outcome (nodes : List NodeRuntime) (tables : FilterTables) (partition : NetworkPartitionRule)
    (heal : Bool) (answers : CallAnswers) :
    FilterTables × Except PartitionError (List PartitionRuleState) → Prop
  | (changed, .ok _) => ∃ rules, Effect nodes tables partition heal changed rules
  | (changed, .error e) =>
    (e.isUnconfirmed = false → changed = tables) ∧ (e.isUnconfirmed = true →
      RollbackFails nodes tables partition heal answers ∨
      ∃ text rules, answers.written = .error text ∧
        Effect nodes tables partition heal changed rules)

theorem applyRuntimeNetworkPartition_outcome (nodes : List NodeRuntime) (tables : FilterTables)
    (partition : NetworkPartitionRule) (heal : Bool) (answers : CallAnswers) :
    Outcome nodes tables partition heal answers
      (applyRuntimeNetworkPartition nodes tables partition heal answers) := by
  unfold applyRuntimeNetworkPartition
  cases hrules : partitionBlockRules partition nodes with
  | error e =>
    have he := partitionBlockRules_spec partition nodes
    rw [hrules] at he
    exact ⟨fun _ => rfl, fun h => absurd (he.symm.trans h) nofun⟩
  | ok rules =>
    have hspec := @planRules_spec tables 0 [] rules answers.planningFault
    dsimp only
    cases hplan : planRules tables answers.planningFault 0 [] rules with
    | error e =>
      rw [hplan] at hspec
      exact ⟨fun _ => rfl, fun h => absurd (hspec.symm.trans h) nofun⟩
    | ok states =>
      rw [hplan] at hspec
      obtain ⟨rfl, -, hplanned⟩ := hspec
      have hspec := @mutateRules_spec tables tables heal states states [] answers.fault 0
        hplanned.places rfl ⟨hplanned.available, ⟨states, rfl⟩, fun _ _ h => absurd rfl h⟩
      dsimp only
      cases hmutated : mutateRules heal answers.fault 0 tables [] states with
      | changed changed result =>
        rw [hmutated] at hspec
        obtain ⟨htouched, hothers⟩ := hspec
        have heffect : Effect nodes tables partition heal changed
            (states.map PartitionRuleState.rule) := by
          refine ⟨hrules, forall_mem_map.mpr hplanned.available, forall_mem_map.mpr htouched, ?_⟩
          intro n k hnone
          exact hothers n k (fun state hstate => hnone state.rule (mem_map_of_mem hstate))
        dsimp only
        cases hwritten : answers.written with
        | error text => exact ⟨nofun, fun _ => Or.inr ⟨text, _, hwritten, heffect⟩⟩
        | ok => exact ⟨_, heffect⟩
      | failed changed attempted e =>
        rw [hmutated] at hspec
        obtain ⟨hpartway, he⟩ := hspec
        obtain ⟨rest, hsplit⟩ := hpartway.within
        have hsublist : attempted.reverse.Sublist states := hsplit ▸ sublist_append_left ..
        have hplaces : (attempted.map place).Nodup := by
          rw [← nodup_reverse, ← map_reverse]
          exact hplanned.places.sublist (hsublist.map _)
        have hrolled := @rollBack_spec changed tables states attempted nodes answers hplanned
          (fun state hstate => hsublist.subset (mem_reverse.mpr hstate)) hplaces hpartway.available
        dsimp only
        generalize rollBack nodes answers.restoreFault changed attempted = rolled at hrolled ⊢
        obtain ⟨restored, _ | ⟨error, errors⟩⟩ := rolled
        · exact ⟨fun _ => hrolled hpartway.differs, fun h => absurd (he.symm.trans h) nofun⟩
        · exact ⟨nofun, fun _ => Or.inl ⟨_, states, changed, attempted, e, hrules, hplan, hmutated,
            hrolled⟩⟩

/-- A call that succeeds changes exactly the rules of the partition.  One that fails changes
nothing, unless its error says that the outcome is not confirmed.  Then a step of the rollback has
failed, or the event has not been written after all rules were changed. -/
theorem partition_is_all_or_nothing (nodes : List NodeRuntime) (tables : FilterTables)
    (partition : NetworkPartitionRule) (heal : Bool) (answers : CallAnswers) :
    match applyRuntimeNetworkPartition nodes tables partition heal answers with
    | (changed, .ok _) => ∃ rules, Effect nodes tables partition heal changed rules
    | (changed, .error e) =>
      (e.isUnconfirmed = false → changed = tables) ∧
      (e.isUnconfirmed = true →
        RollbackFails nodes tables partition heal answers ∨
        ∃ text rules, answers.written = .error text ∧
          Effect nodes tables partition heal changed rules) := by
  have houtcome := applyRuntimeNetworkPartition_outcome nodes tables partition heal answers
  generalize applyRuntimeNetworkPartition nodes tables partition heal answers = call at houtcome ⊢
  obtain ⟨changed, _ | _⟩ := call
  all_goals exact houtcome

/-- Three nodes with networks of their own. -/
def threeNodes : List NodeRuntime :=
  [⟨"a", 18444, some ⟨"10.0.0.1"⟩⟩, ⟨"b", 18444, some ⟨"10.0.0.3"⟩⟩,
    ⟨"c", 18444, some ⟨"10.0.0.5"⟩⟩]

/-- The first node against the second one. -/
def firstAgainstSecond : NetworkPartitionRule := ⟨[0], [1], by decide, by decide, by decide⟩

/-- The second rule is refused, and the first one may be stuck. -/
def refusedRule (stuck : Bool) : CallAnswers :=
  { fault := fun index => if index = 1 then some (.mutation "busy" false) else none
    restoreFault := fun index => if stuck && index = 0 then some ("busy", false) else none }

def refusedCall (stuck : Bool) : FilterTables × Except PartitionError (List PartitionRuleState) :=
  applyRuntimeNetworkPartition threeNodes (fun _ _ => none) firstAgainstSecond false
    (refusedRule stuck)

/-- The first rule is taken back, and the tables are those of before, unless it is stuck. -/
theorem refused_rule_is_rolled_back :
    refusedCall false = (fun _ _ => none, .error (.external "busy")) ∧
      (∃ changed errors, refusedCall true = (changed, .error (.unconfirmed "busy" errors))) ∧
      RollbackFails threeNodes (fun _ _ => none) firstAgainstSecond false (refusedRule true) := by
  have hall : ∀ stuck, _ := fun stuck => partition_is_all_or_nothing threeNodes (fun _ _ => none)
    firstAgainstSecond false (refusedRule stuck)
  have hclean : (refusedCall false).2 = .error (.external "busy") := by decide +kernel
  have hstuck : (refusedCall true).2 = .error (.unconfirmed "busy" ["9161721 on b: busy"]) := by
    decide +kernel
  unfold refusedCall at hclean hstuck ⊢
  have hfirst := hall false
  have hsecond := hall true
  generalize applyRuntimeNetworkPartition threeNodes (fun _ _ => none) firstAgainstSecond false
    (refusedRule false) = clean at hfirst hclean ⊢
  generalize applyRuntimeNetworkPartition threeNodes (fun _ _ => none) firstAgainstSecond false
    (refusedRule true) = stuck at hsecond hstuck ⊢
  obtain ⟨changed, _⟩ := clean
  obtain ⟨left, _⟩ := stuck
  cases hclean
  cases hstuck
  refine ⟨by rw [hfirst.1 rfl], ⟨left, _, rfl⟩, (hsecond.2 rfl).resolve_right ?_⟩
  rintro ⟨text, rules, hwritten, -⟩
  cases hwritten

/-- A rule that is present is dropped by a heal of the same rule only. -/
theorem Effect.present {rules : List NetworkBlockRule} {rule : NetworkBlockRule}
    (h : Effect nodes tables partition heal changed rules)
    (hpresent : tables.networkBlockRulePresent rule = true)
    (hkept : heal = true → ∀ r, r ∈ rules → r.nodeIndex = rule.nodeIndex → r.filter ≠ rule.filter) :
    changed.networkBlockRulePresent rule = true := by
  rw [present_iff] at hpresent ⊢
  by_cases hnamed : ∃ r, r ∈ rules ∧ (r.nodeIndex, r.handle) = (rule.nodeIndex, rule.handle)
  · obtain ⟨r, hr, hplace⟩ := hnamed
    obtain ⟨hnode, hhandle⟩ := Prod.mk.inj hplace
    have hfilter : rule.filter = r.filter := by
      refine filter_of_available (h.available r hr) ?_
      rw [hnode, hhandle]
      exact hpresent
    have htouched := h.touched r hr
    cases heal with
    | true => exact absurd hfilter.symm (hkept rfl r hr hnode)
    | false =>
      rw [hnode, hhandle] at htouched
      rw [htouched, hfilter]
      rfl
  · rw [h.others, hpresent]
    intro r hr hplace
    exact hnamed ⟨r, hr, hplace⟩

end Exactness

section Report

/-- The members of a group, as the report orders them. -/
def partitionGroup (group : List Nat) : List Nat :=
  ((group.map (· + 1)).insertionSort (· ≤ ·)).destutter (· ≠ ·)

def partitionGroupKey (group : List Nat) : String :=
  String.intercalate "," ((partitionGroup group).map toString)

/-- The same key for both orders of the groups. -/
def partitionKey (p : NetworkPartitionRule) : String :=
  let left := partitionGroupKey p.groupA
  let right := partitionGroupKey p.groupB
  if right < left then right ++ "|" ++ left else left ++ "|" ++ right

/-- The tables of the nodes, and the partitions that the report lists as active. -/
structure PartitionedNetwork where
  tables : FilterTables := fun _ _ => none
  activePartitions : List (String × NetworkPartitionRule) := []

def rememberActivePartition
    (partitions : List (String × NetworkPartitionRule)) (p : NetworkPartitionRule)
    (active : Bool) : List (String × NetworkPartitionRule) :=
  if active then (partitionKey p, p) :: eraseKey (partitionKey p) partitions
  else eraseKey (partitionKey p) partitions

structure PartitionCall where
  partition : NetworkPartitionRule
  heal : Bool
  answers : CallAnswers := {}

/-- Successful calls, one after the other. -/
def partitionMachine (nodes : List NodeRuntime) : Machine PartitionedNetwork PartitionCall where
  step s call :=
    match applyRuntimeNetworkPartition nodes s.tables call.partition call.heal call.answers with
    | (tables, .ok _) =>
      some
        { tables
          activePartitions := rememberActivePartition s.activePartitions call.partition !call.heal }
    | (_, .error _) => none

end Report

section Invariant

variable {nodes : List NodeRuntime} {s t : PartitionedNetwork} {call : PartitionCall}

/-- Two partitions separate a pair of nodes in common. -/
def NetworkPartitionRule.sharesPair (p q : NetworkPartitionRule) : Bool :=
  p.pairs.any fun pair => q.pairs.contains pair

/-- A heal meets no other active partition that shares a pair with it. -/
def PartitionedNetwork.healsAlone (s : PartitionedNetwork) (call : PartitionCall) : Bool :=
  !call.heal || s.activePartitions.all fun entry =>
    entry.1 == partitionKey call.partition || !entry.2.sharesPair call.partition

/-- The rule for the traffic from one node to another one is present. -/
def PartitionedNetwork.drops (nodes : List NodeRuntime) (s : PartitionedNetwork)
    (src dst : Nat) : Bool :=
  match makeP2pBlockRule nodes src dst with
  | .ok rule => s.tables.networkBlockRulePresent rule
  | .error _ => false

theorem PartitionedNetwork.drops_iff {src dst : Nat} :
    s.drops nodes src dst = true ↔
      ∃ rule, makeP2pBlockRule nodes src dst = .ok rule ∧
        s.tables.networkBlockRulePresent rule = true := by
  unfold drops
  cases hrule : makeP2pBlockRule nodes src dst with
  | error e => exact ⟨nofun, fun ⟨_, h, _⟩ => nomatch h⟩
  | ok rule =>
    refine ⟨fun h => ⟨rule, rfl, h⟩, ?_⟩
    rintro ⟨_, h, hpresent⟩
    cases h
    exact hpresent

/-- Every rule of an active partition is in force. -/
def PartitionedNetwork.InForce (nodes : List NodeRuntime) (s : PartitionedNetwork) : Prop :=
  ∀ key p, (key, p) ∈ s.activePartitions → ∀ src dst, (src, dst) ∈ p.pairs →
    s.drops nodes src dst = true

/-- The address that a rule drops traffic from belongs to one node. -/
theorem source_of_filter {src src' dst : Nat} {rule rule' : NetworkBlockRule}
    (haddresses : (nodeAddresses nodes).Nodup) (h : makeP2pBlockRule nodes src dst = .ok rule)
    (h' : makeP2pBlockRule nodes src' dst = .ok rule') (hfilter : rule.filter = rule'.filter) :
    src = src' := by
  obtain ⟨-, hsource⟩ := makeP2pBlockRule_ok h
  obtain ⟨-, hsource'⟩ := makeP2pBlockRule_ok h'
  have haddress : rule.srcAddress = rule'.srcAddress := congrArg DropFilter.srcAddress hfilter
  rw [← haddress] at hsource'
  exact (List.getElem?_inj (List.getElem?_eq_some_iff.mp hsource).1 haddresses).mp
    (hsource.trans hsource'.symm)

theorem partitionMachine_step (h : (partitionMachine nodes).step s call = some t) :
    ∃ rules, Effect nodes s.tables call.partition call.heal t.tables rules ∧
      t.activePartitions =
        rememberActivePartition s.activePartitions call.partition !call.heal := by
  simp only [partitionMachine] at h
  split at h <;> cases h
  rename_i hcall
  have houtcome := applyRuntimeNetworkPartition_outcome nodes s.tables call.partition call.heal
    call.answers
  rw [hcall] at houtcome
  obtain ⟨rules, heffect⟩ := houtcome
  exact ⟨rules, heffect, rfl⟩

theorem step_inForce (haddresses : (nodeAddresses nodes).Nodup)
    (hstep : (partitionMachine nodes).step s call = some t) (halone : s.healsAlone call = true)
    (h : s.InForce nodes) : t.InForce nodes := by
  obtain ⟨rules, heffect, hactive⟩ := partitionMachine_step hstep
  have hplanned := partitionBlockRules_spec call.partition nodes
  rw [heffect.planned] at hplanned
  obtain ⟨hfrom, hto⟩ := hplanned
  have hkept : ∀ key p, (key, p) ∈ s.activePartitions →
      (call.heal = true → p.sharesPair call.partition = false) →
      ∀ src dst, (src, dst) ∈ p.pairs → t.drops nodes src dst = true := by
    intro key p hp hshares src dst hpair
    obtain ⟨rule, hrule, hpresent⟩ := PartitionedNetwork.drops_iff.mp (h key p hp src dst hpair)
    refine PartitionedNetwork.drops_iff.mpr ⟨rule, hrule, heffect.present hpresent ?_⟩
    intro hheal r hr hnode hfilter
    obtain ⟨⟨src', dst'⟩, hpair', hr'⟩ := hto r hr
    dsimp only at hr'
    have hdst : dst' = dst := by
      rw [← (makeP2pBlockRule_ok hr').1, hnode, (makeP2pBlockRule_ok hrule).1]
    subst hdst
    have hsrc := source_of_filter haddresses hr' hrule hfilter
    subst hsrc
    have hshared : p.sharesPair call.partition = true :=
      any_eq_true.mpr ⟨_, hpair, contains_iff_mem.mpr hpair'⟩
    rw [hshares hheal] at hshared
    cases hshared
  intro key p hp src dst hpair
  rw [hactive, rememberActivePartition] at hp
  split at hp
  · rename_i hnotHeal
    have hheal : call.heal = false := by simpa using hnotHeal
    rcases mem_cons.mp hp with hnew | hold
    · obtain ⟨-, rfl⟩ := Prod.mk.inj hnew
      obtain ⟨rule, hmem, hrule⟩ := hfrom (src, dst) hpair
      have htouched := heffect.touched rule hmem
      rw [hheal] at htouched
      exact PartitionedNetwork.drops_iff.mpr ⟨rule, hrule, FilterTables.present_iff.mpr htouched⟩
    · refine hkept key p (mem_filter.mp hold).1 ?_ src dst hpair
      intro htrue
      rw [hheal] at htrue
      cases htrue
  · obtain ⟨hmem, hkey⟩ := mem_filter.mp hp
    refine hkept key p hmem ?_ src dst hpair
    intro hheal
    simp only [PartitionedNetwork.healsAlone, hheal, Bool.not_true, Bool.false_or,
      all_eq_true, Bool.or_eq_true, beq_iff_eq, Bool.not_eq_true'] at halone
    exact (halone (key, p) hmem).resolve_left (by simpa using hkey)

end Invariant

section Results

/-- The first node against the others. -/
def firstAlone : NetworkPartitionRule := ⟨[0], [1, 2], by decide, by decide, by decide⟩

/-- A partition that is inside another one is applied and healed. -/
def overlappingCalls : List PartitionCall :=
  [⟨firstAlone, false, {}⟩, ⟨firstAgainstSecond, false, {}⟩, ⟨firstAgainstSecond, true, {}⟩]

/-- The outer partition is still active and has lost both rules of the inner one. -/
theorem overlapping_heal_opens_partition :
    ∃ s, (partitionMachine threeNodes).run {} overlappingCalls = some s ∧
      (partitionKey firstAlone, firstAlone) ∈ s.activePartitions ∧
      s.drops threeNodes 0 1 = false ∧ s.drops threeNodes 1 0 = false := by
  obtain ⟨s, hrun, hs⟩ := (partitionMachine threeNodes).run_of_any {} overlappingCalls
    (fun s => decide ((partitionKey firstAlone, firstAlone) ∈ s.activePartitions ∧
      s.drops threeNodes 0 1 = false ∧ s.drops threeNodes 1 0 = false))
    (by decide +kernel)
  exact ⟨s, hrun, of_decide_eq_true hs⟩

/--
In a run of successful calls on nodes with different addresses, whose heals share no
pair with another active partition, both rules of every pair that an active partition
separates are present.
-/
theorem active_partition_stays_applied
    {nodes : List NodeRuntime} {tables : FilterTables} {calls : List PartitionCall}
    {s : PartitionedNetwork} {key : String} {p : NetworkPartitionRule} {a b : Nat}
    (haddresses : (nodeAddresses nodes).Nodup)
    (hrun : (partitionMachine nodes).run { tables } calls = some s)
    (hmeets : (partitionMachine nodes).Meets
      (fun s call => s.healsAlone call = true) { tables } calls)
    (hactive : (key, p) ∈ s.activePartitions) (ha : a ∈ p.groupA) (hb : b ∈ p.groupB) :
    s.drops nodes a b = true ∧ s.drops nodes b a = true := by
  have h : s.InForce nodes :=
    (partitionMachine nodes).meets_preserves
      (fun _ _ _ hstep halone h => step_inForce haddresses hstep halone h)
      hmeets hrun (fun _ _ hnone => nomatch hnone)
  obtain ⟨hforth, hback⟩ := mem_pairs ha hb
  exact ⟨h key p hactive a b hforth, h key p hactive b a hback⟩

/-- The first node against the third one. -/
def firstAgainstThird : NetworkPartitionRule := ⟨[0], [2], by decide, by decide, by decide⟩

/-- A partition is applied, and another one is applied and healed beside it. -/
def disjointCalls : List PartitionCall :=
  [⟨firstAgainstThird, false, {}⟩, ⟨firstAgainstSecond, false, {}⟩, ⟨firstAgainstSecond, true, {}⟩]

theorem disjoint_heal_keeps_partition :
    ∃ s, (partitionMachine threeNodes).run {} disjointCalls = some s ∧
      s.drops threeNodes 0 2 = true ∧ s.drops threeNodes 2 0 = true := by
  obtain ⟨s, hrun, hs⟩ := (partitionMachine threeNodes).run_of_any {} disjointCalls (fun s => decide
      ((partitionKey firstAgainstThird, firstAgainstThird) ∈ s.activePartitions))
    (by decide +kernel)
  exact ⟨s, hrun, active_partition_stays_applied (by decide +kernel) hrun
    (by decide +kernel) (of_decide_eq_true hs) List.mem_cons_self List.mem_cons_self⟩

end Results

end Bbp.Simulator
