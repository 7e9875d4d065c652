import Bbp.Library.Transition
import Bbp.Library.Stores

/-!
# Live instrumentation windows

An instrumentation window replaces the perf counter configuration of its nodes and puts
the earlier configurations back when it ends.  While it is active it can be moved to other
nodes.  Every replacement is a transaction that can fail at each counter attachment or be
stopped in between, and then swaps back what it has replaced.

The record of a window keeps the configurations to restore in `baselineConfigurations`.
Commands that set perf counters are refused for its keys only.  Next to the nodes the
model runs a second inventory that sees nothing but the commands that were let through.
The two agree whenever no window is active (`windows_are_transparent`).

All operations here hold the node mutation lock from their checks to their last effect,
so each of them is one step.
-/

namespace Bbp.Simulator

open Library List

section Counters

inductive PerfCounterKind where
  | cycles
  | instructions
  | cacheReferences
  | cacheMisses
  | branchInstructions
  | branchMisses
  | contextSwitches
  | pageFaults
  | taskClock
deriving DecidableEq

inductive PerfCounterTargetKind where
  | node
  | wallet
  | group
  | cgroup
deriving DecidableEq

structure PerfCounterTarget where
  kind : PerfCounterTargetKind
  id : String
  nodeIds : List String

/-- The perf counter configuration of a node. -/
structure NodePerfCounters where
  kinds : List PerfCounterKind
  targetKind : PerfCounterTargetKind
  targetId : String
deriving DecidableEq

/-- Configurations of nodes by the identifier of the node. -/
abbrev PerfCounterMap := List (String × NodePerfCounters)

structure NodePerfCounterAssignment where
  nodeId : String
  counters : NodePerfCounters
  requireRunning : Bool

/-- Two maps that hold the same configurations. -/
def SameCounters (xs ys : PerfCounterMap) : Prop := ∀ k, xs.lookup k = ys.lookup k

end Counters

section Transactions

/-- What happens while one node is replaced. -/
structure ReplacementInput where
  stopRequested : Bool := false
  /-- The attachment, or the reset of a node that does not run. -/
  attached : Except String Unit := .ok ()

/-- What happens in a transaction. -/
structure TransactionInput where
  running : String → Bool := fun _ => true
  ownsCgroup : String → Bool := fun _ => true
  stopped : Bool := false
  replacements : List ReplacementInput := []
  stoppedAfter : Bool := false

/-- The call gets a stop token that is never triggered. -/
def TransactionInput.unstoppable (input : TransactionInput) : TransactionInput :=
  { input with
    stopped := false, stoppedAfter := false
    replacements := input.replacements.map ({ · with stopRequested := false }) }

/-- The snapshots are swapped back, the last one first. -/
def rollBackNodePerfCounterSnapshots (nodes snapshots : PerfCounterMap) : PerfCounterMap :=
  snapshots.foldr (fun snapshot nodes => assignKey snapshot.1 snapshot.2 nodes) nodes

/-- The checks before anything is replaced. -/
def validateAssignments (nodes : PerfCounterMap) (input : TransactionInput) :
    List String → List NodePerfCounterAssignment → Except String Unit
  | _, [] => .ok ()
  | unique, a :: rest =>
    if nodes.lookup a.nodeId = none ∨ a.counters.targetId = "" ∨
        a.counters.kinds = [] ∨ a.nodeId ∈ unique then
      .error "perf counter transaction contains an invalid or duplicate node"
    else if ¬ a.counters.kinds.Nodup then
      .error "perf counter transaction contains duplicate counters"
    else if a.requireRunning ∧ ¬ input.running a.nodeId then
      .error ("perf counter target node is not running: " ++ a.nodeId)
    else if (a.counters.targetKind = .group ∨ a.counters.targetKind = .cgroup) ∧
        ¬ input.ownsCgroup a.nodeId then
      .error ("perf counter target node has no owned cgroup: " ++ a.nodeId)
    else validateAssignments nodes input (a.nodeId :: unique) rest

/-- The nodes are replaced one after the other. -/
def replaceEach :
    List NodePerfCounterAssignment → List ReplacementInput → PerfCounterMap →
      PerfCounterMap → PerfCounterMap × Except String PerfCounterMap
  | [], _, nodes, snapshots => (nodes, .ok snapshots)
  | a :: rest, inputs, nodes, snapshots =>
    let input := inputs.head?.getD {}
    if input.stopRequested then
      (rollBackNodePerfCounterSnapshots nodes snapshots, .error "simulation cancelled")
    else
      match nodes.lookup a.nodeId with
      | none => (rollBackNodePerfCounterSnapshots nodes snapshots, .error "unknown node")
      | some previous =>
        let replaced := assignKey a.nodeId a.counters nodes
        let taken := snapshots ++ [(a.nodeId, previous)]
        match input.attached with
        | .error message => (rollBackNodePerfCounterSnapshots replaced taken, .error message)
        | .ok () => replaceEach rest inputs.tail replaced taken

/-- All nodes are replaced, or none. -/
def replaceNodePerfCountersTransactional
    (nodes : PerfCounterMap) (assignments : List NodePerfCounterAssignment)
    (input : TransactionInput) : PerfCounterMap × Except String PerfCounterMap :=
  if assignments = [] then (nodes, .error "perf counter transaction requires at least one node")
  else
    match validateAssignments nodes input [] assignments with
    | .error message => (nodes, .error message)
    | .ok () =>
      if input.stopped then (nodes, .error "simulation cancelled")
      else
        match replaceEach assignments input.replacements nodes [] with
        | (replaced, .error message) => (replaced, .error message)
        | (replaced, .ok snapshots) =>
          if input.stoppedAfter then
            (rollBackNodePerfCounterSnapshots replaced snapshots, .error "simulation cancelled")
          else (replaced, .ok snapshots)

end Transactions

section Commands

/-- A command that sets perf counters. -/
structure PerfCounterCommand where
  nodeId : String
  target : PerfCounterTarget
  kinds : List PerfCounterKind

/-- The target nodes of a command. -/
def validateCommandNodes (nodes : PerfCounterMap) (input : TransactionInput)
    (kind : PerfCounterTargetKind) : List String → List String → Except String Unit
  | _, [] => .ok ()
  | unique, nodeId :: rest =>
    if nodeId = "" ∨ nodeId ∈ unique then
      .error "perf counter target contains an empty or duplicate node id"
    else if nodes.lookup nodeId = none then
      .error ("perf counter target references unknown node: " ++ nodeId)
    else if ¬ input.running nodeId then
      .error ("perf counter target node is not running: " ++ nodeId)
    else if (kind = .group ∨ kind = .cgroup) ∧ ¬ input.ownsCgroup nodeId then
      .error ("perf counter target node has no owned cgroup: " ++ nodeId)
    else validateCommandNodes nodes input kind (nodeId :: unique) rest

/-- The shape of a command; `walletId` says whether the target is a wallet's. -/
def validateCommand (command : PerfCounterCommand) (walletId : String → Bool) :
    Except String Unit :=
  let target := command.target
  if target.id = "" then .error "perf counter target id must not be empty"
  else if target.nodeIds = [] then .error "perf counter target must resolve to a node"
  else if command.kinds = [] then .error "perf counter selection must not be empty"
  else if ¬ command.kinds.Nodup then .error "perf counter selection contains duplicates"
  else if target.kind = .group then
    if command.nodeId ≠ "sim" then .error "group perf counter command must target sim"
    else .ok ()
  else if target.nodeIds ≠ [command.nodeId] then
    .error "non-group perf counter command must target its resolved node"
  else if (target.kind = .node ∨ target.kind = .cgroup) ∧ target.id ≠ command.nodeId then
    .error "node and cgroup perf target ids must equal their resolved node"
  else if target.kind = .wallet ∧ ¬ walletId target.id then
    .error "wallet perf target id must be wallet-<positive-index>"
  else .ok ()

/-- What a command assigns to its nodes. -/
def PerfCounterCommand.assignments (command : PerfCounterCommand) :
    List NodePerfCounterAssignment :=
  command.target.nodeIds.map fun nodeId =>
    { nodeId
      counters :=
        { kinds := command.kinds, targetKind := command.target.kind
          targetId := command.target.id }
      requireRunning := true }

def applyPerfCounterCommand
    (nodes : PerfCounterMap) (command : PerfCounterCommand) (walletId : String → Bool)
    (input : TransactionInput) : PerfCounterMap :=
  match validateCommand command walletId with
  | .error _ => nodes
  | .ok () =>
    match validateCommandNodes nodes input command.target.kind [] command.target.nodeIds with
    | .error _ => nodes
    | .ok () => (replaceNodePerfCountersTransactional nodes command.assignments input.unstoppable).1

end Commands

section Controller

inductive LiveInstrumentationState where
  | running
  | failed
deriving DecidableEq

/-- The record of the active window. -/
structure LiveInstrumentationRecord where
  id : String
  targets : List PerfCounterTarget
  counters : List PerfCounterKind
  hasDeadline : Bool
  configurationRevision : Nat := 1
  state : LiveInstrumentationState := .running
  baselineConfigurations : PerfCounterMap

/-- The registry and the nodes. -/
structure InstrumentationSystem where
  nodes : PerfCounterMap
  active : Option LiveInstrumentationRecord := none
  records : List String := []
  retainedConfigurationRevisions : Nat := 0
  /-- The nodes as the commands alone would have left them. -/
  plain : PerfCounterMap

/-- The nodes of some targets, one entry for each mention. -/
def targetNodeIds (targets : List PerfCounterTarget) : List String :=
  targets.flatMap PerfCounterTarget.nodeIds

/-- The configuration of every target node. -/
def liveInstrumentationConfigurations
    (targets : List PerfCounterTarget) (counters : List PerfCounterKind) :
    Except String PerfCounterMap :=
  if (targetNodeIds targets).Nodup then
    .ok (targets.flatMap fun target =>
      target.nodeIds.map fun nodeId =>
        (nodeId,
          { kinds := counters, targetKind := target.kind, targetId := target.id }))
  else .error "instrumentation targets resolve the same node more than once"

def resolvePerfCounterAssignments (configurations : PerfCounterMap)
    (requireRunning : Bool) : List NodePerfCounterAssignment :=
  configurations.map fun (nodeId, counters) => { nodeId, counters, requireRunning }

/-- What happens while a window is started. -/
structure StartInput where
  /-- The persistence, the lock, the mapping check or anything else before the change. -/
  prepared : Except String Unit := .ok ()
  transaction : TransactionInput := {}
  captured : Except String Unit := .ok ()
  stopped : Bool := false
  worker : Except String Unit := .ok ()

/-- What happens while a window is moved. -/
structure ReconfigureInput where
  prepared : Except String Unit := .ok ()
  deadlineReached : Bool := false
  transaction : TransactionInput := {}
  stopped : Bool := false
  deadlineReachedAfter : Bool := false
  restoration : TransactionInput := {}

namespace InstrumentationSystem

/-- Why no window can be started. -/
def startFailure (s : InstrumentationSystem) (id : String) : Option String :=
  if s.active.isSome then some "only one instrumentation window may be active per run"
  else if 256 ≤ s.retainedConfigurationRevisions then
    some "instrumentation configuration history reached its bounded run capacity"
  else if 256 ≤ s.records.length then
    some "instrumentation history reached its bounded run capacity"
  else if id ∈ s.records then some ("instrumentation_id is already retained: " ++ id)
  else none

/-- The window is published, unless something fails after the change. -/
def publish (s : InstrumentationSystem) (record : LiveInstrumentationRecord)
    (replaced : PerfCounterMap) (input : StartInput) : InstrumentationSystem :=
  match input.captured, input.stopped, input.worker with
  | .ok (), false, .ok () =>
    { s with
      nodes := replaced, active := some record
      records := record.id :: s.records
      retainedConfigurationRevisions := s.retainedConfigurationRevisions + 1 }
  | _, _, _ =>
    { s with
      nodes := rollBackNodePerfCounterSnapshots replaced record.baselineConfigurations }

def start (s : InstrumentationSystem) (id : String) (targets : List PerfCounterTarget)
    (counters : List PerfCounterKind) (hasDeadline : Bool) (input : StartInput) :
    InstrumentationSystem :=
  match s.startFailure id, input.prepared, liveInstrumentationConfigurations targets counters with
  | none, .ok (), .ok configurations =>
    match replaceNodePerfCountersTransactional s.nodes
        (resolvePerfCounterAssignments configurations true) input.transaction with
    | (nodes, .error _) => { s with nodes }
    | (nodes, .ok snapshots) =>
      s.publish
        { id, targets, counters, hasDeadline, baselineConfigurations := snapshots }
        nodes input
  | _, _, _ => s

/-- The replacement that restores the baseline. -/
def restoreBaseline (s : InstrumentationSystem) (record : LiveInstrumentationRecord)
    (input : TransactionInput) : PerfCounterMap × Except String PerfCounterMap :=
  replaceNodePerfCountersTransactional s.nodes
    (resolvePerfCounterAssignments record.baselineConfigurations false)
    input.unstoppable

/-- The window ends, or stays as failed when its baseline cannot be restored. -/
def complete (s : InstrumentationSystem) (record : LiveInstrumentationRecord)
    (input : TransactionInput) : InstrumentationSystem :=
  match s.restoreBaseline record input with
  | (nodes, .ok _) => { s with nodes, active := none }
  | (nodes, .error _) => { s with nodes, active := some { record with state := .failed } }

/-- The baseline configurations of the nodes that leave the window. -/
def leavingAssignments (baseline : PerfCounterMap) (next : List String) :
    List String → Except String (List NodePerfCounterAssignment)
  | [] => .ok []
  | nodeId :: rest =>
    if nodeId ∈ next then leavingAssignments baseline next rest
    else
      match baseline.lookup nodeId with
      | none => .error "instrumentation baseline is missing an active node"
      | some counters =>
        match leavingAssignments baseline next rest with
        | .error message => .error message
        | .ok leaving => .ok ({ nodeId, counters, requireRunning := false } :: leaving)

/-- The baseline without the nodes that leave, and with those that enter. -/
def nextBaseline (baseline snapshots : PerfCounterMap) (prior next : List String) :
    PerfCounterMap :=
  baseline.filter (fun entry => ¬ (entry.1 ∈ prior ∧ entry.1 ∉ next)) ++
    snapshots.filter (fun entry => entry.1 ∉ prior)

/-- Why an active window cannot be moved. -/
def reconfigureFailure (s : InstrumentationSystem) (record : LiveInstrumentationRecord) :
    Option String :=
  if record.state ≠ .running then
    some ("terminal instrumentation cannot be reconfigured: " ++ record.id)
  else if 256 ≤ s.retainedConfigurationRevisions ∨ 256 ≤ record.configurationRevision then
    some "instrumentation configuration history reached its bounded run capacity"
  else none

/-- The change of a reconfiguration is kept, undone or too late. -/
def commit (s : InstrumentationSystem) (record : LiveInstrumentationRecord)
    (targets : List PerfCounterTarget) (counters : List PerfCounterKind)
    (replaced snapshots : PerfCounterMap) (input : ReconfigureInput) : InstrumentationSystem :=
  let undone : InstrumentationSystem :=
    { s with nodes := rollBackNodePerfCounterSnapshots replaced snapshots }
  if input.stopped then undone
  else if record.hasDeadline ∧ input.deadlineReachedAfter then
    undone.complete record input.restoration
  else
    { s with
      nodes := replaced
      active := some
        { record with
          targets, counters
          baselineConfigurations := nextBaseline record.baselineConfigurations snapshots
            (targetNodeIds record.targets) (targetNodeIds targets)
          configurationRevision := record.configurationRevision + 1 }
      retainedConfigurationRevisions := s.retainedConfigurationRevisions + 1 }

/-- The nodes of an active window are changed. -/
def moveWindow (s : InstrumentationSystem) (record : LiveInstrumentationRecord)
    (targets : List PerfCounterTarget) (counters : List PerfCounterKind)
    (input : ReconfigureInput) : InstrumentationSystem :=
  match liveInstrumentationConfigurations targets counters,
      leavingAssignments record.baselineConfigurations (targetNodeIds targets)
        (targetNodeIds record.targets) with
  | .ok configurations, .ok leaving =>
    match replaceNodePerfCountersTransactional s.nodes
        (resolvePerfCounterAssignments configurations true ++ leaving)
        input.transaction with
    | (nodes, .error _) => { s with nodes }
    | (nodes, .ok snapshots) => s.commit record targets counters nodes snapshots input
  | _, _ => s

def reconfigure (s : InstrumentationSystem) (id : String)
    (targets : List PerfCounterTarget) (counters : List PerfCounterKind)
    (input : ReconfigureInput) : InstrumentationSystem :=
  match s.active, input.prepared with
  | some record, .ok () =>
    if record.id ≠ id then s
    else if record.state = .running ∧ record.hasDeadline ∧ input.deadlineReached then
      s.complete record input.restoration
    else
      match s.reconfigureFailure record with
      | some _ => s
      | none => s.moveWindow record targets counters input
  | _, _ => s

/-- The window with this identifier ends at a request. -/
def stop (s : InstrumentationSystem) (id : String) (prepared : Except String Unit)
    (input : TransactionInput) : InstrumentationSystem :=
  match s.active, prepared with
  | some record, .ok () => if record.id = id then s.complete record input else s
  | _, _ => s

/-- The worker finds that the time of the window is over. -/
def expire (s : InstrumentationSystem) (input : TransactionInput) : InstrumentationSystem :=
  match s.active with
  | some record =>
    if record.state = .running ∧ record.hasDeadline then s.complete record input else s
  | none => s

/-- A round of the worker fails. -/
def failSampling (s : InstrumentationSystem) (input : TransactionInput) : InstrumentationSystem :=
  match s.active with
  | some record => if record.state = .running then s.complete record input else s
  | none => s

def liveInstrumentationCommandConflicts (s : InstrumentationSystem)
    (command : PerfCounterCommand) : Bool :=
  match s.active with
  | none => false
  | some record =>
    command.target.nodeIds.any fun nodeId => (record.baselineConfigurations.lookup nodeId).isSome

/-- A command is refused, or applied to the nodes and to the second inventory. -/
def command (s : InstrumentationSystem) (command : PerfCounterCommand)
    (walletId : String → Bool) (input : TransactionInput) : InstrumentationSystem :=
  if s.liveInstrumentationCommandConflicts command then s
  else
    { s with
      nodes := applyPerfCounterCommand s.nodes command walletId input
      plain := applyPerfCounterCommand s.plain command walletId input }

end InstrumentationSystem

/-- An operation on the windows, what their worker does, or a command. -/
inductive InstrumentationAction where
  | start (id : String) (targets : List PerfCounterTarget)
      (counters : List PerfCounterKind) (hasDeadline : Bool) (input : StartInput)
  | reconfigure (id : String) (targets : List PerfCounterTarget)
      (counters : List PerfCounterKind) (input : ReconfigureInput)
  | stop (id : String) (prepared : Except String Unit) (input : TransactionInput)
  | expire (input : TransactionInput)
  | failSampling (input : TransactionInput)
  | command (command : PerfCounterCommand) (walletId : String → Bool)
      (input : TransactionInput)

namespace InstrumentationSystem

def step (s : InstrumentationSystem) : InstrumentationAction → InstrumentationSystem
  | .start id targets counters hasDeadline input => s.start id targets counters hasDeadline input
  | .reconfigure id targets counters input => s.reconfigure id targets counters input
  | .stop id prepared input => s.stop id prepared input
  | .expire input => s.expire input
  | .failSampling input => s.failSampling input
  | .command command walletId input => s.command command walletId input

/-- No window is active yet. -/
def initial (nodes : PerfCounterMap) : InstrumentationSystem := { nodes, plain := nodes }

end InstrumentationSystem

/-- The instrumentation controller and the commands. -/
def instrumentationMachine : Machine InstrumentationSystem InstrumentationAction where
  step s a := some (s.step a)

end Controller

section Transactions

variable {nodes base plain out xs ys snapshots : PerfCounterMap}
  {assignments : List NodePerfCounterAssignment} {inputs : List ReplacementInput}
  {input : TransactionInput}

theorem SameCounters.refl (xs : PerfCounterMap) : SameCounters xs xs := fun _ => rfl

theorem SameCounters.assign (h : SameCounters xs ys) (k : String) (c : NodePerfCounters) :
    SameCounters (assignKey k c xs) (assignKey k c ys) := by
  intro j
  rw [lookup_assignKey, lookup_assignKey, h j]

theorem SameCounters.rollBack (h : SameCounters xs ys) (snapshots : PerfCounterMap) :
    SameCounters (rollBackNodePerfCounterSnapshots xs snapshots)
      (rollBackNodePerfCounterSnapshots ys snapshots) := by
  induction snapshots with
  | nil => exact h
  | cons snapshot rest ih => exact ih.assign snapshot.1 snapshot.2

/-- Swapping a node twice leaves it as it was. -/
theorem rollBack_taken {k : String} {c previous : NodePerfCounters}
    (h : nodes.lookup k = some previous) (snapshots : PerfCounterMap) :
    SameCounters
      (rollBackNodePerfCounterSnapshots (assignKey k c nodes)
        (snapshots ++ [(k, previous)]))
      (rollBackNodePerfCounterSnapshots nodes snapshots) := by
  have hswapped : SameCounters (assignKey k previous (assignKey k c nodes)) nodes := by
    intro j
    rw [lookup_assignKey, lookup_assignKey]
    by_cases hj : j = k
    · rw [if_pos hj, hj, h]
    · rw [if_neg hj, if_neg hj]
  have hrest := hswapped.rollBack snapshots
  unfold rollBackNodePerfCounterSnapshots at hrest ⊢
  rw [foldr_append]
  exact hrest

/-- What the assignments say about each node. -/
def assignedCounters (assignments : List NodePerfCounterAssignment) : PerfCounterMap :=
  assignments.map fun a => (a.nodeId, a.counters)

/-- The nodes of the assignments. -/
def assignedNodes (assignments : List NodePerfCounterAssignment) : List String :=
  assignments.map NodePerfCounterAssignment.nodeId

theorem keys_assignedCounters (assignments : List NodePerfCounterAssignment) :
    (assignedCounters assignments).map Prod.fst = assignedNodes assignments := by
  unfold assignedCounters assignedNodes
  rw [map_map]
  rfl

/-- A node that is not assigned has no entry. -/
theorem assignedCounters_none {k : String} (h : k ∉ assignedNodes assignments) :
    (assignedCounters assignments).lookup k = none := by
  cases hlookup : (assignedCounters assignments).lookup k with
  | none => rfl
  | some c =>
    refine absurd ?_ h
    rw [← keys_assignedCounters, ← lookup_isSome_iff_mem_keys, hlookup]
    rfl

/-- A replacement that fails leaves every node as it was. -/
theorem replaceEach_error {message : String}
    (hbase : SameCounters (rollBackNodePerfCounterSnapshots nodes snapshots) base)
    (h : replaceEach assignments inputs nodes snapshots = (out, .error message)) :
    SameCounters out base := by
  induction assignments generalizing inputs nodes snapshots with
  | nil => cases h
  | cons a rest ih =>
    simp only [replaceEach] at h
    iterate 2
      split at h
      · cases h
        exact hbase
    rename_i previous hprevious
    have hback := rollBack_taken (c := a.counters) hprevious snapshots
    have hbase' := fun k => (hback k).trans (hbase k)
    split at h
    · cases h
      exact hbase'
    · exact ih hbase' h

/-- What a replacement has done that succeeds. -/
structure Replaced (nodes : PerfCounterMap)
    (assignments : List NodePerfCounterAssignment) (out snapshots : PerfCounterMap) :
    Prop where
  taken : ∀ k, snapshots.lookup k =
    if k ∈ assignedNodes assignments then nodes.lookup k else none
  replaced : ∀ k, out.lookup k = ((assignedCounters assignments).lookup k).or (nodes.lookup k)

theorem Replaced.cons {a : NodePerfCounterAssignment} {previous : NodePerfCounters}
    (h : Replaced (assignKey a.nodeId a.counters nodes) assignments out snapshots)
    (hprevious : nodes.lookup a.nodeId = some previous)
    (hfresh : a.nodeId ∉ assignedNodes assignments) :
    Replaced nodes (a :: assignments) out ((a.nodeId, previous) :: snapshots) := by
  refine ⟨?_, ?_⟩
  · intro k
    rw [lookup_cons]
    by_cases hk : k = a.nodeId
    · subst hk
      have hself : a.nodeId ∈ assignedNodes (a :: assignments) := mem_cons_self ..
      rw [beq_self_eq_true, if_pos hself, hprevious]
    have hmem : k ∈ assignedNodes (a :: assignments) ↔ k ∈ assignedNodes assignments := by
      unfold assignedNodes
      rw [map_cons, mem_cons]
      exact ⟨fun h => h.resolve_left hk, .inr⟩
    rw [beq_eq_false_iff_ne.mpr hk, h.taken k, lookup_assignKey, if_neg hk]
    by_cases hin : k ∈ assignedNodes assignments
    · rw [if_pos hin, if_pos (hmem.mpr hin)]
    · rw [if_neg hin, if_neg (fun h => hin (hmem.mp h))]
  · intro k
    rw [h.replaced k, lookup_assignKey]
    unfold assignedCounters
    rw [map_cons, lookup_cons]
    by_cases hk : k = a.nodeId
    · subst hk
      have hnone := assignedCounters_none hfresh
      unfold assignedCounters at hnone
      rw [hnone, if_pos rfl, beq_self_eq_true]
      rfl
    · rw [if_neg hk, beq_eq_false_iff_ne.mpr hk]

theorem replaceEach_ok {all : PerfCounterMap}
    (hbase : SameCounters (rollBackNodePerfCounterSnapshots nodes snapshots) base)
    (hnodup : (assignedNodes assignments).Nodup)
    (h : replaceEach assignments inputs nodes snapshots = (out, .ok all)) :
    SameCounters (rollBackNodePerfCounterSnapshots out all) base ∧
      ∃ taken, all = snapshots ++ taken ∧ Replaced nodes assignments out taken := by
  induction assignments generalizing inputs nodes snapshots with
  | nil =>
    cases h
    refine ⟨hbase, [], (append_nil _).symm, ?_, ?_⟩
    · intro k
      rfl
    · intro k
      rfl
  | cons a rest ih =>
    obtain ⟨hfresh, hrest⟩ := nodup_cons.mp hnodup
    simp only [replaceEach] at h
    split at h
    · cases h
    split at h
    · cases h
    rename_i previous hprevious
    have hback := rollBack_taken (c := a.counters) hprevious snapshots
    split at h
    · cases h
    obtain ⟨hsame, taken, hall, hreplaced⟩ := ih (fun k => (hback k).trans (hbase k)) hrest h
    refine ⟨hsame, (a.nodeId, previous) :: taken, ?_, hreplaced.cons hprevious hfresh⟩
    rw [hall, append_assoc]
    rfl

/-- The nodes of a transaction that passes the checks are distinct and known. -/
theorem validateAssignments_ok {unique : List String}
    (h : validateAssignments nodes input unique assignments = .ok ()) :
    (assignedNodes assignments).Nodup ∧
      ∀ k ∈ assignedNodes assignments, k ∉ unique ∧ (nodes.lookup k).isSome = true := by
  induction assignments generalizing unique with
  | nil => exact ⟨nodup_nil, fun k hk => by cases hk⟩
  | cons a rest ih =>
    simp only [validateAssignments] at h
    split_ifs at h with hinvalid
    obtain ⟨hnodup, hknown⟩ := ih h
    simp only [not_or] at hinvalid
    refine ⟨nodup_cons.mpr ⟨?_, hnodup⟩, ?_⟩
    · intro hmem
      exact (hknown _ hmem).1 (mem_cons_self ..)
    · intro k hk
      rcases mem_cons.mp hk with rfl | hk
      · exact ⟨hinvalid.2.2.2, Option.isSome_iff_ne_none.mpr hinvalid.1⟩
      · obtain ⟨hunique, hsome⟩ := hknown k hk
        exact ⟨fun hmem => hunique (mem_cons_of_mem _ hmem), hsome⟩

theorem transaction_error {message : String}
    (h : replaceNodePerfCountersTransactional nodes assignments input = (out, .error message)) :
    SameCounters out nodes := by
  unfold replaceNodePerfCountersTransactional at h
  split at h
  · cases h
    exact .refl _
  split at h
  · cases h
    exact .refl _
  rename_i hvalid
  split at h
  · cases h
    exact .refl _
  split at h
  next hreplace =>
    cases h
    exact replaceEach_error (.refl _) hreplace
  rename_i hreplace
  split at h <;> cases h
  exact (replaceEach_ok (.refl _) (validateAssignments_ok hvalid).1 hreplace).1

theorem transaction_ok
    (h : replaceNodePerfCountersTransactional nodes assignments input = (out, .ok snapshots)) :
    Replaced nodes assignments out snapshots ∧
      SameCounters (rollBackNodePerfCounterSnapshots out snapshots) nodes ∧
      (assignedNodes assignments).Nodup ∧
      ∀ k ∈ assignedNodes assignments, (nodes.lookup k).isSome = true := by
  unfold replaceNodePerfCountersTransactional at h
  split at h
  · cases h
  split at h
  · cases h
  rename_i hvalid
  obtain ⟨hnodup, hknown⟩ := validateAssignments_ok hvalid
  split at h
  · cases h
  split at h
  · cases h
  rename_i hreplace
  split at h <;> cases h
  obtain ⟨hsame, taken, hall, hreplaced⟩ := replaceEach_ok (.refl _) hnodup hreplace
  rw [nil_append] at hall
  subst hall
  exact ⟨hreplaced, hsame, hnodup, fun k hk => (hknown k hk).2⟩

end Transactions

section Commands

variable {nodes plain : PerfCounterMap} (input : TransactionInput) (command : PerfCounterCommand)

/-- Two inventories of the same nodes. -/
def SameInventory (nodes plain : PerfCounterMap) : Prop :=
  ∀ k, (nodes.lookup k).isSome = (plain.lookup k).isSome

variable (h : SameInventory nodes plain)

include h

theorem SameInventory.none_iff (k : String) : nodes.lookup k = none ↔ plain.lookup k = none := by
  rw [← Option.isNone_iff_eq_none, ← Option.isNone_iff_eq_none, ← Option.not_isSome,
    ← Option.not_isSome, h k]

theorem SameInventory.assign (k : String) (c : NodePerfCounters) :
    SameInventory (assignKey k c nodes) (assignKey k c plain) := by
  intro j
  rw [lookup_assignKey, lookup_assignKey]
  by_cases hj : j = k
  · rw [if_pos hj, if_pos hj]
  · rw [if_neg hj, if_neg hj, h j]

omit h in
/-- Two calls both throw or both return. -/
theorem both_of_isOk {x y : PerfCounterMap × Except String PerfCounterMap}
    (h : x.2.isOk = y.2.isOk) :
    (∃ out message out' message', x = (out, .error message) ∧ y = (out', .error message')) ∨
      ∃ out taken out' taken', x = (out, .ok taken) ∧ y = (out', .ok taken') := by
  obtain ⟨out, result⟩ := x
  obtain ⟨out', result'⟩ := y
  cases result with
  | error message =>
    cases result' with
    | error message' => exact .inl ⟨out, message, out', message', rfl, rfl⟩
    | ok taken' => cases h
  | ok taken =>
    cases result' with
    | error message' => cases h
    | ok taken' => exact .inr ⟨out, taken, out', taken', rfl, rfl⟩

/-- The checks only ask which nodes there are. -/
theorem SameInventory.validateAssignments (unique : List String)
    (assignments : List NodePerfCounterAssignment) :
    validateAssignments nodes input unique assignments =
      Simulator.validateAssignments plain input unique assignments := by
  induction assignments generalizing unique with
  | nil => rfl
  | cons a rest ih => simp only [Simulator.validateAssignments, h.none_iff a.nodeId, ih]

theorem SameInventory.validateCommandNodes (kind : PerfCounterTargetKind)
    (unique nodeIds : List String) :
    validateCommandNodes nodes input kind unique nodeIds =
      Simulator.validateCommandNodes plain input kind unique nodeIds := by
  induction nodeIds generalizing unique with
  | nil => rfl
  | cons nodeId rest ih => simp only [Simulator.validateCommandNodes, h.none_iff nodeId, ih]

/-- So do the replacements. -/
theorem SameInventory.replaceEach (inputs : List ReplacementInput)
    (assignments : List NodePerfCounterAssignment) (snapshots taken : PerfCounterMap) :
    (replaceEach assignments inputs nodes snapshots).2.isOk =
      (Simulator.replaceEach assignments inputs plain taken).2.isOk := by
  induction assignments generalizing inputs nodes plain snapshots taken with
  | nil => rfl
  | cons a rest ih =>
    simp only [Simulator.replaceEach]
    split
    · rfl
    have hsome := h a.nodeId
    cases hnodes : nodes.lookup a.nodeId with
    | none => rw [(h.none_iff a.nodeId).mp hnodes]
    | some previous =>
      rw [hnodes, Option.isSome_some] at hsome
      obtain ⟨other, hplain⟩ := Option.isSome_iff_exists.mp hsome.symm
      rw [hplain]
      dsimp only
      split
      · rfl
      · exact ih (h.assign a.nodeId a.counters) _ _ _

theorem SameInventory.transaction (assignments : List NodePerfCounterAssignment) :
    (replaceNodePerfCountersTransactional nodes assignments input).2.isOk =
      (replaceNodePerfCountersTransactional plain assignments input).2.isOk := by
  unfold replaceNodePerfCountersTransactional
  rw [h.validateAssignments input [] assignments]
  split
  · rfl
  split
  · rfl
  split
  · rfl
  rcases both_of_isOk (h.replaceEach input.replacements assignments [] []) with
    ⟨out, message, out', message', hleft, hright⟩ | ⟨out, taken, out', taken', hleft, hright⟩
  · rw [hleft, hright]
    rfl
  · rw [hleft, hright]
    dsimp only
    split
    · rfl
    · rfl

/-- A command assigns the same counters in two inventories, or none in either. -/
structure CommandEffect (command : PerfCounterCommand)
    (nodes plain out out' assigned : PerfCounterMap) : Prop where
  within : ∀ k, k ∉ command.target.nodeIds → assigned.lookup k = none
  applied : ∀ k, out.lookup k = (assigned.lookup k).or (nodes.lookup k)
  appliedPlain : ∀ k, out'.lookup k = (assigned.lookup k).or (plain.lookup k)

omit h in
theorem assignedNodes_command :
    assignedNodes command.assignments = command.target.nodeIds := by
  unfold assignedNodes PerfCounterCommand.assignments
  rw [map_map]
  exact map_id _

theorem applyPerfCounterCommand_effect (walletId : String → Bool) (input : TransactionInput) :
    ∃ assigned, CommandEffect command nodes plain
      (applyPerfCounterCommand nodes command walletId input)
      (applyPerfCounterCommand plain command walletId input) assigned := by
  have hrefused : ∀ {out out' : PerfCounterMap}, SameCounters out nodes → SameCounters out' plain →
      ∃ assigned, CommandEffect command nodes plain out out' assigned :=
    fun hsame hsame' => ⟨[], fun _ _ => rfl, hsame, hsame'⟩
  unfold applyPerfCounterCommand
  rw [h.validateCommandNodes input command.target.kind [] command.target.nodeIds]
  iterate 2
    split
    · exact hrefused (.refl _) (.refl _)
  rcases both_of_isOk (h.transaction input.unstoppable command.assignments) with
    ⟨out, message, out', message', hleft, hright⟩ | ⟨out, taken, out', taken', hleft, hright⟩
  · rw [hleft, hright]
    exact hrefused (transaction_error hleft) (transaction_error hright)
  · rw [hleft, hright]
    refine ⟨assignedCounters command.assignments, fun k hk => assignedCounters_none ?_,
      (transaction_ok hleft).1.replaced, (transaction_ok hright).1.replaced⟩
    rwa [assignedNodes_command]

end Commands

section Windows

variable {nodes plain out snapshots : PerfCounterMap} {record : LiveInstrumentationRecord}
  {s : InstrumentationSystem}

/-- The baseline of a window is what the commands alone would have left at its nodes. -/
structure LiveInstrumentationRecord.Covers (record : LiveInstrumentationRecord)
    (nodes plain : PerfCounterMap) : Prop where
  baseline : ∀ k, record.baselineConfigurations.lookup k =
    if k ∈ targetNodeIds record.targets then plain.lookup k else none
  known : ∀ k ∈ targetNodeIds record.targets, (plain.lookup k).isSome = true
  outside : ∀ k, k ∉ targetNodeIds record.targets → nodes.lookup k = plain.lookup k

theorem LiveInstrumentationRecord.Covers.same (h : record.Covers nodes plain)
    (hsame : SameCounters out nodes) : record.Covers out plain :=
  { h with outside := fun k hk => (hsame k).trans (h.outside k hk) }

namespace InstrumentationSystem

/-- What every run keeps in which the restorations succeed. -/
structure Transparent (s : InstrumentationSystem) : Prop where
  inventory : SameInventory s.nodes s.plain
  idle : s.active = none → SameCounters s.nodes s.plain
  window : ∀ record, s.active = some record → record.Covers s.nodes s.plain

theorem initial_transparent (nodes : PerfCounterMap) : (initial nodes).Transparent :=
  ⟨fun _ => rfl, fun _ => .refl _, fun _ he => by cases he⟩

/-- Nothing but the list of the nodes has changed, and that not really. -/
theorem Transparent.same (h : s.Transparent) (hsame : SameCounters nodes s.nodes) :
    Transparent { s with nodes } := by
  refine ⟨?_, ?_, ?_⟩
  · intro k
    show (nodes.lookup k).isSome = (s.plain.lookup k).isSome
    rw [hsame k]
    exact h.inventory k
  · intro hidle k
    exact (hsame k).trans (h.idle hidle k)
  · intro record hactive
    exact (h.window record hactive).same hsame

end InstrumentationSystem

/-- The nodes of the configurations are the nodes of the targets. -/
theorem liveInstrumentationConfigurations_keys
    {targets : List PerfCounterTarget} {counters : List PerfCounterKind}
    {configurations : PerfCounterMap}
    (h : liveInstrumentationConfigurations targets counters = .ok configurations) :
    configurations.map Prod.fst = targetNodeIds targets := by
  unfold liveInstrumentationConfigurations at h
  split at h <;> cases h
  unfold targetNodeIds
  induction targets with
  | nil => rfl
  | cons target rest ih =>
    rename_i hnodup
    have hrest : (targetNodeIds rest).Nodup := by
      unfold targetNodeIds at hnodup ⊢
      rw [flatMap_cons] at hnodup
      exact (nodup_append.mp hnodup).2.1
    have hkeys := ih hrest
    rw [flatMap_cons, flatMap_cons, map_append, hkeys, map_map]
    congr 1
    exact map_id _

theorem assignedCounters_resolve (configurations : PerfCounterMap) (requireRunning : Bool) :
    assignedCounters (resolvePerfCounterAssignments configurations requireRunning) =
      configurations := by
  unfold assignedCounters resolvePerfCounterAssignments
  rw [map_map]
  exact map_id _

theorem assignedNodes_resolve (configurations : PerfCounterMap) (requireRunning : Bool) :
    assignedNodes (resolvePerfCounterAssignments configurations requireRunning) =
      configurations.map Prod.fst := by
  rw [← keys_assignedCounters, assignedCounters_resolve]

/-- A replacement does not change which nodes there are. -/
theorem Replaced.inventory {assignments : List NodePerfCounterAssignment}
    (h : Replaced nodes assignments out snapshots)
    (hknown : ∀ k ∈ assignedNodes assignments, (nodes.lookup k).isSome = true) :
    SameInventory out nodes := by
  intro k
  rw [h.replaced k, Option.isSome_or]
  by_cases hk : k ∈ assignedNodes assignments
  · rw [hknown k hk, Bool.or_true]
  · rw [assignedCounters_none hk]
    rfl

namespace InstrumentationSystem

variable {input : TransactionInput} {configurations : PerfCounterMap}
  {targets : List PerfCounterTarget} {counters : List PerfCounterKind}
  {leaving : List NodePerfCounterAssignment}

variable (h : s.Transparent)

include h

/-- A window that starts covers its nodes. -/
theorem publish_transparent {input : StartInput} (hidle : s.active = none)
    (hkeys : configurations.map Prod.fst = targetNodeIds record.targets)
    (hreplace : Replaced s.nodes (resolvePerfCounterAssignments configurations true) out
      record.baselineConfigurations)
    (hback : SameCounters
      (rollBackNodePerfCounterSnapshots out record.baselineConfigurations) s.nodes)
    (hknown : ∀ k ∈ targetNodeIds record.targets, (s.nodes.lookup k).isSome = true) :
    (s.publish record out input).Transparent := by
  have hsame := h.idle hidle
  unfold publish
  split
  · have hreplaced := hreplace.replaced
    have htaken := hreplace.taken
    rw [assignedCounters_resolve] at hreplaced
    rw [assignedNodes_resolve, hkeys] at htaken
    have hnone : ∀ k, k ∉ targetNodeIds record.targets → configurations.lookup k = none := by
      intro k hk
      rw [← hkeys, ← lookup_isSome_iff_mem_keys] at hk
      exact Option.not_isSome_iff_eq_none.mp hk
    have houtside : ∀ k, k ∉ targetNodeIds record.targets → out.lookup k = s.plain.lookup k := by
      intro k hk
      rw [hreplaced k, hnone k hk, Option.none_or]
      exact hsame k
    refine ⟨?_, nofun, ?_⟩
    · intro k
      refine (hreplace.inventory ?_ k).trans (h.inventory k)
      rw [assignedNodes_resolve, hkeys]
      exact hknown
    · intro record' hactive
      cases hactive
      refine ⟨?_, ?_, houtside⟩
      · intro k
        rw [htaken k, hsame k]
      · intro k hk
        rw [← hsame k]
        exact hknown k hk
  · exact h.same hback

theorem start_transparent {id : String} {hasDeadline : Bool} {input : StartInput} :
    (s.start id targets counters hasDeadline input).Transparent := by
  unfold start
  split
  next configurations hfailure _ hconfigurations =>
    have hidle : s.active = none := by
      unfold startFailure at hfailure
      split_ifs at hfailure with hactive
      exact Option.not_isSome_iff_eq_none.mp hactive
    split
    next hreplace => exact h.same (transaction_error hreplace)
    rename_i snapshots hreplace
    have hkeys := liveInstrumentationConfigurations_keys hconfigurations
    obtain ⟨hreplaced, hback, -, hknown⟩ := transaction_ok hreplace
    rw [assignedNodes_resolve, hkeys] at hknown
    exact publish_transparent h hidle hkeys hreplaced hback hknown
  · exact h

/-- The last restoration has not failed. -/
def restored (s : InstrumentationSystem) : Bool :=
  s.active.all fun record => record.state == .running

omit h in
/-- A window whose baseline is restored leaves no trace. -/
theorem complete_transparent (hcovers : record.Covers s.nodes s.plain)
    (hrestored : (s.complete record input).restored = true) :
    (s.complete record input).Transparent := by
  unfold complete at hrestored ⊢
  split
  next out snapshots hrestore =>
    obtain ⟨hreplaced, -, -, -⟩ := transaction_ok hrestore
    have hsame : SameCounters out s.plain := by
      intro k
      rw [hreplaced.replaced k, assignedCounters_resolve, hcovers.baseline k]
      by_cases hk : k ∈ targetNodeIds record.targets
      · rw [if_pos hk]
        obtain ⟨c, hc⟩ := Option.isSome_iff_exists.mp (hcovers.known k hk)
        rw [hc, Option.some_or]
      · rw [if_neg hk, Option.none_or]
        exact hcovers.outside k hk
    refine ⟨?_, fun _ => hsame, nofun⟩
    intro k
    show (out.lookup k).isSome = (s.plain.lookup k).isSome
    rw [hsame k]
  next hrestore =>
    rw [hrestore] at hrestored
    cases hrestored

omit h in
/-- The nodes that leave a window, with their baselines. -/
theorem leavingAssignments_ok {baseline : PerfCounterMap} {prior next : List String}
    (h : leavingAssignments baseline next prior = .ok leaving) :
    (∀ k, k ∈ assignedNodes leaving ↔ k ∈ prior ∧ k ∉ next) ∧
      ∀ k, (assignedCounters leaving).lookup k =
        if k ∈ prior ∧ k ∉ next then baseline.lookup k else none := by
  induction prior generalizing leaving with
  | nil =>
    cases h
    refine ⟨?_, ?_⟩
    · intro k
      simp [assignedNodes]
    · intro k
      simp [assignedCounters]
  | cons nodeId rest ih =>
    simp only [leavingAssignments] at h
    split at h
    next hstays =>
      obtain ⟨hnodes, hlookup⟩ := ih h
      have hmem : ∀ k, k ∈ nodeId :: rest ∧ k ∉ next ↔ k ∈ rest ∧ k ∉ next := by
        intro k
        rw [mem_cons]
        refine ⟨?_, fun ⟨hin, hnot⟩ => ⟨.inr hin, hnot⟩⟩
        rintro ⟨rfl | hin, hnot⟩
        · exact absurd hstays hnot
        · exact ⟨hin, hnot⟩
      refine ⟨fun k => (hnodes k).trans (hmem k).symm, ?_⟩
      intro k
      rw [hlookup k]
      simp only [hmem k]
    next hleaves =>
      split at h
      · cases h
      rename_i counters hcounters
      split at h <;> cases h
      rename_i others hothers
      obtain ⟨hnodes, hlookup⟩ := ih hothers
      refine ⟨?_, ?_⟩
      · intro k
        show k ∈ nodeId :: assignedNodes others ↔ _
        rw [mem_cons, mem_cons, hnodes k]
        refine ⟨?_, ?_⟩
        · rintro (rfl | ⟨hin, hnot⟩)
          · exact ⟨.inl rfl, hleaves⟩
          · exact ⟨.inr hin, hnot⟩
        · rintro ⟨rfl | hin, hnot⟩
          · exact .inl rfl
          · exact .inr ⟨hin, hnot⟩
      · intro k
        show lookup k ((nodeId, counters) :: assignedCounters others) = _
        rw [lookup_cons]
        by_cases hk : k = nodeId
        · subst hk
          rw [beq_self_eq_true, if_pos ⟨mem_cons_self .., hleaves⟩, hcounters]
        rw [beq_eq_false_iff_ne.mpr hk]
        show (assignedCounters others).lookup k = _
        rw [hlookup k]
        simp only [mem_cons, hk, false_or]

omit h in
theorem moved_covers {revision : Nat} (h : record.Covers nodes plain)
    (hinventory : SameInventory nodes plain)
    (hkeys : configurations.map Prod.fst = targetNodeIds targets)
    (hleaving : leavingAssignments record.baselineConfigurations (targetNodeIds targets)
      (targetNodeIds record.targets) = .ok leaving)
    (hreplace : Replaced nodes
      (resolvePerfCounterAssignments configurations true ++ leaving) out snapshots)
    (hknown : ∀ k ∈ targetNodeIds targets, (nodes.lookup k).isSome = true) :
    LiveInstrumentationRecord.Covers
      { record with
        targets, counters
        baselineConfigurations := nextBaseline record.baselineConfigurations snapshots
          (targetNodeIds record.targets) (targetNodeIds targets)
        configurationRevision := revision } out plain := by
  obtain ⟨hleavingNodes, hleavingCounters⟩ := leavingAssignments_ok hleaving
  have hassigned : ∀ k,
      k ∈ assignedNodes (resolvePerfCounterAssignments configurations true ++ leaving) ↔
        k ∈ targetNodeIds targets ∨
          k ∈ targetNodeIds record.targets ∧ k ∉ targetNodeIds targets := by
    intro k
    have hsplit : assignedNodes (resolvePerfCounterAssignments configurations true ++ leaving) =
          targetNodeIds targets ++ assignedNodes leaving := by
      unfold assignedNodes
      rw [map_append]
      congr 1
      exact (assignedNodes_resolve configurations true).trans hkeys
    rw [hsplit, mem_append, hleavingNodes k]
  have hout : ∀ k, out.lookup k =
      ((configurations.lookup k).or ((assignedCounters leaving).lookup k)).or (nodes.lookup k) := by
    intro k
    have hsplit : assignedCounters (resolvePerfCounterAssignments configurations true ++ leaving) =
          configurations ++ assignedCounters leaving := by
      unfold assignedCounters
      rw [map_append]
      congr 1
      exact assignedCounters_resolve configurations true
    rw [hreplace.replaced k, hsplit, lookup_append]
  refine ⟨?_, ?_, ?_⟩
  · intro k
    show (nextBaseline record.baselineConfigurations snapshots
      (targetNodeIds record.targets) (targetNodeIds targets)).lookup k = _
    unfold nextBaseline
    rw [lookup_append, lookup_filter (p := fun k =>
        ¬ (k ∈ targetNodeIds record.targets ∧ k ∉ targetNodeIds targets)),
      lookup_filter (p := fun k => k ∉ targetNodeIds record.targets),
      h.baseline k, hreplace.taken k]
    by_cases hnext : k ∈ targetNodeIds targets
    · by_cases hprior : k ∈ targetNodeIds record.targets
      · obtain ⟨c, hc⟩ := Option.isSome_iff_exists.mp (h.known k hprior)
        simp [hnext, hprior, hc]
      · simp [hnext, hprior, (hassigned k).mpr (.inl hnext), h.outside k hprior]
    by_cases hprior : k ∈ targetNodeIds record.targets
    · simp [hnext, hprior]
    · have hnot := mt (hassigned k).mp (by simp [hnext, hprior])
      simp [hnext, hprior, hnot]
  · intro k hk
    rw [← hinventory k]
    exact hknown k hk
  · intro k hk
    have hk : k ∉ targetNodeIds targets := hk
    have hnone : configurations.lookup k = none := by
      have hkey := hk
      rw [← hkeys, ← lookup_isSome_iff_mem_keys] at hkey
      exact Option.not_isSome_iff_eq_none.mp hkey
    rw [hout k, hnone, Option.none_or, hleavingCounters k, h.baseline k]
    by_cases hprior : k ∈ targetNodeIds record.targets
    · obtain ⟨c, hc⟩ := Option.isSome_iff_exists.mp (h.known k hprior)
      simp [hk, hprior, hc]
    · simp [hprior, h.outside k hprior]

theorem commit_transparent {input : ReconfigureInput}
    (hactive : s.active = some record) (hkeys : configurations.map Prod.fst = targetNodeIds targets)
    (hleaving : leavingAssignments record.baselineConfigurations (targetNodeIds targets)
      (targetNodeIds record.targets) = .ok leaving)
    (hreplace : replaceNodePerfCountersTransactional s.nodes
      (resolvePerfCounterAssignments configurations true ++ leaving) input.transaction =
        (out, .ok snapshots))
    (hrestored : (s.commit record targets counters out snapshots input).restored = true) :
    (s.commit record targets counters out snapshots input).Transparent := by
  have hcovers := h.window record hactive
  obtain ⟨hreplaced, hback, -, hknown⟩ := transaction_ok hreplace
  have hundone := h.same hback
  unfold commit at hrestored ⊢
  dsimp only at hrestored ⊢
  split
  · exact hundone
  rename_i hstopped
  rw [if_neg hstopped] at hrestored
  split
  next hlate =>
    rw [if_pos hlate] at hrestored
    exact complete_transparent (hcovers.same hback) hrestored
  have hwindow : ∀ k ∈ targetNodeIds targets, (s.nodes.lookup k).isSome = true := by
    intro k hk
    refine hknown k ?_
    unfold assignedNodes
    rw [map_append, mem_append]
    refine .inl ?_
    show k ∈ assignedNodes (resolvePerfCounterAssignments configurations true)
    rw [assignedNodes_resolve, hkeys]
    exact hk
  refine ⟨?_, nofun, ?_⟩
  · intro k
    exact (hreplaced.inventory hknown k).trans (h.inventory k)
  · intro record' he
    cases he
    exact moved_covers hcovers h.inventory hkeys hleaving hreplaced hwindow

theorem reconfigure_transparent {id : String} {input : ReconfigureInput}
    (hrestored : (s.reconfigure id targets counters input).restored = true) :
    (s.reconfigure id targets counters input).Transparent := by
  unfold reconfigure at hrestored ⊢
  split
  next record hactive hprepared =>
    rw [hactive, hprepared] at hrestored
    dsimp only at hrestored
    split
    · exact h
    rename_i hid
    rw [if_neg hid] at hrestored
    split
    next hlate =>
      rw [if_pos hlate] at hrestored
      exact complete_transparent (h.window record hactive) hrestored
    rename_i hlate
    rw [if_neg hlate] at hrestored
    split
    · exact h
    rename_i hfailure
    rw [hfailure] at hrestored
    dsimp only at hrestored
    unfold moveWindow at hrestored ⊢
    split
    next configurations leaving hconfigurations hleaving =>
      rw [hconfigurations, hleaving] at hrestored
      dsimp only at hrestored
      split
      next hreplace => exact h.same (transaction_error hreplace)
      rename_i hreplace
      rw [hreplace] at hrestored
      exact commit_transparent h hactive
        (liveInstrumentationConfigurations_keys hconfigurations) hleaving
        hreplace hrestored
    · exact h
  · exact h

/-- A command that is let through does not touch the nodes of the window. -/
theorem command_transparent {command : PerfCounterCommand} {walletId : String → Bool} :
    (s.command command walletId input).Transparent := by
  unfold InstrumentationSystem.command
  split
  · exact h
  rename_i hconflict
  obtain ⟨assigned, hwithin, hout, hout'⟩ :=
    applyPerfCounterCommand_effect command h.inventory walletId input
  refine ⟨?_, ?_, ?_⟩
  · intro k
    dsimp only
    rw [hout k, hout' k, Option.isSome_or, Option.isSome_or, h.inventory k]
  · intro hidle k
    dsimp only
    rw [hout k, hout' k, h.idle hidle k]
  · intro record hactive
    have hactive : s.active = some record := hactive
    have hcovers := h.window record hactive
    have hkept : ∀ k ∈ targetNodeIds record.targets,
        (applyPerfCounterCommand s.plain command walletId input).lookup k = s.plain.lookup k := by
      intro k hk
      have hapart : assigned.lookup k = none := by
        refine hwithin k fun hmem => hconflict ?_
        simp only [liveInstrumentationCommandConflicts, hactive, any_eq_true]
        refine ⟨k, hmem, ?_⟩
        rw [hcovers.baseline k, if_pos hk]
        exact hcovers.known k hk
      rw [hout' k, hapart, Option.none_or]
    refine ⟨?_, ?_, ?_⟩
    · intro k
      dsimp only
      rw [hcovers.baseline k]
      by_cases hk : k ∈ targetNodeIds record.targets
      · rw [if_pos hk, if_pos hk, hkept k hk]
      · rw [if_neg hk, if_neg hk]
    · intro k hk
      dsimp only
      rw [hkept k hk]
      exact hcovers.known k hk
    · intro k hk
      dsimp only
      rw [hout k, hout' k, hcovers.outside k hk]

theorem step_transparent {a : InstrumentationAction}
    (hrestored : (s.step a).restored = true) : (s.step a).Transparent := by
  cases a with
  | start id targets counters hasDeadline input => exact start_transparent h
  | reconfigure id targets counters input => exact reconfigure_transparent h hrestored
  | stop | expire | failSampling =>
    revert hrestored
    simp only [step, stop, expire, failSampling]
    split
    next record hactive =>
      split
      · exact complete_transparent (h.window record hactive)
      · exact fun _ => h
    · exact fun _ => h
  | command command walletId input => exact command_transparent h

end InstrumentationSystem

end Windows

section Results

/--
In a run in which the restorations succeed, the nodes are configured as the commands that
were let through would have left them whenever no window is active, and the baseline of
an active window has the nodes of its targets as keys.
-/
theorem windows_are_transparent {nodes : PerfCounterMap} {actions : List InstrumentationAction}
    {s : InstrumentationSystem}
    (hrun : instrumentationMachine.run (.initial nodes) actions = some s)
    (hrestored : instrumentationMachine.Meets
      (fun s a => (s.step a).restored = true) (.initial nodes) actions) :
    (s.active = none → ∀ nodeId, s.nodes.lookup nodeId = s.plain.lookup nodeId) ∧
      ∀ record, s.active = some record → ∀ nodeId,
        nodeId ∈ record.baselineConfigurations.map Prod.fst ↔
          nodeId ∈ targetNodeIds record.targets := by
  have h : s.Transparent :=
    instrumentationMachine.meets_preserves (fun s a t hstep hrestored h => by
        cases hstep
        exact InstrumentationSystem.step_transparent h hrestored)
      hrestored hrun (InstrumentationSystem.initial_transparent nodes)
  refine ⟨h.idle, ?_⟩
  intro record hactive nodeId
  have hcovers := h.window record hactive
  rw [← lookup_isSome_iff_mem_keys, hcovers.baseline nodeId]
  by_cases hmem : nodeId ∈ targetNodeIds record.targets
  · rw [if_pos hmem]
    exact ⟨fun _ => hmem, hcovers.known nodeId⟩
  · rw [if_neg hmem]
    exact ⟨nofun, fun hin => absurd hin hmem⟩

/-- A node that measures cycles for itself. -/
def cyclesOf (nodeId : String) : NodePerfCounters :=
  { kinds := [.cycles], targetKind := .node, targetId := nodeId }

/-- A target of one node. -/
def targetOf (nodeId : String) : PerfCounterTarget :=
  { kind := .node, id := nodeId, nodeIds := [nodeId] }

/--
A window on the first node is moved to the second, first without success and then at a
command's heels, and stopped.
-/
def movedWindow : List InstrumentationAction :=
  [.start "w" [targetOf "a"] [.pageFaults] true {}, .reconfigure "w" [targetOf "b"] [.taskClock]
      { transaction := { replacements := [{}, { attached := .error "attach" }] } },
    .command { nodeId := "b", target := targetOf "b", kinds := [.instructions] } (fun _ => true) {},
    .reconfigure "w" [targetOf "b"] [.taskClock] {},
    .stop "w" (.ok ()) {}]

theorem moved_window_is_transparent :
    ∃ s, instrumentationMachine.run
        (.initial [("a", cyclesOf "a"), ("b", cyclesOf "b")]) movedWindow = some s ∧
      s.active.isNone = true ∧ s.nodes.lookup "a" = some (cyclesOf "a") ∧
      s.plain.lookup "b" = some { cyclesOf "b" with kinds := [.instructions] } ∧
      ∀ nodeId, s.nodes.lookup nodeId = s.plain.lookup nodeId := by
  obtain ⟨s, hrun, hs⟩ := instrumentationMachine.run_of_any
    (.initial [("a", cyclesOf "a"), ("b", cyclesOf "b")]) movedWindow
    (fun s => decide (s.active.isNone = true ∧ s.nodes.lookup "a" = some (cyclesOf "a") ∧
      s.plain.lookup "b" = some { cyclesOf "b" with kinds := [.instructions] }))
    (by decide +kernel)
  obtain ⟨hidle, hfirst, hsecond⟩ := of_decide_eq_true hs
  exact ⟨s, hrun, hidle, hfirst, hsecond, (windows_are_transparent hrun (by decide +kernel)).1
      (Option.isNone_iff_eq_none.mp hidle)⟩

end Results

end Bbp.Simulator
