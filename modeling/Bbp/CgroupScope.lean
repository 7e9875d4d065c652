import Bbp.Library.Transition
import Bbp.CgroupScopeState

/-!
# Cgroup scopes

A cgroup scope prepares a cgroup tree for runs: it creates a simulator cgroup below the
root, moves the processes of the root into a controller cgroup, enables controllers, and
creates one cgroup for each run.  When the last run is removed, everything is undone.
What has been done is kept in a state file, which is replaced atomically.

A call of `PrepareRunInScope` or `RemoveRunInScope` holds the scope lock, so there is at
most one call at a time.  Its steps are the places between two system calls.  A step can
fail before or after its effect, and then the call rolls back or ends; and the process
can be killed between any two steps, and then the call is gone.
-/

namespace Bbp.Cgroup

open Library

section Tree

structure CgroupDirectory where
  name : String
  inode : Nat
  processes : List Nat := []
deriving DecidableEq

structure SimulatorCgroup where
  inode : Nat
  controllers : List String := []
  children : List CgroupDirectory := []
deriving DecidableEq

/-- The part of the cgroup tree that a scope touches. -/
structure CgroupTree where
  device : Nat
  mountId : Nat
  rootInode : Nat
  rootControllers : List String
  rootProcesses : List Nat
  simulator : Option SimulatorCgroup
deriving DecidableEq

namespace CgroupTree

def identity (tree : CgroupTree) (inode : Nat) : CgroupDirectoryIdentity :=
  { path := { device := tree.device, inode }, mountId := tree.mountId }

/-- The directories in the simulator cgroup. -/
def children (tree : CgroupTree) : List CgroupDirectory :=
  (tree.simulator.map SimulatorCgroup.children).getD []

def child (tree : CgroupTree) (name : String) : Option CgroupDirectory :=
  tree.children.find? (·.name == name)

def hasChild (tree : CgroupTree) (name : String) : Bool := (tree.child name).isSome

/-- An inode number that the kernel can give to a new directory. -/
def isFresh (tree : CgroupTree) (inode : Nat) : Bool :=
  inode != 0 && decide (inode < 2 ^ 64) && inode != tree.rootInode &&
    (tree.simulator.all fun simulator => inode != simulator.inode) &&
    tree.children.all fun directory => inode != directory.inode

/-- A new directory in the simulator cgroup. -/
def makeChild (tree : CgroupTree) (name : String) (inode : Nat) : CgroupTree :=
  { tree with
    simulator := tree.simulator.map fun simulator =>
      { simulator with children := simulator.children ++ [{ name, inode }] } }

def removeChild (tree : CgroupTree) (name : String) : CgroupTree :=
  { tree with
    simulator := tree.simulator.map fun simulator =>
      { simulator with children := simulator.children.filter (·.name != name) } }

def makeSimulator (tree : CgroupTree) (inode : Nat) : CgroupTree :=
  { tree with simulator := some { inode } }

/-- Controllers are enabled for the children of the simulator cgroup. -/
def addSimulatorControllers (tree : CgroupTree) (controllers : List String) : CgroupTree :=
  { tree with
    simulator := tree.simulator.map fun simulator =>
      { simulator with
        controllers := simulator.controllers ++ controllers.filter (· ∉ simulator.controllers) } }

def dropSimulatorControllers (tree : CgroupTree) (controllers : List String) : CgroupTree :=
  { tree with
    simulator := tree.simulator.map fun simulator =>
      { simulator with controllers := simulator.controllers.filter (· ∉ controllers) } }

def addRootControllers (tree : CgroupTree) (controllers : List String) : CgroupTree :=
  { tree with
    rootControllers := tree.rootControllers ++ controllers.filter (· ∉ tree.rootControllers) }

def dropRootControllers (tree : CgroupTree) (controllers : List String) : CgroupTree :=
  { tree with rootControllers := tree.rootControllers.filter (· ∉ controllers) }

/-- The processes of the root are moved into a directory of the simulator cgroup. -/
def delegateProcesses (tree : CgroupTree) (name : String) : CgroupTree :=
  { tree with
    rootProcesses := []
    simulator := tree.simulator.map fun simulator =>
      { simulator with
        children := simulator.children.map fun directory =>
          if directory.name = name then
            { directory with processes := directory.processes ++ tree.rootProcesses }
          else directory } }

/-- And back. -/
def restoreProcesses (tree : CgroupTree) (name : String) : CgroupTree :=
  { tree with
    rootProcesses := tree.rootProcesses ++ ((tree.child name).map CgroupDirectory.processes).getD []
    simulator := tree.simulator.map fun simulator =>
      { simulator with
        children := simulator.children.map fun directory =>
          if directory.name = name then { directory with processes := [] }
          else directory } }

end CgroupTree

/-- The directories are those of the state, as `RequireBoundScopeHierarchy` asks. -/
def hierarchyHolds (tree : CgroupTree) (state : CgroupScopeState) : Bool :=
  decide (state.rootIdentity = some (tree.identity tree.rootInode)) &&
    (state.controllerExpected || state.controllerIdentity.isNone) &&
    match tree.simulator with
    | none => true
    | some simulator =>
      decide (state.simulatorIdentity = some (tree.identity simulator.inode)) &&
        (!state.controllerExpected || (tree.child state.controllerName).all fun directory =>
            decide (state.controllerIdentity = some (tree.identity directory.inode)))

/-- The checks of `BindCgroupScope`. -/
def bindsScope (tree : CgroupTree) (state : CgroupScopeState) : Bool :=
  hierarchyHolds tree state &&
    (tree.simulator.isSome || !(state.simulatorPreexisting || state.inUse ||
      (state.simulatorIdentity.isSome && !state.restorationReady))) &&
    (!state.controllerExpected || tree.simulator.isNone || tree.hasChild state.controllerName ||
      !(state.inUse || (state.controllerIdentity.isSome && !state.restorationReady))) &&
    decide (state.rootControllersAdded =
      managedControllers.filter (· ∉ state.rootControllersBefore)) &&
    decide (state.simulatorControllersAdded =
      managedControllers.filter (· ∉ state.simulatorControllersBefore))

/-- `RequireControllersPreservedAt`, for the root and the simulator cgroup. -/
def controllersPreserved (tree : CgroupTree) (state : CgroupScopeState) : Bool :=
  preserved tree.rootControllers state.rootControllersBefore state.rootControllersAdded &&
    tree.simulator.all fun simulator =>
      preserved simulator.controllers state.simulatorControllersBefore
        state.simulatorControllersAdded
where
  preserved (after before added : List String) : Bool :=
    before.all (· ∈ after) && added.all (· ∉ after)

end Tree

section Calls

/-- Where a restoration of the scope stands. -/
inductive RestorePc where
  | start
  | dropSimulatorControllers
  | dropRootControllers
  | restoreProcesses
  | check
  | writeReady
  | removeController
  | removeSimulator
  | unlink
deriving DecidableEq

/-- Where a call stands. -/
inductive ScopePc where
  /-- `PrepareRunInScope` -/
  | load
  | recover
  | writeRecovered
  | prune
  | writeEmpty
  | new
  | writeNew
  | makeSimulator
  | bindSimulator
  | writeSimulator
  | makeController
  | bindController
  | writeController
  | delegateProcesses
  | addRootControllers
  | addSimulatorControllers
  | attempt
  | writePending
  | makeRun
  | bindRun
  | writeCreated
  | enableControllers
  | writeActive
  | rollBackRun
  | writeRolledBack
  /-- `RemoveRunInScope` -/
  | loadForRemoval
  | removeRun
  | writeRemoved
  /-- Both; after the restoration a preparation may go on with a new scope -/
  | restore (pc : RestorePc) (goesOn : Bool)
deriving DecidableEq

/-- A call in progress and its variables. -/
structure ScopeCall where
  runId : String
  ownership : Option CgroupRunBinding := none
  token : String := ""
  pc : ScopePc
  state : Option CgroupScopeState := none
  attemptedRun : Bool := false
  scopePublished : Bool := false
  createdRun : Bool := false
deriving DecidableEq

structure ScopeSystem where
  tree : CgroupTree
  /-- The state whose document was published last. -/
  stateFile : Option CgroupScopeState := none
  call : Option ScopeCall := none
  /-- The runs whose directories a preparation has made. -/
  created : List String := []
deriving DecidableEq

/-- The state of a scope that has just been found. -/
def newCgroupScopeState (config : CgroupScopeConfig) (tree : CgroupTree)
    (token : String) : CgroupScopeState :=
  let simulatorBefore := (tree.simulator.map SimulatorCgroup.controllers).getD []
  { root := config.root
    simulatorName := config.simulatorName
    controllerName := ownedControllerPrefix ++ token
    simulatorPreexisting := tree.simulator.isSome
    controllerExpected := config.allowRootProcessMove
    rootIdentity := some (tree.identity tree.rootInode)
    simulatorIdentity := tree.simulator.map fun simulator => tree.identity simulator.inode
    rootControllersBefore := tree.rootControllers
    simulatorControllersBefore := simulatorBefore
    rootControllersAdded := managedControllers.filter (· ∉ tree.rootControllers)
    simulatorControllersAdded := managedControllers.filter (· ∉ simulatorBefore)
    activeRuns := (tree.children.map CgroupDirectory.name).filter isResourceCgroupName }

namespace CgroupScopeState

/-- The run is forgotten. -/
def eraseRun (state : CgroupScopeState) (runId : String) : CgroupScopeState :=
  { state with
    activeRuns := state.activeRuns.filter (· ≠ runId)
    runBindings := eraseKey runId state.runBindings }

def clearPending (state : CgroupScopeState) : CgroupScopeState :=
  { state with pendingRun := none, pendingRunCreated := false }

/-- The state without its pending run, after a recovery. -/
def recovered (state : CgroupScopeState) (runId : String) : CgroupScopeState :=
  clearPending { state with runBindings := eraseKey runId state.runBindings }

/-- The state without a run that could not be prepared, or that has been removed. -/
def withoutRun (state : CgroupScopeState) (runId : String) : CgroupScopeState :=
  if state.pendingRun = some runId then (state.eraseRun runId).clearPending
  else state.eraseRun runId

/-- The active runs whose directories are still there. -/
def pruned (state : CgroupScopeState) (tree : CgroupTree) : CgroupScopeState :=
  { state with
    activeRuns := state.activeRuns.filter tree.hasChild
    runBindings := state.runBindings.filter fun entry =>
      decide (entry.1 ∉ state.activeRuns) || tree.hasChild entry.1 }

/-- A directory of a run is the one that its binding names, if there is one. -/
def bindsRun (state : CgroupScopeState) (tree : CgroupTree) (runId : String) : Bool :=
  (tree.child runId).all fun directory =>
    (state.runBindings.lookup runId).all fun binding =>
      binding.cgroupIdentity == (tree.identity directory.inode).path

end CgroupScopeState

/-- A binding is added unless its key is there. -/
def emplace (runId : String) (binding : Option CgroupRunBinding)
    (bindings : List (String × CgroupRunBinding)) : List (String × CgroupRunBinding) :=
  match binding with
  | none => bindings
  | some binding =>
    if (bindings.lookup runId).isSome then bindings
    else bindings ++ [(runId, binding)]

namespace ScopeSystem

variable (s : ScopeSystem)

/-- The call goes on at another place. -/
def goto (c : ScopeCall) (pc : ScopePc) : ScopeSystem := { s with call := some { c with pc } }

def finish : ScopeSystem := { s with call := none }

/-- The state file is replaced. -/
def publish (state : CgroupScopeState) : ScopeSystem := { s with stateFile := some state }

/-- One step of a restoration; `none` is an exception. -/
def restoreStep (c : ScopeCall) (state : CgroupScopeState) (pc : RestorePc)
    (goesOn : Bool) : Option ScopeSystem :=
  let next := fun (s : ScopeSystem) (pc : RestorePc) => some (s.goto c (.restore pc goesOn))
  match pc with
  | .start =>
    if state.inUse ∨ state.runBindings ≠ [] ∨ ¬ hierarchyHolds s.tree state then none
    else if state.restorationReady then next s .removeController
    else next s .dropSimulatorControllers
  | .dropSimulatorControllers =>
    next
      { s with tree := s.tree.dropSimulatorControllers state.simulatorControllersAdded }
      .dropRootControllers
  | .dropRootControllers =>
    next { s with tree := s.tree.dropRootControllers state.rootControllersAdded } .restoreProcesses
  | .restoreProcesses =>
    if state.controllerExpected then
      next { s with tree := s.tree.restoreProcesses state.controllerName } .check
    else next s .check
  | .check =>
    if controllersPreserved s.tree state ∧ (state.simulatorPreexisting ∨
        s.tree.children.all fun directory =>
          state.controllerExpected && directory.name == state.controllerName) then
      some (s.goto { c with state := some { state with restorationReady := true } }
        (.restore .writeReady goesOn))
    else none
  | .writeReady => next (s.publish state) .removeController
  | .removeController =>
    if state.controllerExpected then
      next { s with tree := s.tree.removeChild state.controllerName } .removeSimulator
    else next s .removeSimulator
  | .removeSimulator =>
    if state.simulatorPreexisting then next s .unlink
    else if s.tree.children = [] then
      next { s with tree := { s.tree with simulator := none } } .unlink
    else none
  | .unlink =>
    if controllersPreserved s.tree state ∧
        (state.simulatorPreexisting → s.tree.simulator.isSome) then
      if goesOn then
        some { s with stateFile := none, call := some { c with state := none, pc := .new } }
      else some { s.finish with stateFile := none }
    else none

/-- One step of a call with a state; `none` is an exception. -/
def stateStep (c : ScopeCall) (inode : Nat) (state : CgroupScopeState) : Option ScopeSystem :=
  let local_ := fun (state : CgroupScopeState) (pc : ScopePc) =>
    some (s.goto { c with state := some state } pc)
  match c.pc with
  | .recover =>
    match state.pendingRun with
    | none => local_ state .prune
    | some runId =>
      if state.pendingRunCreated then
        if (state.runBindings.lookup runId).isSome ∧ s.tree.hasChild runId ∧
            state.bindsRun s.tree runId then
          some (goto { s with tree := s.tree.removeChild runId }
              { c with state := some (state.recovered runId) } .writeRecovered)
        else none
      else local_ (state.recovered runId) .writeRecovered
  | .writeRecovered => some ((s.publish state).goto c .prune)
  | .prune =>
    if state.activeRuns.all (state.bindsRun s.tree) then
      let state := state.pruned s.tree
      if state.activeRuns = [] then local_ state .writeEmpty
      else local_ state .attempt
    else none
  | .writeEmpty => some ((s.publish state).goto c (.restore .start true))
  | .writeNew => some ((s.publish state).goto { c with scopePublished := true } .makeSimulator)
  | .makeSimulator =>
    if s.tree.simulator.isSome then some (s.goto c .makeController)
    else some (goto { s with tree := s.tree.makeSimulator inode } c .bindSimulator)
  | .bindSimulator =>
    match s.tree.simulator with
    | none => none
    | some simulator =>
      local_ { state with simulatorIdentity := some (s.tree.identity simulator.inode) }
        .writeSimulator
  | .writeSimulator => some ((s.publish state).goto c .makeController)
  | .makeController =>
    if state.controllerExpected then
      if s.tree.hasChild state.controllerName then none
      else
        some (goto { s with tree := s.tree.makeChild state.controllerName inode } c .bindController)
    else some (s.goto c .addSimulatorControllers)
  | .bindController =>
    match s.tree.child state.controllerName with
    | none => none
    | some directory =>
      local_ { state with controllerIdentity := some (s.tree.identity directory.inode) }
        .writeController
  | .writeController => some ((s.publish state).goto c .delegateProcesses)
  | .delegateProcesses =>
    some (goto { s with tree := s.tree.delegateProcesses state.controllerName } c
      .addRootControllers)
  | .addRootControllers =>
    some (goto { s with tree := s.tree.addRootControllers state.rootControllersAdded } c
      .addSimulatorControllers)
  | .addSimulatorControllers =>
    some (goto
        { s with
          tree := s.tree.addSimulatorControllers state.simulatorControllersAdded }
        c .attempt)
  | .attempt =>
    if c.runId ∈ state.activeRuns then none
    else
      some (s.goto
          { c with
            attemptedRun := true
            state := some
              { state with pendingRun := some c.runId, pendingRunCreated := false } }
          .writePending)
  | .writePending => some ((s.publish state).goto c .makeRun)
  | .makeRun =>
    if s.tree.simulator.isNone ∨ s.tree.hasChild c.runId then none
    else
      some (goto
          { s with
            tree := s.tree.makeChild c.runId inode, created := c.runId :: s.created }
          c .bindRun)
  | .bindRun =>
    match s.tree.child c.runId with
    | none => none
    | some directory =>
      let bound := fun binding : CgroupRunBinding =>
        { binding with cgroupIdentity := (s.tree.identity directory.inode).path }
      some (s.goto
          { c with
            createdRun := true
            state := some
              { state with
                pendingRunCreated := true
                runBindings := emplace c.runId (c.ownership.map bound) state.runBindings } }
          .writeCreated)
  | .writeCreated => some ((s.publish state).goto c .enableControllers)
  | .enableControllers =>
    local_ ({ state with activeRuns := state.activeRuns ++ [c.runId] }).clearPending .writeActive
  | .writeActive => some (s.publish state).finish
  | .rollBackRun =>
    some (goto { s with tree := s.tree.removeChild c.runId }
        { c with state := some (state.withoutRun c.runId) } .writeRolledBack)
  | .writeRolledBack =>
    if state.activeRuns = [] then some ((s.publish state).goto c (.restore .start false))
    else some (s.publish state).finish
  | .removeRun =>
    if s.tree.simulator.isSome ∧ state.bindsRun s.tree c.runId then
      some (goto { s with tree := s.tree.removeChild c.runId }
          { c with state := some (state.withoutRun c.runId) } .writeRemoved)
    else none
  | .writeRemoved =>
    if state.inUse then some (s.publish state).finish
    else some ((s.publish state).goto c (.restore .start false))
  | .restore pc goesOn => s.restoreStep c state pc goesOn
  | _ => none

/-- The state file is loaded and bound. -/
def loadStep (config : CgroupScopeConfig) : Option CgroupScopeState :=
  (s.stateFile.bind fun state =>
    (loadCgroupScopeState config (serializeCgroupScopeState config.json state)).toOption).filter
      (bindsScope s.tree)

/-- What `RemoveRunInScope` does after it has loaded the state. -/
def removalStep (c : ScopeCall) (state : CgroupScopeState) : Option ScopeSystem :=
  if c.runId ∈ state.activeRuns ∨ state.pendingRun = some c.runId then
    some (s.goto { c with state := some state } .removeRun)
  else if s.tree.hasChild c.runId ∨ (state.runBindings.lookup c.runId).isSome then none
  else if state.inUse then some s.finish
  else some (s.goto { c with state := some state } (.restore .start false))

/-- One step of a call; `none` is an exception. -/
def perform (config : CgroupScopeConfig) (c : ScopeCall) (inode : Nat) : Option ScopeSystem :=
  match c.pc with
  | .load =>
    if s.stateFile.isNone then some (s.goto c .new)
    else (s.loadStep config).map fun state => s.goto { c with state := some state } .recover
  | .new =>
    let state := newCgroupScopeState config s.tree c.token
    if (!config.allowRootProcessMove ∧ state.rootControllersAdded ≠ []) ∨
        c.runId ∈ state.activeRuns then none
    else some (s.goto { c with state := some state } .writeNew)
  | .loadForRemoval =>
    if s.stateFile.isNone then if s.tree.hasChild c.runId then none else some s.finish
    else (s.loadStep config).bind (s.removalStep c)
  | _ => c.state.bind (s.stateStep c inode)

/-- The exception leaves the call, or the preparation is rolled back. -/
def caught (c : ScopeCall) : ScopeSystem :=
  match c.pc with
  | .rollBackRun | .writeRolledBack | .restore _ _ => s.finish
  | _ =>
    match c.state with
    | none => s.finish
    | some state =>
      if c.createdRun then s.goto c .rollBackRun
      else if c.attemptedRun then
        s.goto { c with state := some (state.withoutRun c.runId) } .writeRolledBack
      else if c.scopePublished then s.goto c .writeRolledBack
      else s.finish

end ScopeSystem

/-- A call begins, goes on, fails before or after the effect of its step, or is killed.
The kernel chooses the inode number of a directory that the step makes. -/
inductive ScopeAction where
  | prepare (runId : String) (ownership : Option CgroupRunBinding) (token : String)
  | remove (runId : String)
  | proceed (inode : Nat)
  | failBefore
  | failAfter (inode : Nat)
  | kill

namespace ScopeSystem

variable (config : CgroupScopeConfig)

def step (s : ScopeSystem) : ScopeAction → Option ScopeSystem
  | .prepare runId ownership token =>
    if s.call.isNone ∧ isSafeRunId runId ∧ isResourceToken token ∧
        ownership.all (isOwnership runId) then
      some { s with call := some { runId, ownership, token, pc := .load } }
    else none
  | .remove runId =>
    if s.call.isNone ∧ isSafeRunId runId then
      some { s with call := some { runId, pc := .loadForRemoval } }
    else none
  | .proceed inode =>
    if s.tree.isFresh inode then s.call.map fun c => (s.perform config c inode).getD (s.caught c)
    else none
  | .failBefore => s.call.map s.caught
  | .failAfter inode =>
    if s.tree.isFresh inode then
      s.call.map fun c =>
        match s.perform config c inode with
        | none => s.caught c
        | some t => caught { t with call := s.call } c
    else none
  | .kill => s.call.map fun _ => s.finish
where
  /-- What `LoadRunOwnership` and the checks at the beginning of the call ask. -/
  isOwnership (runId : String) (binding : CgroupRunBinding) : Bool :=
    isResourceCgroupName runId && isSafeRunId binding.runId &&
      isNormalAbsolutePath binding.runRoot && binding.resourceId == runId &&
      binding.runRootIdentity.inode != 0 &&
      decide (binding.runRootIdentity.inode < 2 ^ 64) &&
      decide (binding.runRootIdentity.device < 2 ^ 64)
  /-- The sixteen hexadecimal digits of a random token. -/
  isResourceToken (token : String) : Bool :=
    token.length == 16 &&
      token.toList.all fun c => c.isDigit || (decide ('a' ≤ c) && decide (c ≤ 'f'))

/-- No scope yet. -/
def initial (tree : CgroupTree) : ScopeSystem := { tree }

end ScopeSystem

/-- The calls on one cgroup tree. -/
def cgroupScopeMachine (config : CgroupScopeConfig) : Machine ScopeSystem ScopeAction where
  step := ScopeSystem.step config

end Calls

end Bbp.Cgroup
