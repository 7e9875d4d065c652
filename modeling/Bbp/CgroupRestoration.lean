import Bbp.CgroupOwnership

/-!
# A scope leaves no trace

What a scope does to the cgroup tree can be undone from the plan in its state alone: the
added controllers are dropped, the processes in the controller cgroup go back to the root,
the directories of the scope and its runs are removed, and the simulator cgroup too unless
it was there before.  `undo` is this as a function on trees.

As long as no call fails, every step of a preparation or a removal changes the tree only
in ways that `undo` does not see, so undoing always gives the tree of before the scope.
At the end of a restoration there is nothing left to undo.
-/

namespace Bbp.Cgroup

open Library CgroupTree Option

section Undo

/-- The directory belongs neither to the scope nor to a run. -/
def remains (state : CgroupScopeState) (created : List String)
    (directory : CgroupDirectory) : Bool :=
  !(state.controllerExpected && directory.name == state.controllerName) &&
    decide (directory.name ∉ created)

/-- The simulator cgroup without what the scope has put into it. -/
def restoredSimulator (state : CgroupScopeState) (created : List String)
    (simulator : SimulatorCgroup) : SimulatorCgroup :=
  { simulator with
    controllers := simulator.controllers.filter (· ∉ state.simulatorControllersAdded)
    children := simulator.children.filter (remains state created) }

def processesOf (tree : CgroupTree) (name : String) : List Nat :=
  ((tree.child name).map CgroupDirectory.processes).getD []

/-- The tree without what the scope has done to it. -/
def undo (state : CgroupScopeState) (created : List String) (tree : CgroupTree) : CgroupTree :=
  { tree with
    rootControllers := tree.rootControllers.filter (· ∉ state.rootControllersAdded)
    rootProcesses :=
      if state.controllerExpected then tree.rootProcesses ++ processesOf tree state.controllerName
      else tree.rootProcesses
    simulator :=
      if state.simulatorPreexisting then tree.simulator.map (restoredSimulator state created)
      else none }

variable {state : CgroupScopeState} {created : List String} {tree : CgroupTree} {name : String}
  {inode : Nat} (controllers added : List String)

theorem filter_append_added :
    (controllers ++ added.filter (· ∉ controllers)).filter (· ∉ added) =
      controllers.filter (· ∉ added) := by
  have hnone : (added.filter (· ∉ controllers)).filter (· ∉ added) = [] := by
    rw [List.filter_eq_nil_iff]
    intro controller hmem
    simpa using (List.mem_filter.mp hmem).1
  rw [List.filter_append, hnone, List.append_nil]

theorem filter_filter_added :
    (controllers.filter (· ∉ added)).filter (· ∉ added) =
      controllers.filter (· ∉ added) := by
  simp [List.filter_filter]

theorem undo_addRootControllers :
    undo state created (tree.addRootControllers state.rootControllersAdded) =
      undo state created tree := by
  simp only [undo, addRootControllers, filter_append_added]
  rfl

theorem undo_dropRootControllers :
    undo state created (tree.dropRootControllers state.rootControllersAdded) =
      undo state created tree := by
  simp only [undo, dropRootControllers, filter_filter_added]
  rfl

section Simulator

variable {f : SimulatorCgroup → SimulatorCgroup}

/-- A change of the simulator cgroup that keeps the lookup of a directory. -/
theorem processesOf_mapSimulator (hf : ∀ simulator, (f simulator).children.find? (·.name == name) =
      simulator.children.find? (·.name == name)) :
    processesOf { tree with simulator := tree.simulator.map f } name = processesOf tree name := by
  cases hs : tree.simulator with
  | none => simp [processesOf, child, children, hs]
  | some simulator => simp [processesOf, child, children, hs, hf]

/-- A change of the simulator cgroup that the plan takes back. -/
theorem undo_mapSimulator
    (hprocesses : processesOf { tree with simulator := tree.simulator.map f }
      state.controllerName = processesOf tree state.controllerName)
    (hf : ∀ simulator, restoredSimulator state created (f simulator) =
      restoredSimulator state created simulator) :
    undo state created { tree with simulator := tree.simulator.map f } =
      undo state created tree := by
  have hsimulator : (tree.simulator.map f).map (restoredSimulator state created) =
      tree.simulator.map (restoredSimulator state created) := by
    rw [Option.map_map]
    exact Option.map_congr fun simulator _ => hf simulator
  simp only [undo, hprocesses, hsimulator]

end Simulator

theorem undo_addSimulatorControllers :
    undo state created (tree.addSimulatorControllers state.simulatorControllersAdded) =
      undo state created tree := by
  refine undo_mapSimulator (processesOf_mapSimulator fun _ => rfl) fun simulator => ?_
  simp only [restoredSimulator, filter_append_added]

theorem undo_dropSimulatorControllers :
    undo state created (tree.dropSimulatorControllers state.simulatorControllersAdded) =
      undo state created tree := by
  refine undo_mapSimulator (processesOf_mapSimulator fun _ => rfl) fun simulator => ?_
  simp only [restoredSimulator, filter_filter_added]

theorem processesOf_of_absent (h : tree.hasChild name = false) : processesOf tree name = [] := by
  have hnone : tree.child name = none := by simpa [hasChild] using h
  simp [processesOf, hnone]

/-- A directory of the scope or of a run is removed. -/
theorem undo_removeChild
    (hgone : ∀ directory, directory.name = name → remains state created directory = false)
    (hprocesses : processesOf (tree.removeChild name) state.controllerName =
      processesOf tree state.controllerName) :
    undo state created (tree.removeChild name) = undo state created tree := by
  refine undo_mapSimulator hprocesses fun simulator => ?_
  simp only [restoredSimulator, List.filter_filter]
  congr 2
  funext directory
  by_cases h : directory.name = name
  · simp [h, hgone directory h]
  · simp [h]

theorem undo_removeRun {runId : String} (hcreated : runId ∈ created)
    (hne : state.controllerName ≠ runId) :
    undo state created (tree.removeChild runId) = undo state created tree := by
  refine undo_removeChild (fun directory h => by simp [remains, h, hcreated]) ?_
  refine processesOf_mapSimulator fun simulator => ?_
  rw [List.find?_filter]
  congr 1
  funext directory
  by_cases h : directory.name = state.controllerName
  · simp [h, hne]
  · simp [h]

/-- A directory of the scope or of a run is made. -/
theorem undo_makeChild (hgone : remains state created { name, inode } = false)
    (hprocesses : processesOf (tree.makeChild name inode) state.controllerName =
      processesOf tree state.controllerName) :
    undo state created (tree.makeChild name inode) = undo state created tree := by
  refine undo_mapSimulator hprocesses fun simulator => ?_
  simp [restoredSimulator, hgone]

theorem mem_children_ne {directory : CgroupDirectory} {simulator : SimulatorCgroup}
    (hs : tree.simulator = some simulator) (h : tree.hasChild name = false)
    (hmem : directory ∈ simulator.children) : directory.name ≠ name := by
  rintro rfl
  have hchild : tree.hasChild directory.name = true := by
    refine hasChild_iff.mpr (List.mem_map_of_mem ?_)
    simpa [children, hs] using hmem
  rw [h] at hchild
  cases hchild

theorem undo_makeRun {runId : String} (hnew : tree.hasChild runId = false)
    (hne : state.controllerName ≠ runId) :
    undo state (runId :: created) (tree.makeChild runId inode) =
      undo state created tree := by
  have hcreated : undo state (runId :: created) (tree.makeChild runId inode) =
      undo state (runId :: created) tree := by
    refine undo_makeChild (by simp [remains]) (processesOf_mapSimulator fun simulator => ?_)
    simp [List.find?_append, Ne.symm hne]
  rw [hcreated]
  simp only [undo]
  congr 1
  split
  · cases hs : tree.simulator with
    | none => rfl
    | some simulator =>
      simp only [map_some, restoredSimulator]
      congr 2
      refine List.filter_congr fun directory hmem => ?_
      simp [remains, mem_children_ne hs hnew hmem]
  · rfl

theorem processesOf_made (hnew : tree.hasChild name = false) :
    processesOf (tree.makeChild name inode) name = [] := by
  have hnone : tree.child name = none := by simpa [hasChild] using hnew
  cases hs : tree.simulator with
  | none => simp [processesOf, makeChild, child, children, hs]
  | some simulator =>
    have hfind : simulator.children.find? (·.name == name) = none := by
      simpa [child, children, hs] using hnone
    simp [processesOf, makeChild, child, children, hs, List.find?_append, hfind]

section

variable (hexpected : state.controllerExpected = true)

include hexpected

theorem undo_makeController (hnew : tree.hasChild state.controllerName = false) :
    undo state created (tree.makeChild state.controllerName inode) =
      undo state created tree := by
  refine undo_makeChild (by simp [remains, hexpected]) ?_
  rw [processesOf_made hnew, processesOf_of_absent hnew]

theorem undo_removeController (hempty : processesOf tree state.controllerName = []) :
    undo state created (tree.removeChild state.controllerName) =
      undo state created tree := by
  refine undo_removeChild (fun directory h => by simp [remains, h, hexpected]) ?_
  rw [hempty]
  refine processesOf_of_absent ?_
  rw [← Bool.not_eq_true, hasChild_removeChild]
  simp

/-- Changing the processes of the controller cgroup leaves the rest alone. -/
theorem filter_remains_map {simulator : SimulatorCgroup} (f : CgroupDirectory → CgroupDirectory)
    (hname : ∀ directory, (f directory).name = directory.name) :
    (simulator.children.map fun directory =>
        if directory.name = state.controllerName then f directory else directory).filter
        (remains state created) =
      simulator.children.filter (remains state created) := by
  induction simulator.children with
  | nil => rfl
  | cons directory rest ih =>
    rw [List.map_cons, List.filter_cons, List.filter_cons, ih]
    by_cases h : directory.name = state.controllerName
    · simp [h, remains, hexpected, hname]
    · simp [h]

omit hexpected in
theorem find?_map_named (directories : List CgroupDirectory) (name : String)
    (f : CgroupDirectory → CgroupDirectory)
    (hname : ∀ directory, (f directory).name = directory.name) :
    (directories.map fun directory =>
        if directory.name = name then f directory else directory).find? (·.name == name) =
      (directories.find? (·.name == name)).map f := by
  induction directories with
  | nil => rfl
  | cons directory rest ih =>
    rw [List.map_cons, List.find?_cons, List.find?_cons, ih]
    by_cases h : directory.name = name
    · simp [h, hname]
    · have hbeq : (directory.name == name) = false := by simpa using h
      simp only [h, if_false, hbeq]

theorem undo_delegateProcesses (hchild : tree.hasChild state.controllerName = true)
    (hempty : processesOf tree state.controllerName = []) :
    undo state created (tree.delegateProcesses state.controllerName) =
      undo state created tree := by
  cases hs : tree.simulator with
  | none => simp [hasChild, child, children, hs] at hchild
  | some simulator =>
    simp only [hasChild, child, children, hs, map_some, getD_some] at hchild
    obtain ⟨directory, hfind⟩ := isSome_iff_exists.mp hchild
    simp only [processesOf, child, children, hs, map_some, getD_some, hfind] at hempty
    simp only [undo, delegateProcesses, processesOf, child,
      children, hs, map_some, getD_some, hexpected, if_true,
      restoredSimulator, hfind]
    rw [find?_map_named _ _ (fun directory =>
          { directory with processes := directory.processes ++ tree.rootProcesses })
        (fun _ => rfl), hfind,
      filter_remains_map hexpected (fun directory =>
          { directory with processes := directory.processes ++ tree.rootProcesses })
        (fun _ => rfl)]
    simp [hempty]

theorem undo_restoreProcesses :
    undo state created (tree.restoreProcesses state.controllerName) =
      undo state created tree := by
  cases hs : tree.simulator with
  | none => simp [undo, restoreProcesses, processesOf, child, children, hs]
  | some simulator =>
    simp only [undo, restoreProcesses, processesOf, child,
      children, hs, map_some, getD_some, hexpected, if_true,
      restoredSimulator]
    rw [find?_map_named _ _ (fun directory => { directory with processes := [] }) (fun _ => rfl),
      filter_remains_map hexpected (fun directory => { directory with processes := [] })
        (fun _ => rfl)]
    cases simulator.children.find? (·.name == state.controllerName) <;> simp

end

theorem processesOf_restored (name : String) :
    processesOf (tree.restoreProcesses name) name = [] := by
  cases hs : tree.simulator with
  | none => simp [restoreProcesses, processesOf, child, children, hs]
  | some simulator =>
    simp only [restoreProcesses, processesOf, child, children, hs, map_some, getD_some]
    rw [find?_map_named _ _ (fun directory => { directory with processes := [] }) (fun _ => rfl)]
    cases simulator.children.find? (·.name == name) <;> rfl

theorem undo_removeSimulator (hmade : state.simulatorPreexisting = false)
    (habsent : state.controllerExpected = true → tree.hasChild state.controllerName = false) :
    undo state created { tree with simulator := none } = undo state created tree := by
  simp only [undo, hmade, Bool.false_eq_true, if_false]
  split
  next hexpected =>
    rw [processesOf_of_absent (habsent hexpected)]
    rfl
  · rfl

theorem filter_of_absent {controllers added : List String}
    (h : added.all (· ∉ controllers) = true) : controllers.filter (· ∉ added) = controllers := by
  rw [List.filter_eq_self]
  intro controller hmem
  simp only [List.all_eq_true, decide_eq_true_eq] at h ⊢
  exact fun hadded => h controller hadded hmem

/-- A tree in which the scope has left nothing. -/
theorem undo_eq_self (hroot : state.rootControllersAdded.all (· ∉ tree.rootControllers) = true)
    (hsimulator : ∀ simulator, tree.simulator = some simulator → state.simulatorPreexisting = true ∧
      state.simulatorControllersAdded.all (· ∉ simulator.controllers) = true)
    (hcontroller : state.controllerExpected = true → tree.hasChild state.controllerName = false)
    (hruns : ∀ runId ∈ created, tree.hasChild runId = false) : undo state created tree = tree := by
  have hprocesses : (if state.controllerExpected then
      tree.rootProcesses ++ processesOf tree state.controllerName
      else tree.rootProcesses) = tree.rootProcesses := by
    split
    next hexpected => rw [processesOf_of_absent (hcontroller hexpected), List.append_nil]
    · rfl
  have hsim : (if state.simulatorPreexisting then
      tree.simulator.map (restoredSimulator state created) else none) = tree.simulator := by
    cases hs : tree.simulator with
    | none => simp
    | some simulator =>
      obtain ⟨hpreexisting, hadded⟩ := hsimulator simulator hs
      have hchildren : simulator.children.filter (remains state created) = simulator.children := by
        rw [List.filter_eq_self]
        intro directory hmem
        have hnot : directory.name ∉ created := fun hcreated =>
          mem_children_ne hs (hruns directory.name hcreated) hmem rfl
        cases hexpected : state.controllerExpected with
        | false => simp [remains, hexpected, hnot]
        | true =>
          have hne := mem_children_ne hs (hcontroller hexpected) hmem
          simp [remains, hnot, hne]
      simp only [hpreexisting, if_true, map_some, restoredSimulator]
      rw [filter_of_absent hadded, hchildren]
  unfold undo
  rw [filter_of_absent hroot, hprocesses, hsim]

theorem undo_makeSimulator (hmade : state.simulatorPreexisting = false)
    (hnone : tree.simulator = none) :
    undo state created (tree.makeSimulator inode) = undo state created tree := by
  have hprocesses : processesOf (tree.makeSimulator inode) state.controllerName =
      processesOf tree state.controllerName := by
    simp [processesOf, makeSimulator, child, children, hnone]
  simp only [undo, hprocesses, hmade, Bool.false_eq_true, if_false]
  rfl

theorem hasChild_of_undo (h : (undo state created tree).hasChild name = true) :
    tree.hasChild name = true := by
  rw [hasChild_iff] at h ⊢
  cases hs : tree.simulator with
  | none => simp [undo, names, children, hs] at h
  | some simulator =>
    simp only [undo, names, children, hs, map_some, getD_some] at h ⊢
    split at h
    · obtain ⟨directory, hmem, rfl⟩ := List.mem_map.mp h
      exact List.mem_map_of_mem (List.mem_filter.mp hmem).1
    · simp at h

/-- Nothing has to be undone when a scope is new. -/
theorem undo_new {config : CgroupScopeConfig} {token : String}
    (hcontroller : (newCgroupScopeState config tree token).controllerExpected = true →
      tree.hasChild (newCgroupScopeState config tree token).controllerName = false)
    (hruns : ∀ runId ∈ created, tree.hasChild runId = false) :
    undo (newCgroupScopeState config tree token) created tree = tree := by
  refine undo_eq_self ?_ (fun simulator hs => ⟨?_, ?_⟩) hcontroller hruns
  · simp only [newCgroupScopeState, List.all_filter, List.all_eq_true]
    intro controller _
    by_cases h : controller ∈ tree.rootControllers <;> simp [h]
  · simp [newCgroupScopeState, hs]
  · simp only [newCgroupScopeState, hs, map_some, getD_some, List.all_filter, List.all_eq_true]
    intro controller _
    by_cases h : controller ∈ simulator.controllers <;> simp [h]

end Undo

section Invariant

/-- The scope can be undone, and its active runs have directories. -/
structure Sound (original : CgroupTree) (created : List String) (tree : CgroupTree)
    (state : CgroupScopeState) : Prop where
  undoes : undo state created tree = original
  live : ∀ runId ∈ state.activeRuns, runId ∈ created ∧ tree.hasChild runId = true
  named : ∃ token, state.controllerName = ownedControllerPrefix ++ token
  ready : state.restorationReady = false

/-- A scope between two calls has an active run. -/
structure Serving (original : CgroupTree) (created : List String) (tree : CgroupTree)
    (state : CgroupScopeState) : Prop extends Sound original created tree state where
  pending : state.pendingRun = none
  active : state.activeRuns ≠ []

/-- A scope whose controller cgroup has not been made. -/
structure Unstarted (original : CgroupTree) (created : List String) (tree : CgroupTree)
    (state : CgroupScopeState) : Prop where
  undoes : (state.controllerExpected = true → tree.hasChild state.controllerName = false) →
    undo state created tree = original
  active : state.activeRuns = []
  named : ∃ token, state.controllerName = ownedControllerPrefix ++ token
  ready : state.restorationReady = false

/-- Without a call there is no scope, or one that serves. -/
def Resting (original : CgroupTree) (s : ScopeSystem) : Prop :=
  (s.stateFile = none ∧ s.tree = original) ∨
    ∃ state, s.stateFile = some state ∧ Serving original s.created s.tree state

/-- How far a restoration has come. -/
def Restoring (original : CgroupTree) (created : List String) (tree : CgroupTree)
    (state : CgroupScopeState) : RestorePc → Prop
  | .start => undo state created tree = original ∧ state.restorationReady = false
  | .dropSimulatorControllers | .dropRootControllers | .restoreProcesses =>
    undo state created tree = original
  | .check | .writeReady | .removeController =>
    undo state created tree = original ∧
      (state.controllerExpected = true → processesOf tree state.controllerName = [])
  | .removeSimulator =>
    undo state created tree = original ∧
      (state.controllerExpected = true → tree.hasChild state.controllerName = false)
  | .unlink =>
    undo state created tree = original ∧
      (state.controllerExpected = true → tree.hasChild state.controllerName = false) ∧
      (state.simulatorPreexisting = false → tree.simulator = none)

/-- How the tree and the variables of a call are related when nothing fails. -/
def Undoable (original : CgroupTree) (s : ScopeSystem) (c : ScopeCall) : ScopePc → Prop
  | .load | .loadForRemoval => Resting original s
  | .recover | .prune | .writeActive =>
    ∃ state, c.state = some state ∧ Serving original s.created s.tree state
  | .removeRun =>
    ∃ state, c.state = some state ∧ Serving original s.created s.tree state ∧
      c.runId ∈ state.activeRuns
  | .new => s.tree = original
  | .writeNew | .makeSimulator =>
    ∃ state, c.state = some state ∧ Unstarted original s.created s.tree state ∧
      state.simulatorPreexisting = s.tree.simulator.isSome
  | .bindSimulator | .writeSimulator | .makeController =>
    ∃ state, c.state = some state ∧ Unstarted original s.created s.tree state
  | .bindController =>
    ∃ state, c.state = some state ∧ Sound original s.created s.tree state ∧
      state.controllerExpected = true ∧
      processesOf s.tree state.controllerName = []
  | .writeController | .delegateProcesses =>
    ∃ state, c.state = some state ∧ Sound original s.created s.tree state ∧
      state.controllerExpected = true ∧
      processesOf s.tree state.controllerName = [] ∧
      s.tree.hasChild state.controllerName = true
  | .addRootControllers | .addSimulatorControllers | .attempt | .writePending | .makeRun =>
    ∃ state, c.state = some state ∧ Sound original s.created s.tree state
  | .bindRun | .writeCreated | .enableControllers =>
    ∃ state, c.state = some state ∧ Sound original s.created s.tree state ∧ c.runId ∈ s.created ∧
      s.tree.hasChild c.runId = true
  | .writeRemoved =>
    ∃ state, c.state = some state ∧ Sound original s.created s.tree state ∧ state.pendingRun = none
  | .restore pc goesOn =>
    goesOn = false ∧ ∃ state, c.state = some state ∧ Restoring original s.created s.tree state pc
  | .writeRecovered | .writeEmpty | .rollBackRun | .writeRolledBack => False

/-- What holds of every state that is reached without a failure. -/
structure Traceless (original : CgroupTree) (s : ScopeSystem) : Prop where
  apart : ∀ runId ∈ s.created, original.hasChild runId = false
  rest : s.call = none → Resting original s
  call : ∀ c, s.call = some c → Undoable original s c c.pc

end Invariant

section Steps

open ScopeSystem

variable {original : CgroupTree} {config : CgroupScopeConfig} {s t : ScopeSystem}
  {c : ScopeCall} {inode : Nat} {state : CgroupScopeState} {tree : CgroupTree}
  {created : List String}

theorem Traceless.goto {pc : ScopePc}
    (hapart : ∀ runId ∈ s.created, original.hasChild runId = false)
    (h : Undoable original s { c with pc } pc) : Traceless original (s.goto c pc) := by
  refine ⟨hapart, nofun, fun d hd => ?_⟩
  cases hd
  cases pc <;> exact h

theorem Traceless.finish (hapart : ∀ runId ∈ s.created, original.hasChild runId = false)
    (h : Resting original s) : Traceless original s.finish :=
  ⟨hapart, fun _ => h, fun _ hd => (nomatch hd)⟩

/-- The tree changes, and neither `undo` nor the directories of the runs do. -/
theorem Sound.moved (h : Sound original s.created s.tree state)
    (hundo : undo state s.created tree = undo state s.created s.tree)
    (hchildren : ∀ runId, s.tree.hasChild runId = true → tree.hasChild runId = true) :
    Sound original s.created tree state :=
  ⟨hundo.trans h.undoes, fun runId hmem =>
    ⟨(h.live runId hmem).1, hchildren runId (h.live runId hmem).2⟩, h.named, h.ready⟩

theorem controllerName_ne (hnamed : ∃ token, state.controllerName = ownedControllerPrefix ++ token)
    (hrun : isSafeRunId c.runId = true) : state.controllerName ≠ c.runId := by
  obtain ⟨token, hname⟩ := hnamed
  rw [hname]
  exact (safe_ne_controllerName hrun).symm

theorem Resting.loaded (h : Resting original s) (hstate : s.stateFile = some state) :
    Serving original s.created s.tree state := by
  rcases h with ⟨hnone, _⟩ | ⟨other, hother, hserving⟩
  · rw [hnone] at hstate
    cases hstate
  · rw [hstate] at hother
    exact some.inj hother ▸ hserving

theorem Serving.inUse (h : Serving original created tree state) : state.inUse = true := by
  simp [CgroupScopeState.inUse, h.active]

/-- The plan of a scope does not depend on its runs. -/
theorem Sound.withoutRun {runId : String} (hundo : undo state created tree = original)
    (hlive : ∀ other ∈ state.activeRuns, other ≠ runId →
      other ∈ created ∧ tree.hasChild other = true)
    (hnamed : ∃ token, state.controllerName = ownedControllerPrefix ++ token)
    (hready : state.restorationReady = false) :
    Sound original created tree (state.withoutRun runId) := by
  have hactive : ∀ other ∈ state.activeRuns.filter (· ≠ runId),
      other ∈ created ∧ tree.hasChild other = true := by
    intro other hmem
    obtain ⟨hmem, hne⟩ := List.mem_filter.mp hmem
    exact hlive other hmem (by simpa using hne)
  unfold CgroupScopeState.withoutRun
  split <;> exact ⟨hundo, hactive, hnamed, hready⟩

theorem preserved_added (h : controllersPreserved s.tree state = true) :
    state.rootControllersAdded.all (· ∉ s.tree.rootControllers) = true ∧
      ∀ simulator, s.tree.simulator = some simulator →
        state.simulatorControllersAdded.all (· ∉ simulator.controllers) = true := by
  simp only [controllersPreserved, controllersPreserved.preserved, Bool.and_eq_true,
    all_eq_true] at h
  exact ⟨h.1.2, fun simulator hs => (h.2 simulator hs).2⟩

variable (hs : Traceless original s) (hundoable : Undoable original s c c.pc)
  (h : s.perform config c inode = some t)

include hs hundoable h

theorem start_traceless (hresource : ∀ name ∈ original.names, isResourceCgroupName name = false)
    (hpc : c.pc ∈ [.new, .writeNew, .makeSimulator, .bindSimulator, .writeSimulator,
      .makeController]) :
    Traceless original t := by
  simp only [List.mem_cons, List.not_mem_nil, or_false] at hpc
  rcases hpc with hpc | hpc | hpc | hpc | hpc | hpc
  all_goals rw [hpc] at hundoable
  · have htree : s.tree = original := hundoable
    simp only [perform, hpc] at h
    split at h <;> cases h
    refine .goto hs.apart ⟨_, rfl, ⟨fun hcontroller => ?_, ?_, ⟨c.token, rfl⟩, rfl⟩, rfl⟩
    · rw [undo_new hcontroller fun runId hmem => htree ▸ hs.apart runId hmem]
      exact htree
    · rw [← htree] at hresource
      simpa [newCgroupScopeState, names] using hresource
  all_goals
    obtain ⟨state, hstate, hunstarted⟩ := hundoable
    simp only [perform, hpc, hstate, bind_some, stateStep] at h
  · obtain ⟨hunstarted, hpreexisting⟩ := hunstarted
    cases h
    exact .goto hs.apart ⟨state, rfl, hunstarted, hpreexisting⟩
  · obtain ⟨hunstarted, hpreexisting⟩ := hunstarted
    split at h
    · cases h
      exact .goto hs.apart ⟨state, hstate, hunstarted⟩
    rename_i hsome
    have hnone : s.tree.simulator = none := by simpa using hsome
    have hmade : state.simulatorPreexisting = false := by simpa [hnone] using hpreexisting
    cases h
    refine .goto hs.apart ⟨state, hstate, { hunstarted with undoes := fun _ => ?_ }⟩
    refine (undo_makeSimulator hmade hnone).trans (hunstarted.undoes fun _ => ?_)
    simp [hasChild, child, children, hnone]
  · split at h <;> cases h
    exact .goto hs.apart ⟨_, rfl, { hunstarted with }⟩
  · cases h
    exact .goto hs.apart ⟨state, hstate, { hunstarted with }⟩
  · have hlive : ∀ {created : List String} {tree : CgroupTree}, ∀ runId ∈ state.activeRuns,
        runId ∈ created ∧ tree.hasChild runId = true := by
      intro _ _ runId hmem
      rw [hunstarted.active] at hmem
      exact absurd hmem List.not_mem_nil
    split at h
    next hexpected =>
      split at h <;> cases h
      rename_i hchild
      have hnew : s.tree.hasChild state.controllerName = false := by simpa using hchild
      refine .goto hs.apart ⟨state, hstate, ⟨?_, hlive, hunstarted.named,
        hunstarted.ready⟩, hexpected, processesOf_made hnew⟩
      exact (undo_makeController hexpected hnew).trans (hunstarted.undoes fun _ => hnew)
    next hexpected =>
      cases h
      exact .goto hs.apart ⟨state, hstate,
        hunstarted.undoes fun hexpected' => absurd hexpected' hexpected, hlive,
        hunstarted.named, hunstarted.ready⟩

/-- The steps that make the controller cgroup and enable controllers. -/
theorem delegate_traceless
    (hpc : c.pc ∈ [.bindController, .writeController, .delegateProcesses,
      .addRootControllers, .addSimulatorControllers]) :
    Traceless original t := by
  simp only [List.mem_cons, List.not_mem_nil, or_false] at hpc
  rcases hpc with hpc | hpc | hpc | hpc | hpc
  all_goals
    rw [hpc] at hundoable
    obtain ⟨state, hstate, hsound⟩ := hundoable
    simp only [perform, hpc, hstate, bind_some, stateStep] at h
  · obtain ⟨hsound, hexpected, hempty⟩ := hsound
    split at h <;> cases h
    rename_i directory hchild
    refine .goto hs.apart ⟨_, rfl,
      { hsound with }, hexpected, hempty, ?_⟩
    simp [hasChild, hchild]
  · obtain ⟨hsound, hexpected, hempty, hchild⟩ := hsound
    cases h
    exact .goto hs.apart ⟨state, hstate, hsound, hexpected, hempty, hchild⟩
  · obtain ⟨hsound, hexpected, hempty, hchild⟩ := hsound
    cases h
    refine .goto hs.apart ⟨state, hstate,
      hsound.moved (undo_delegateProcesses hexpected hchild hempty) fun runId hlive => ?_⟩
    rwa [hasChild_congr (names_delegateProcesses _ _)]
  · cases h
    exact .goto hs.apart ⟨state, hstate, hsound.moved undo_addRootControllers fun _ hlive => hlive⟩
  · cases h
    refine .goto hs.apart ⟨state, hstate,
      hsound.moved undo_addSimulatorControllers fun runId hlive => ?_⟩
    rwa [hasChild_congr (names_addSimulatorControllers _ _)]

theorem makeRun_traceless (hrun : isSafeRunId c.runId = true) (hpc : c.pc = .makeRun) :
    Traceless original t := by
  rw [hpc] at hundoable
  obtain ⟨state, hstate, hsound⟩ := hundoable
  simp only [perform, hpc, hstate, bind_some, stateStep] at h
  split at h
  · cases h
  rename_i hcheck
  simp only [not_or, Bool.not_eq_true, isNone_eq_false_iff] at hcheck
  obtain ⟨simulator, hsimulator⟩ := isSome_iff_exists.mp hcheck.1
  have hnew := hcheck.2
  have hnames := names_makeChild hsimulator c.runId inode
  cases h
  refine .goto (fun runId hmem => ?_)
    ⟨state, hstate, ⟨?_, fun runId hmem => ?_, hsound.named, hsound.ready⟩,
      List.mem_cons_self, ?_⟩
  · rcases List.mem_cons.mp hmem with rfl | hmem
    · rw [← Bool.not_eq_true]
      intro hchild
      rw [← hsound.undoes] at hchild
      rw [hasChild_of_undo hchild] at hnew
      cases hnew
    · exact hs.apart runId hmem
  · exact (undo_makeRun hnew (controllerName_ne hsound.named hrun)).trans hsound.undoes
  · have hlive := hsound.live runId hmem
    refine ⟨List.mem_cons_of_mem _ hlive.1, ?_⟩
    rw [hasChild_iff, hnames]
    exact List.mem_append_left _ (hasChild_iff.mp hlive.2)
  · rw [hasChild_iff, hnames]
    simp

theorem prepareRun_traceless
    (hpc : c.pc ∈ [.attempt, .writePending, .bindRun, .writeCreated, .enableControllers,
      .writeActive]) :
    Traceless original t := by
  simp only [List.mem_cons, List.not_mem_nil, or_false] at hpc
  rcases hpc with hpc | hpc | hpc | hpc | hpc | hpc
  all_goals
    rw [hpc] at hundoable
    obtain ⟨state, hstate, hsound⟩ := hundoable
    simp only [perform, hpc, hstate, bind_some, stateStep] at h
  · split at h <;> cases h
    exact .goto hs.apart ⟨_, rfl, { hsound with }⟩
  · cases h
    exact .goto hs.apart ⟨state, hstate, hsound⟩
  · obtain ⟨hsound, hcreated, hchild⟩ := hsound
    split at h <;> cases h
    exact .goto hs.apart ⟨_, rfl, { hsound with }, hcreated, hchild⟩
  · obtain ⟨hsound, hcreated, hchild⟩ := hsound
    cases h
    exact .goto hs.apart ⟨state, hstate, hsound, hcreated, hchild⟩
  · obtain ⟨hsound, hcreated, hchild⟩ := hsound
    cases h
    refine .goto hs.apart ⟨_, rfl, { hsound with live := fun runId hmem => ?_ }, rfl, ?_⟩
    · rcases List.mem_append.mp hmem with hmem | hmem
      · exact hsound.live runId hmem
      · rw [List.mem_singleton.mp hmem]
        exact ⟨hcreated, hchild⟩
    · simp [CgroupScopeState.clearPending]
  · cases h
    exact .finish hs.apart (Or.inr ⟨state, rfl, hsound⟩)

theorem load_traceless (hpc : c.pc ∈ [.load, .recover, .prune, .loadForRemoval]) :
    Traceless original t := by
  simp only [List.mem_cons, List.not_mem_nil, or_false] at hpc
  rcases hpc with hpc | hpc | hpc | hpc
  all_goals rw [hpc] at hundoable
  · have hresting : Resting original s := hundoable
    simp only [perform, hpc] at h
    split at h
    next hnone =>
      cases h
      refine .goto hs.apart ?_
      rcases hresting with ⟨_, htree⟩ | ⟨state, hstate, _⟩
      · exact htree
      · rw [hstate] at hnone
        cases hnone
    · obtain ⟨state, hload, rfl⟩ := map_eq_some_iff.mp h
      exact .goto hs.apart ⟨state, rfl, hresting.loaded (loadStep_eq hload)⟩
  · obtain ⟨state, hstate, hserving⟩ := hundoable
    simp only [perform, hpc, hstate, bind_some, stateStep, hserving.pending] at h
    cases h
    exact .goto hs.apart ⟨state, rfl, hserving⟩
  · obtain ⟨state, hstate, hserving⟩ := hundoable
    have hactive : (state.pruned s.tree).activeRuns = state.activeRuns :=
      List.filter_eq_self.mpr fun runId hmem => (hserving.live runId hmem).2
    simp only [perform, hpc, hstate, bind_some, stateStep] at h
    split at h
    · split at h
      next hempty => exact absurd (hactive.symm.trans hempty) hserving.active
      cases h
      refine .goto hs.apart ⟨_, rfl, { hserving with live := fun runId hmem => ?_ }⟩
      rw [hactive] at hmem
      exact hserving.live runId hmem
    · cases h
  · have hresting : Resting original s := hundoable
    simp only [perform, hpc] at h
    split at h
    · split at h <;> cases h
      exact .finish hs.apart hresting
    obtain ⟨state, hload, h⟩ := bind_eq_some_iff.mp h
    have hserving := hresting.loaded (loadStep_eq hload)
    unfold removalStep at h
    split at h
    next hruns =>
      cases h
      refine .goto hs.apart ⟨state, rfl, hserving, hruns.resolve_right ?_⟩
      rw [hserving.pending]
      simp
    split at h
    · cases h
    · rw [if_pos hserving.inUse] at h
      cases h
      exact .finish hs.apart hresting

theorem removeRun_traceless (hrun : isSafeRunId c.runId = true)
    (hpc : c.pc ∈ [.removeRun, .writeRemoved]) : Traceless original t := by
  simp only [List.mem_cons, List.not_mem_nil, or_false] at hpc
  rcases hpc with hpc | hpc
  all_goals
    rw [hpc] at hundoable
    obtain ⟨state, hstate, hundoable⟩ := hundoable
    simp only [perform, hpc, hstate, bind_some, stateStep] at h
  · obtain ⟨hserving, hmem⟩ := hundoable
    split at h <;> cases h
    have hundo : undo state s.created (s.tree.removeChild c.runId) =
        undo state s.created s.tree :=
      undo_removeRun (hserving.live c.runId hmem).1 (controllerName_ne hserving.named hrun)
    refine .goto hs.apart ⟨_, rfl, Sound.withoutRun
      (hundo.trans hserving.undoes) (fun other hother hne => ?_) hserving.named
      hserving.ready, ?_⟩
    · have hlive := hserving.live other hother
      exact ⟨hlive.1, hasChild_removeChild.mpr ⟨hlive.2, hne⟩⟩
    · unfold CgroupScopeState.withoutRun
      split
      · rfl
      · exact hserving.pending
  · obtain ⟨hsound, hpending⟩ := hundoable
    split at h
    next hinUse =>
      cases h
      refine .finish hs.apart (Or.inr ⟨state, rfl, hsound, hpending, ?_⟩)
      simpa [CgroupScopeState.inUse, hpending] using hinUse
    · cases h
      exact .goto hs.apart ⟨rfl, state, hstate, hsound.undoes, hsound.ready⟩

omit hundoable h in
theorem restore_traceless {pc : RestorePc}
    (hnone : s.Owned fun _ => False) (hrestoring : Restoring original s.created s.tree state pc)
    (hstate : c.state = some state) (h : s.restoreStep c state pc false = some t) :
    Traceless original t := by
  cases pc with
  | start =>
    obtain ⟨hundo, hready⟩ := hrestoring
    simp only [restoreStep, hready, Bool.false_eq_true, if_false] at h
    split at h <;> cases h
    exact .goto hs.apart ⟨rfl, state, hstate, hundo⟩
  | dropSimulatorControllers =>
    have hundo : undo state s.created s.tree = original := hrestoring
    cases h
    exact .goto hs.apart ⟨rfl, state, hstate, undo_dropSimulatorControllers.trans hundo⟩
  | dropRootControllers =>
    have hundo : undo state s.created s.tree = original := hrestoring
    cases h
    exact .goto hs.apart ⟨rfl, state, hstate, undo_dropRootControllers.trans hundo⟩
  | restoreProcesses =>
    have hundo : undo state s.created s.tree = original := hrestoring
    simp only [restoreStep] at h
    split at h
    next hexpected =>
      cases h
      exact .goto hs.apart ⟨rfl, state, hstate,
        (undo_restoreProcesses hexpected).trans hundo, fun _ => processesOf_restored _⟩
    rename_i hexpected
    cases h
    exact .goto hs.apart ⟨rfl, state, hstate, hundo,
      fun hexpected' => absurd hexpected' hexpected⟩
  | check =>
    obtain ⟨hundo, hempty⟩ := hrestoring
    simp only [restoreStep] at h
    split at h <;> cases h
    exact .goto hs.apart ⟨rfl, _, rfl, hundo, hempty⟩
  | writeReady =>
    obtain ⟨hundo, hempty⟩ := hrestoring
    cases h
    exact .goto hs.apart ⟨rfl, state, hstate, hundo, hempty⟩
  | removeController =>
    obtain ⟨hundo, hempty⟩ := hrestoring
    simp only [restoreStep] at h
    split at h
    next hexpected =>
      cases h
      refine .goto hs.apart ⟨rfl, state, hstate,
        (undo_removeController hexpected (hempty hexpected)).trans hundo, fun _ => ?_⟩
      rw [← Bool.not_eq_true, hasChild_removeChild]
      simp
    rename_i hexpected
    cases h
    exact .goto hs.apart ⟨rfl, state, hstate, hundo,
      fun hexpected' => absurd hexpected' hexpected⟩
  | removeSimulator =>
    obtain ⟨hundo, habsent⟩ := hrestoring
    simp only [restoreStep] at h
    split at h
    next hpreexisting =>
      cases h
      refine .goto hs.apart ⟨rfl, state, hstate, hundo, habsent, fun hmade => ?_⟩
      rw [hmade] at hpreexisting
      cases hpreexisting
    rename_i hmade
    split at h <;> cases h
    exact .goto hs.apart ⟨rfl, state, hstate,
      (undo_removeSimulator (by simpa using hmade) habsent).trans hundo,
      fun _ => rfl, fun _ => rfl⟩
  | unlink =>
    obtain ⟨hundo, habsent, hmade⟩ := hrestoring
    simp only [restoreStep] at h
    split at h
    next hcheck =>
      obtain ⟨hroot, hsimulator⟩ := preserved_added hcheck.1
      cases h
      have hself : undo state s.created s.tree = s.tree := by
        refine undo_eq_self hroot (fun simulator hs => ⟨?_, hsimulator simulator hs⟩)
          habsent fun runId hmem => ?_
        · by_contra hpreexisting
          rw [hmade (by simpa using hpreexisting)] at hs
          cases hs
        · exact Bool.eq_false_iff.mpr fun hchild => hnone runId hmem hchild
      exact ⟨hs.apart, fun _ => Or.inl ⟨rfl, hself.symm.trans hundo⟩,
        by rintro _ ⟨⟩⟩
    · cases h

omit hundoable in
theorem perform_traceless (htracked : s.Tracked)
    (hresource : ∀ name ∈ original.names, isResourceCgroupName name = false)
    (hcall : s.call = some c) : Traceless original t := by
  have hundoable := hs.call c hcall
  obtain ⟨hrun, htracks⟩ := htracked.call c hcall
  cases hc : c.pc with
  | load | recover | prune | loadForRemoval => exact load_traceless hs hundoable h (by simp [hc])
  | new | writeNew | makeSimulator | bindSimulator | writeSimulator | makeController =>
    exact start_traceless hs hundoable h hresource (by simp [hc])
  | bindController | writeController | delegateProcesses | addRootControllers
  | addSimulatorControllers => exact delegate_traceless hs hundoable h (by simp [hc])
  | makeRun => exact makeRun_traceless hs hundoable h hrun hc
  | attempt | writePending | bindRun | writeCreated | enableControllers | writeActive =>
    exact prepareRun_traceless hs hundoable h (by simp [hc])
  | removeRun | writeRemoved => exact removeRun_traceless hs hundoable h hrun (by simp [hc])
  | restore pc goesOn =>
    rw [hc] at hundoable htracks
    obtain ⟨rfl, state, hstate, hrestoring⟩ := hundoable
    simp only [perform, hc, hstate, bind_some, stateStep] at h
    exact restore_traceless hs htracks.2 hrestoring hstate h
  | writeRecovered | writeEmpty | rollBackRun | writeRolledBack =>
    rw [hc] at hundoable
    exact hundoable.elim

end Steps

section Runs

open ScopeSystem

variable {config : CgroupScopeConfig} {s t : ScopeSystem}

theorem step_traceless {original : CgroupTree} {a : ScopeAction}
    (hresource : ∀ name ∈ original.names, isResourceCgroupName name = false)
    (hstep : s.step config a = some t) (hguard : failureFree config s a = true)
    (hs : s.Tracked ∧ Traceless original s) : t.Tracked ∧ Traceless original t := by
  obtain ⟨htracked, hs⟩ := hs
  cases a with
  | prepare runId ownership token =>
    have hstep' := hstep
    simp only [step] at hstep
    split at hstep
    next hbegin =>
      have hrest := hs.rest (by simpa using hbegin.1)
      have hkeeps : keepsTrack s (.prepare runId ownership token) = true := by
        rcases hrest with ⟨hnone, _⟩ | ⟨state, hstate, hserving⟩
        · simp [keepsTrack, hnone]
        · simp [keepsTrack, hstate, hserving.pending]
      refine ⟨step_tracked hstep' hkeeps htracked, ?_⟩
      cases hstep
      refine ⟨hs.apart, by simp, fun d hd => ?_⟩
      cases hd
      exact hrest
    · cases hstep
  | remove runId =>
    refine ⟨step_tracked hstep rfl htracked, ?_⟩
    simp only [step] at hstep
    split at hstep
    next hbegin =>
      have hrest := hs.rest (by simpa using hbegin.1)
      cases hstep
      refine ⟨hs.apart, by simp, fun d hd => ?_⟩
      cases hd
      exact hrest
    · cases hstep
  | proceed inode =>
    obtain ⟨c, hc, hperform⟩ := proceed_performs hstep hguard
    exact ⟨step_tracked hstep rfl htracked, perform_traceless hs hperform htracked hresource hc⟩
  | failBefore | failAfter inode | kill => cases hguard

theorem initial_traceless (tree : CgroupTree) : Traceless tree (initial tree) :=
  ⟨fun _ hmem => (List.not_mem_nil hmem).elim, fun _ => Or.inl ⟨rfl, rfl⟩,
    fun _ hc => (nomatch hc)⟩

/-- When no call fails and all prepared runs have been removed, there is no state file and
the whole tree is as it was: the controllers and the processes of the root, and the
simulator cgroup with its controllers and directories, or its absence. -/
theorem scope_leaves_no_trace (tree : CgroupTree)
    (hresource : ∀ name ∈ tree.names, isResourceCgroupName name = false)
    (actions : List ScopeAction)
    (hmeets : (cgroupScopeMachine config).Meets
      (fun s a => failureFree config s a = true) (initial tree) actions)
    (hrun : (cgroupScopeMachine config).run (initial tree) actions = some s) (hidle : s.call = none)
    (hremoved : ∀ runId ∈ s.created, s.tree.hasChild runId = false) :
    s.stateFile = none ∧ s.tree = tree := by
  obtain ⟨_, htraceless⟩ : s.Tracked ∧ Traceless tree s :=
    (cgroupScopeMachine config).meets_preserves
      (fun _ _ _ hstep hguard hs => step_traceless hresource hstep hguard hs) hmeets hrun
      ⟨initial_tracked tree, initial_traceless tree⟩
  rcases htraceless.rest hidle with hnone | ⟨state, hstate, hserving⟩
  · exact hnone
  · obtain ⟨runId, hmem⟩ := List.exists_mem_of_ne_nil _ hserving.active
    have hlive := hserving.live runId hmem
    rw [hremoved runId hlive.1] at hlive
    exact absurd hlive.2 Bool.false_ne_true

/-- A root with two processes that are moved away and back. -/
def delegatedTree : CgroupTree where
  device := 1
  mountId := 1
  rootInode := 1
  rootControllers := ["cpu", "cpuset"]
  rootProcesses := [100, 101]
  simulator := none

def delegatedConfig : CgroupScopeConfig where
  root := "/sys/fs/cgroup"
  simulatorName := "bbp"
  allowRootProcessMove := true
  json := .compact

/-- Two runs share a scope. -/
def twoRuns : List ScopeAction :=
  .prepare "a" none "0123456789abcdef" :: (List.range' 2 19).map .proceed ++
    .prepare "b" none "fedcba9876543210" :: (List.range' 21 10).map .proceed ++
    .remove "a" :: (List.range' 31 3).map .proceed ++
    .remove "b" :: (List.range' 34 12).map .proceed

theorem two_runs_leave_no_trace :
    ∃ s, (cgroupScopeMachine delegatedConfig).run (initial delegatedTree) twoRuns = some s ∧
      "a" ∈ s.created ∧ "b" ∈ s.created ∧ s.stateFile = none ∧ s.tree = delegatedTree := by
  obtain ⟨s, hrun, hs⟩ := (cgroupScopeMachine delegatedConfig).run_of_any
    (initial delegatedTree) twoRuns
    (fun s => decide ("a" ∈ s.created) && decide ("b" ∈ s.created) && s.call.isNone &&
      s.created.all fun runId => !s.tree.hasChild runId)
    (by decide +kernel)
  simp only [Bool.and_eq_true, decide_eq_true_eq, List.all_eq_true, Option.isNone_iff_eq_none,
    Bool.not_eq_true'] at hs
  obtain ⟨⟨⟨ha, hb⟩, hidle⟩, hremoved⟩ := hs
  exact ⟨s, hrun, ha, hb, scope_leaves_no_trace delegatedTree (by decide) twoRuns
    (by decide +kernel) hrun hidle hremoved⟩

end Runs

end Bbp.Cgroup
