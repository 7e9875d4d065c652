import Bbp.CgroupStateUpdates

/-!
# The state file can be loaded

Every state that a call holds is one that the loader accepts, whether the call goes on,
rolls back, recovers an interrupted preparation or restores the scope.  So is every state
that it publishes, and after a kill the file on disk can be loaded.

There are two exceptions.  A new scope takes the resource cgroups of an existing simulator
cgroup over as active runs.  If the processes of the root are to be moved as well, the
first state of the scope is in use and has no controller identity yet, which the loader
refuses.  And the loader reads at most 64 KiB, while the writer has no limit.
-/

namespace Bbp.Cgroup

open Library CgroupTree List

section Trees

namespace CgroupTree

def inodes (tree : CgroupTree) : List Nat := tree.children.map CgroupDirectory.inode

/-- A number that can be that of a directory below the root. -/
def IsInode (tree : CgroupTree) (inode : Nat) : Prop :=
  inode < 2 ^ 64 ∧ inode ≠ 0 ∧ inode ≠ tree.rootInode

/-- The names of controllers in a file of the kernel. -/
def AreControllers (controllers : List String) : Prop :=
  controllers.all isControllerName = true ∧ controllers.Nodup

/-- What holds of the trees of a kernel. -/
structure WellFormed (tree : CgroupTree) : Prop where
  device : tree.device < 2 ^ 64
  mount : tree.mountId < 2 ^ 64 ∧ tree.mountId ≠ 0
  root : tree.rootInode < 2 ^ 64 ∧ tree.rootInode ≠ 0
  rootControllers : AreControllers tree.rootControllers
  simulator : ∀ simulator, tree.simulator = some simulator →
    tree.IsInode simulator.inode ∧ AreControllers simulator.controllers ∧
      ∀ inode ∈ tree.inodes, inode ≠ simulator.inode
  children : ∀ inode ∈ tree.inodes, tree.IsInode inode
  names : tree.names.Nodup

variable {tree : CgroupTree} {inode : Nat} {added controllers : List String}

theorem AreControllers.add (h : AreControllers controllers) (hadded : AreControllers added) :
    AreControllers (controllers ++ added.filter (· ∉ controllers)) := by
  refine ⟨?_, nodup_append.mpr ⟨h.2, hadded.2.filter _, ?_⟩⟩
  · rw [all_append, h.1, all_filter hadded.1]
    rfl
  · rintro controller hmem _ hnew rfl
    have hnot := (mem_filter.mp hnew).2
    simp [hmem] at hnot

theorem AreControllers.drop (h : AreControllers controllers) (p : String → Bool) :
    AreControllers (controllers.filter p) :=
  ⟨all_filter h.1, h.2.filter p⟩

theorem isInode_of_isFresh (h : tree.isFresh inode = true) : tree.IsInode inode := by
  simp only [isFresh, Bool.and_eq_true, bne_iff_ne, decide_eq_true_eq] at h
  exact ⟨h.1.1.1.2, h.1.1.1.1, h.1.1.2⟩

variable (h : tree.WellFormed)

include h

theorem WellFormed.rootIsReadable :
    (tree.identity tree.rootInode).IsReadable :=
  ⟨h.device, h.root.1, h.mount.1, h.root.2, h.mount.2⟩

theorem WellFormed.isReadable (hinode : tree.IsInode inode) : (tree.identity inode).IsReadable :=
  ⟨h.device, hinode.1, h.mount.1, hinode.2.1, h.mount.2⟩

/-- Changes that keep the numbers and the names of the directories, or drop some. -/
theorem WellFormed.change {other : CgroupTree}
    (hdevice : other.device = tree.device) (hmount : other.mountId = tree.mountId)
    (hroot : other.rootInode = tree.rootInode) (hcontrollers : AreControllers other.rootControllers)
    (hsimulator : ∀ simulator, other.simulator = some simulator →
      ∃ old, tree.simulator = some old ∧ simulator.inode = old.inode ∧
        AreControllers simulator.controllers)
    (hinodes : ∀ inode ∈ other.inodes, inode ∈ tree.inodes) (hnames : other.names.Nodup) :
    other.WellFormed := by
  refine ⟨hdevice ▸ h.device, hmount ▸ h.mount, hroot ▸ h.root, hcontrollers, ?_, ?_, hnames⟩
  · intro simulator hs
    obtain ⟨old, hold, hinode, hnew⟩ := hsimulator simulator hs
    obtain ⟨his, _, hother⟩ := h.simulator old hold
    refine ⟨?_, hnew, fun inode hmem => hinode ▸ hother inode (hinodes inode hmem)⟩
    rw [hinode, IsInode, hroot]
    exact his
  · intro inode hmem
    rw [IsInode, hroot]
    exact h.children inode (hinodes inode hmem)

theorem WellFormed.addRootControllers (hadded : AreControllers added) :
    (tree.addRootControllers added).WellFormed :=
  h.change rfl rfl rfl (h.rootControllers.add hadded)
    (fun simulator hs => ⟨simulator, hs, rfl, (h.simulator simulator hs).2.1⟩)
    (fun _ hmem => hmem) h.names

theorem WellFormed.dropRootControllers (dropped : List String) :
    (tree.dropRootControllers dropped).WellFormed :=
  h.change rfl rfl rfl (h.rootControllers.drop _)
    (fun simulator hs => ⟨simulator, hs, rfl, (h.simulator simulator hs).2.1⟩)
    (fun _ hmem => hmem) h.names

/-- Changes of the simulator cgroup that keep its number and add no directory. -/
theorem WellFormed.mapSimulator {f : SimulatorCgroup → SimulatorCgroup} {processes : List Nat}
    (hinode : ∀ simulator, (f simulator).inode = simulator.inode)
    (hchildren : ∀ simulator, (f simulator).children.map (fun child => (child.name, child.inode)) <+
      simulator.children.map fun child => (child.name, child.inode))
    (hcontrollers : ∀ simulator, AreControllers simulator.controllers →
      AreControllers (f simulator).controllers) :
    CgroupTree.WellFormed
      { tree with rootProcesses := processes, simulator := tree.simulator.map f } := by
  have hkept : ((tree.simulator.map f).map SimulatorCgroup.children |>.getD []).map
      (fun child => (child.name, child.inode)) <+
      tree.children.map fun child => (child.name, child.inode) := by
    cases hs : tree.simulator with
    | none => simp
    | some simulator => simpa [CgroupTree.children, hs] using hchildren simulator
  have hinodes := hkept.map Prod.snd
  have hnames := hkept.map Prod.fst
  rw [map_map, map_map] at hinodes hnames
  refine h.change rfl rfl rfl h.rootControllers (fun simulator hs => ?_)
    (fun inode hmem => hinodes.subset hmem) (hnames.nodup h.names)
  obtain ⟨old, hold, rfl⟩ := Option.map_eq_some_iff.mp hs
  exact ⟨old, hold, hinode old, hcontrollers old (h.simulator old hold).2.1⟩

theorem WellFormed.addSimulatorControllers (hadded : AreControllers added) :
    (tree.addSimulatorControllers added).WellFormed :=
  h.mapSimulator (fun _ => rfl) (fun _ => .refl _) fun _ hold => hold.add hadded

theorem WellFormed.dropSimulatorControllers (dropped : List String) :
    (tree.dropSimulatorControllers dropped).WellFormed :=
  h.mapSimulator (fun _ => rfl) (fun _ => .refl _) fun _ hold => hold.drop _

theorem WellFormed.removeChild (removed : String) : (tree.removeChild removed).WellFormed :=
  h.mapSimulator (fun _ => rfl) (fun _ => filter_sublist.map _) fun _ hold => hold

theorem WellFormed.delegateProcesses (moved : String) :
    (tree.delegateProcesses moved).WellFormed := by
  refine h.mapSimulator (fun _ => rfl) (fun _ => ?_) fun _ hold => hold
  dsimp only
  rw [map_unchanged _ fun _ => by split <;> rfl]

theorem WellFormed.restoreProcesses (moved : String) :
    (tree.restoreProcesses moved).WellFormed := by
  refine h.mapSimulator (fun _ => rfl) (fun _ => ?_) fun _ hold => hold
  dsimp only
  rw [map_unchanged _ fun _ => by split <;> rfl]

theorem WellFormed.removeSimulator :
    CgroupTree.WellFormed { tree with simulator := none } :=
  h.change rfl rfl rfl h.rootControllers (fun _ hs => nomatch hs)
    (fun _ hmem => nomatch hmem) nodup_nil

theorem WellFormed.makeSimulator (hfresh : tree.isFresh inode = true) :
    (tree.makeSimulator inode).WellFormed := by
  refine ⟨h.device, h.mount, h.root, h.rootControllers, ?_, fun _ hmem => (nomatch hmem), nodup_nil⟩
  have hinode : tree.IsInode inode := isInode_of_isFresh hfresh
  rintro _ ⟨⟩
  exact ⟨hinode, ⟨rfl, nodup_nil⟩, fun _ hmem => nomatch hmem⟩

theorem WellFormed.makeChild {name : String}
    (hfresh : tree.isFresh inode = true) (hnew : tree.hasChild name = false) :
    (tree.makeChild name inode).WellFormed := by
  cases hs : tree.simulator with
  | none =>
    have hsame : tree.makeChild name inode = tree := by
      cases tree
      simp only at hs
      simp [CgroupTree.makeChild, hs]
    rw [hsame]
    exact h
  | some simulator =>
    have hinodes : (tree.makeChild name inode).inodes = tree.inodes ++ [inode] := by
      simp [CgroupTree.makeChild, inodes, CgroupTree.children, hs]
    have hne : inode ≠ simulator.inode := by
      simp only [isFresh, hs, Option.all_some, Bool.and_eq_true, bne_iff_ne] at hfresh
      exact hfresh.1.2
    refine ⟨h.device, h.mount, h.root, h.rootControllers, ?_, ?_, ?_⟩
    · rintro _ hmade
      simp only [CgroupTree.makeChild, hs, Option.map_some, Option.some.injEq] at hmade
      subst hmade
      obtain ⟨his, hcontrollers, hothers⟩ := h.simulator simulator hs
      refine ⟨his, hcontrollers, fun other hmem => ?_⟩
      rw [hinodes] at hmem
      rcases mem_append.mp hmem with hold | hlast
      · exact hothers other hold
      · rw [mem_singleton.mp hlast]
        exact hne
    · intro other hmem
      rw [hinodes] at hmem
      rcases mem_append.mp hmem with hold | hlast
      · exact h.children other hold
      · rw [mem_singleton.mp hlast]
        have hinode : tree.IsInode inode := isInode_of_isFresh hfresh
        exact hinode
    · rw [names_makeChild hs]
      refine nodup_append.mpr ⟨h.names, nodup_singleton name, ?_⟩
      rintro other hmem _ (hlast : _ ∈ [name]) rfl
      rw [mem_singleton.mp hlast] at hmem
      rw [hasChild_iff.mpr hmem] at hnew
      cases hnew

end CgroupTree

end Trees

section Scopes

open CgroupTree

variable {config : CgroupScopeConfig} {state : CgroupScopeState} {tree : CgroupTree}
  {simulator : SimulatorCgroup}

/-- A bound on the bytes of the state of a new scope. -/
def newScopeBytes (config : CgroupScopeConfig) (tree : CgroupTree) : Nat :=
  1300 + Json.escapedSize config.root + Json.escapedSize config.simulatorName +
    namesBytes tree.rootControllers +
    namesBytes ((tree.simulator.map SimulatorCgroup.controllers).getD []) +
    namesBytes (tree.names.filter isResourceCgroupName)

theorem isSafeRunId_of_isResourceCgroupName {name : String} (h : isResourceCgroupName name = true) :
    isSafeRunId name = true := by
  simp only [isResourceCgroupName, Bool.and_eq_true, beq_iff_eq, all_eq_true] at h
  simp only [isSafeRunId, Bool.and_eq_true, decide_eq_true_eq, all_eq_true]
  refine ⟨⟨by omega, by omega⟩, fun c hc => ?_⟩
  have hchar := h.2 c hc
  simp only [Bool.or_eq_true, Bool.and_eq_true, decide_eq_true_eq] at hchar
  rcases hchar with hdigit | ⟨hlow, hhigh⟩
  · simp [hdigit]
  · have hlower : c.isLower = true := by
      simp only [Char.isLower, Bool.and_eq_true, decide_eq_true_eq]
      exact ⟨hlow, UInt32.le_trans hhigh (by decide)⟩
    simp [hlower]

theorem managed_filter (p : String → Bool) :
    (managedControllers.filter p).all ScopeSetKind.managedControllers.admits = true ∧
      (managedControllers.filter p).Nodup := by
  have hall : managedControllers.all ScopeSetKind.managedControllers.admits = true := by
    decide +kernel
  have hnodup : managedControllers.Nodup := by decide +kernel
  exact ⟨all_filter hall, hnodup.filter p⟩

/-- A scope that has just been set up. -/
structure SetUp (tree : CgroupTree) (state : CgroupScopeState) : Prop where
  root : state.rootIdentity = some (tree.identity tree.rootInode)
  controller : state.controllerIdentity = none
  ready : state.restorationReady = false
  pending : state.pendingRun = none

theorem setUp_new (config : CgroupScopeConfig) (tree : CgroupTree) (token : String) :
    SetUp tree (newCgroupScopeState config tree token) :=
  ⟨rfl, rfl, rfl, rfl⟩

theorem stateBytes_new {token : String} (htoken : token.length = 16) :
    stateBytes (newCgroupScopeState config tree token) ≤ newScopeBytes config tree := by
  have hname : Json.escapedSize (ownedControllerPrefix ++ token) ≤ 210 := by
    have hsize := Json.escapedSize_le (ownedControllerPrefix ++ token)
    have hlead : ownedControllerPrefix.length = 19 := by decide +kernel
    rw [String.length_append, hlead, htoken] at hsize
    exact hsize
  have hadded : ∀ p, namesBytes (managedControllers.filter p) ≤ 27 := by
    intro p
    have hall : namesBytes managedControllers = 27 := by decide +kernel
    exact hall ▸ namesBytes_filter p managedControllers
  have hroot := hadded fun controller => decide (controller ∉ tree.rootControllers)
  have hsimulator := hadded fun controller =>
    decide (controller ∉ (tree.simulator.map SimulatorCgroup.controllers).getD [])
  have hbindings : bindingsBytes [] = 0 := rfl
  unfold stateBytes newScopeBytes
  simp only [newCgroupScopeState, names, hbindings]
  omega

/-- The first state of a scope fits, unless it takes runs over and expects a controller. -/
theorem Fits.new {token : String} (htree : tree.WellFormed) (htoken : token.length = 16)
    (hroot : config.allowRootProcessMove = false →
      (newCgroupScopeState config tree token).rootControllersAdded = [])
    (hruns : config.allowRootProcessMove = true →
      ∀ name ∈ tree.names, isResourceCgroupName name = false)
    (hsize : newScopeBytes config tree ≤ 64 * 1024) :
    Fits config (newCgroupScopeState config tree token) := by
  have hidentity : ∀ identity,
      (tree.simulator.map fun simulator => tree.identity simulator.inode) = some identity →
      ∃ simulator, tree.simulator = some simulator ∧ tree.identity simulator.inode = identity := by
    intro identity h
    exact Option.map_eq_some_iff.mp h
  have hbefore : AreControllers ((tree.simulator.map SimulatorCgroup.controllers).getD []) := by
    cases hs : tree.simulator with
    | none => exact ⟨rfl, nodup_nil⟩
    | some simulator => exact (htree.simulator simulator hs).2.1
  have hused : (newCgroupScopeState config tree token).inUse = true →
      tree.simulator.isSome = true := by
    intro hused
    cases hs : tree.simulator with
    | none => simp [CgroupScopeState.inUse, newCgroupScopeState, children, hs] at hused
    | some simulator => rfl
  have hrootAdded := managed_filter fun controller => decide (controller ∉ tree.rootControllers)
  have hsimulatorAdded := managed_filter fun controller =>
    decide (controller ∉ (tree.simulator.map SimulatorCgroup.controllers).getD [])
  refine ⟨⟨?_, ?_, by rintro _ ⟨⟩, htree.rootControllers, hbefore,
    hrootAdded, hsimulatorAdded, ⟨?_, htree.names.filter _⟩,
    by rintro _ ⟨⟩, rfl⟩, ?_, (stateBytes_new htoken).trans hsize⟩
  · rintro _ ⟨⟩
    exact htree.rootIsReadable
  · intro identity h
    obtain ⟨simulator, hs, rfl⟩ := hidentity identity h
    exact htree.isReadable (htree.simulator simulator hs).1
  · exact all_eq_true.mpr fun name hmem =>
      isSafeRunId_of_isResourceCgroupName (mem_filter.mp hmem).2
  · refine ⟨rfl, rfl, ?_, ?_, rfl, ?_, rfl, rfl, ?_, ?_, ?_, rfl, ?_, rfl⟩
    · have hlength : (ownedControllerPrefix ++ token).length =
          ownedControllerPrefix.length + 16 := by
        rw [String.length_append, htoken]
      have hlead : ownedControllerPrefix.toList.isPrefixOf
          (ownedControllerPrefix ++ token).toList = true := by
        rw [String.toList_append, isPrefixOf_iff_prefix]
        exact prefix_append _ _
      simp only [CgroupScopeState.matchesConfig, newCgroupScopeState, BEq.rfl, hlead,
        hlength, Bool.and_self]
    · simp only [CgroupScopeState.controllersAreConsistent, newCgroupScopeState, Bool.and_eq_true]
      refine ⟨⟨?_, ?_⟩, ?_⟩
      iterate 2
        · exact all_eq_true.mpr fun controller hmem => (mem_filter.mp hmem).2
      · cases tree.simulator <;> rfl
    · simp only [newCgroupScopeState, Option.isSome_map]
      cases tree.simulator <;> rfl
    · cases hallow : config.allowRootProcessMove with
      | true => simp [newCgroupScopeState, hallow]
      | false => simp [hroot hallow]
    · cases hinUse : (newCgroupScopeState config tree token).inUse with
      | false => rfl
      | true => simp [newCgroupScopeState, hused hinUse]
    · cases hallow : config.allowRootProcessMove with
      | false => simp [newCgroupScopeState, hallow]
      | true =>
        have hempty : (newCgroupScopeState config tree token).activeRuns = [] :=
          filter_eq_nil_iff.mpr fun name hmem => by simp [hruns hallow name hmem]
        have hfree : (newCgroupScopeState config tree token).inUse = false := by
          rw [CgroupScopeState.inUse, hempty]
          rfl
        rw [hfree]
        rfl
    · simp only [CgroupScopeState.simulatorIsBelowRoot, newCgroupScopeState]
      cases hs : tree.simulator with
      | none => rfl
      | some simulator =>
        have hne := (htree.simulator simulator hs).1.2.2
        simp [CgroupScopeState.isBelow, identity, hne]

theorem Fits.bindSimulator (h : Fits config state) (htree : tree.WellFormed)
    (hsetUp : SetUp tree state) (hs : tree.simulator = some simulator) :
    Fits config
      { state with simulatorIdentity := some (tree.identity simulator.inode) } := by
  have hinode := (htree.simulator simulator hs).1
  obtain ⟨hreadable, hconsistent, hsize⟩ := h
  refine ⟨{ hreadable with simulatorIdentity := ?_ }, ?_, hsize⟩
  · rintro _ ⟨⟩
    exact htree.isReadable hinode
  · refine
      { hconsistent with
        preexisting := by simp
        simulator := by simp
        usedSimulator := by simp
        belowRoot := ?_
        belowSimulator := ?_ }
    · simp [CgroupScopeState.simulatorIsBelowRoot, hsetUp.root, CgroupScopeState.isBelow,
        identity, hinode.2.2]
    · simp [CgroupScopeState.controllerIsBelowSimulator, hsetUp.controller]

theorem Fits.bindController (h : Fits config state) (htree : tree.WellFormed)
    (hsetUp : SetUp tree state) (hexpected : state.controllerExpected = true)
    (hs : tree.simulator = some simulator)
    (hknown : state.simulatorIdentity = some (tree.identity simulator.inode))
    {directory : CgroupDirectory} (hmem : directory ∈ tree.children) :
    Fits config
      { state with controllerIdentity := some (tree.identity directory.inode) } := by
  have hinodes : directory.inode ∈ tree.inodes := mem_map_of_mem hmem
  have hinode := htree.children directory.inode hinodes
  have hne := (htree.simulator simulator hs).2.2 directory.inode hinodes
  obtain ⟨hreadable, hconsistent, hsize⟩ := h
  refine ⟨{ hreadable with controllerIdentity := ?_ }, ?_, hsize⟩
  · rintro _ ⟨⟩
    exact htree.isReadable hinode
  · refine
      { hconsistent with
        unexpected := by simp [hexpected]
        simulator := by simp [hknown]
        usedController := by simp
        belowSimulator := ?_ }
    simp [CgroupScopeState.controllerIsBelowSimulator, hsetUp.root, hknown,
      CgroupScopeState.isBelow, identity, hinode.2.2, hne]

end Scopes

section Invariant

namespace ScopeCall

/-- The arguments of a preparation. -/
structure AreArguments (runId : String) (ownership : Option CgroupRunBinding)
    (token : String) : Prop where
  run : isSafeRunId runId = true
  token : token.length = 16
  ownership : ∀ binding, ownership = some binding →
    ScopeSystem.step.isOwnership runId binding = true

/-- What the variables of a call do not change. -/
def Prepares (c : ScopeCall) : Prop := AreArguments c.runId c.ownership c.token

/-- There is room for the run in the state. -/
def HasRoom (c : ScopeCall) (state : CgroupScopeState) : Prop :=
  stateBytes state + runBytes c.runId c.ownership ≤ 64 * 1024

end ScopeCall

/-- What the call relies on, apart from its state being one that fits. -/
def Relies (s : ScopeSystem) (c : ScopeCall) (state : CgroupScopeState) : ScopePc → Prop
  | .recover => c.HasRoom state
  | .writeRecovered | .prune => c.HasRoom state ∧ state.pendingRun = none
  | .restore pc _ => pc = .start ∨ (state.inUse = false ∧ state.runBindings = [])
  | .writeNew | .makeSimulator =>
    c.HasRoom state ∧ SetUp s.tree state ∧ state.simulatorIdentity =
      s.tree.simulator.map fun simulator => s.tree.identity simulator.inode
  | .bindSimulator => c.HasRoom state ∧ SetUp s.tree state
  | .writeSimulator | .makeController =>
    c.HasRoom state ∧ SetUp s.tree state ∧
      ∃ simulator, s.tree.simulator = some simulator ∧
        state.simulatorIdentity = some (s.tree.identity simulator.inode)
  | .bindController =>
    c.HasRoom state ∧ SetUp s.tree state ∧ state.controllerExpected = true ∧
      ∃ simulator, s.tree.simulator = some simulator ∧
        state.simulatorIdentity = some (s.tree.identity simulator.inode)
  | .writeController | .delegateProcesses | .addRootControllers
  | .addSimulatorControllers | .attempt => c.HasRoom state ∧ Founded state
  | .writePending | .makeRun | .bindRun =>
    c.HasRoom state ∧ state.pendingRun = some c.runId ∧ c.runId ∉ state.activeRuns
  | .writeCreated | .enableControllers =>
    stateBytes state + namesBytes [c.runId] ≤ 64 * 1024 ∧
      state.pendingRun = some c.runId ∧ c.runId ∉ state.activeRuns
  | _ => True

/-- The call is a preparation that has not yet come to its run, or goes on to it. -/
def isPreparing : ScopePc → Bool
  | .writeActive | .rollBackRun | .writeRolledBack | .loadForRemoval | .removeRun
  | .writeRemoved => false
  | .restore _ goesOn => goesOn
  | _ => true

/-- Every state that is held or published fits. -/
structure Filed (config : CgroupScopeConfig) (s : ScopeSystem) : Prop where
  tree : s.tree.WellFormed
  disk : ∀ state, s.stateFile = some state → Fits config state
  prepares : ∀ c, s.call = some c → isPreparing c.pc = true → c.Prepares
  room : ∀ c state, s.call = some c → c.pc = .load → s.stateFile = some state → c.HasRoom state
  held : ∀ c state, s.call = some c → c.state = some state →
    Fits config state ∧ Relies s c state c.pc

end Invariant

section Steps

open ScopeSystem

variable {config : CgroupScopeConfig} {s t : ScopeSystem} {c : ScopeCall} {inode : Nat}
  {state : CgroupScopeState} {pc : ScopePc}

theorem Filed.goto (htree : s.tree.WellFormed)
    (hdisk : ∀ state, s.stateFile = some state → Fits config state) (hload : pc ≠ .load)
    (hprepares : isPreparing pc = true → c.Prepares)
    (hheld : ∀ state, c.state = some state → Fits config state ∧ Relies s { c with pc } state pc) :
    Filed config (s.goto c pc) := by
  refine ⟨htree, hdisk, ?_, ?_, ?_⟩
  · rintro _ ⟨⟩ hpreparing
    exact hprepares hpreparing
  · rintro _ state ⟨⟩ hpc
    exact absurd hpc hload
  · rintro _ state ⟨⟩ hstate
    refine ⟨(hheld state hstate).1, ?_⟩
    have hrelies := (hheld state hstate).2
    cases pc <;> exact hrelies

theorem Filed.finish (htree : s.tree.WellFormed)
    (hdisk : ∀ state, s.stateFile = some state → Fits config state) : Filed config s.finish :=
  ⟨htree, hdisk, fun _ hc => (nomatch hc), fun _ _ hc => (nomatch hc),
    fun _ _ hc => (nomatch hc)⟩

theorem Filed.move {tree : CgroupTree} {created : List String} (hs : Filed config s)
    (htree : tree.WellFormed) (hload : pc ≠ .load) (hprepares : isPreparing pc = true → c.Prepares)
    (hstate : c.state = some state) (hfits : Fits config state)
    (hrelies : Relies { s with tree, created } { c with pc } state pc) :
    Filed config (ScopeSystem.goto { s with tree, created } c pc) := by
  refine .goto htree hs.disk hload hprepares fun other hother => ?_
  obtain rfl := Option.some.inj (hstate.symm.trans hother)
  exact ⟨hfits, hrelies⟩

theorem Filed.change (hs : Filed config s) (hload : pc ≠ .load)
    (hprepares : isPreparing pc = true → c.Prepares) (hstate : c.state = some state)
    (hfits : Fits config state) (hrelies : Relies s { c with pc } state pc) :
    Filed config (s.goto c pc) :=
  .move hs hs.tree hload hprepares hstate hfits hrelies

theorem Filed.publish (hs : Filed config s) (hload : pc ≠ .load)
    (hprepares : isPreparing pc = true → c.Prepares) (hstate : c.state = some state)
    (hfits : Fits config state) (hrelies : Relies (s.publish state) { c with pc } state pc) :
    Filed config ((s.publish state).goto c pc) := by
  have hdisk : ∀ other, (s.publish state).stateFile = some other → Fits config other := by
    rintro _ ⟨⟩
    exact hfits
  refine .goto hs.tree hdisk hload hprepares fun other hother => ?_
  obtain rfl := Option.some.inj (hstate.symm.trans hother)
  exact ⟨hfits, hrelies⟩

theorem Filed.publishLast (hs : Filed config s) (hfits : Fits config state) :
    Filed config (s.publish state).finish := by
  refine .finish hs.tree ?_
  rintro _ ⟨⟩
  exact hfits

/-- Wherever a call fails, it ends or rolls back with a state that fits. -/
theorem caught_filed (htree : s.tree.WellFormed)
    (hdisk : ∀ state, s.stateFile = some state → Fits config state)
    (hheld : ∀ state, c.state = some state → Fits config state) : Filed config (s.caught c) := by
  have hgoto : ∀ {d : ScopeCall} {pc : ScopePc}, pc = .rollBackRun ∨ pc = .writeRolledBack →
      (∀ state, d.state = some state → Fits config state) → Filed config (s.goto d pc) := by
    intro d pc hpc hd
    rcases hpc with rfl | rfl
    all_goals
      exact .goto htree hdisk nofun nofun fun state hstate => ⟨hd state hstate, trivial⟩
  unfold caught
  split
  case h_1 | h_2 | h_3 => exact .finish htree hdisk
  case h_4 =>
    split
    · exact .finish htree hdisk
    rename_i state hstate
    split
    · exact hgoto (Or.inl rfl) hheld
    split
    · refine hgoto (Or.inr rfl) ?_
      rintro _ ⟨⟩
      exact (hheld state hstate).withoutRun c.runId
    · split
      · exact hgoto (Or.inr rfl) hheld
      · exact .finish htree hdisk

/-- A binding from the arguments of a preparation can be read back. -/
theorem isReadable_ownership (htree : s.tree.WellFormed) {runId : String}
    {binding : CgroupRunBinding} {directory : CgroupDirectory}
    (h : ScopeSystem.step.isOwnership runId binding = true) (hmem : directory ∈ s.tree.children) :
    CgroupRunBinding.IsReadable runId
      { binding with cgroupIdentity := (s.tree.identity directory.inode).path } := by
  have hinode := htree.children directory.inode (mem_map_of_mem hmem)
  simp only [step.isOwnership, Bool.and_eq_true, beq_iff_eq, bne_iff_ne, decide_eq_true_eq] at h
  obtain ⟨⟨⟨⟨⟨⟨hname, hrun⟩, hroot⟩, hid⟩, hnonzero⟩, hbound⟩, hdevice⟩ := h
  exact ⟨hname, hdevice, hbound, htree.device, hinode.1, hrun, hroot, hid, hnonzero, hinode.2.1⟩

section Stateful

variable (hs : Filed config s) (hstate : c.state = some state) (hfits : Fits config state)
  (hrelies : Relies s c state c.pc) (hprepares : isPreparing c.pc = true → c.Prepares)
  (h : s.stateStep c inode state = some t)

include hs hstate hfits hrelies hprepares h

theorem write_filed
    (hpc : c.pc ∈ [.writeEmpty, .writeRecovered, .writeNew, .writeSimulator,
      .writeController, .writePending, .writeCreated, .writeActive, .writeRolledBack,
      .writeRemoved]) :
    Filed config t := by
  simp only [mem_cons, not_mem_nil, or_false] at hpc
  rcases hpc with hpc | hpc | hpc | hpc | hpc | hpc | hpc | hpc | hpc | hpc
  all_goals
    rw [hpc] at hrelies hprepares
    simp only [stateStep, hpc] at h
  · cases h
    exact .publish hs (by decide) hprepares hstate hfits (Or.inl rfl)
  iterate 6
    · cases h
      exact .publish hs (by decide) hprepares hstate hfits hrelies
  · cases h
    exact .publishLast hs hfits
  · split at h
    · cases h
      exact .publish hs (by decide) Bool.noConfusion hstate hfits (Or.inl rfl)
    · cases h
      exact .publishLast hs hfits
  · split at h
    · cases h
      exact .publishLast hs hfits
    · cases h
      exact .publish hs (by decide) Bool.noConfusion hstate hfits (Or.inl rfl)

theorem start_filed (hfresh : s.tree.isFresh inode = true)
    (hpc : c.pc ∈ [.makeSimulator, .bindSimulator, .makeController, .bindController,
      .delegateProcesses, .addRootControllers, .addSimulatorControllers]) :
    Filed config t := by
  have hadded : ∀ {added : List String},
      (added.all ScopeSetKind.managedControllers.admits = true ∧ added.Nodup) →
      CgroupTree.AreControllers added := by
    intro added hall
    refine ⟨all_eq_true.mpr fun controller hmem => ?_, hall.2⟩
    have hadmits := all_eq_true.mp hall.1 controller hmem
    simp only [ScopeSetKind.admits, Bool.and_eq_true] at hadmits
    exact hadmits.1
  simp only [mem_cons, not_mem_nil, or_false] at hpc
  rcases hpc with hpc | hpc | hpc | hpc | hpc | hpc | hpc
  all_goals
    rw [hpc] at hrelies hprepares
    simp only [stateStep, hpc] at h
  · obtain ⟨hroom, hsetUp, hknown⟩ := hrelies
    split at h
    · rename_i hsome
      obtain ⟨simulator, hsimulator⟩ := Option.isSome_iff_exists.mp hsome
      cases h
      refine .change hs (by decide) hprepares hstate hfits
        ⟨hroom, hsetUp, simulator, hsimulator, ?_⟩
      rw [hknown, hsimulator, Option.map_some]
    · cases h
      exact .move hs (hs.tree.makeSimulator hfresh) (by decide) hprepares hstate hfits
        ⟨hroom, { hsetUp with }⟩
  · obtain ⟨hroom, hsetUp⟩ := hrelies
    split at h <;> cases h
    rename_i simulator hsimulator
    exact .change hs (by decide) hprepares rfl (hfits.bindSimulator hs.tree hsetUp hsimulator)
      ⟨hroom, { hsetUp with }, simulator, hsimulator, rfl⟩
  · obtain ⟨hroom, hsetUp, simulator, hsimulator, hknown⟩ := hrelies
    split at h
    · rename_i hexpected
      split at h <;> cases h
      rename_i hchild
      have hmade : (s.tree.makeChild state.controllerName inode).simulator = some { simulator with
            children := simulator.children ++ [{ name := state.controllerName, inode }] } := by
        simp only [makeChild, hsimulator, Option.map_some]
      exact .move hs (hs.tree.makeChild hfresh (by simpa using hchild)) (by decide)
        hprepares hstate hfits ⟨hroom, { hsetUp with }, hexpected, _, hmade, hknown⟩
    · rename_i hexpected
      cases h
      refine .change hs (by decide) hprepares hstate hfits
        ⟨hroom, ?_, fun hexpected' => absurd hexpected' hexpected, hsetUp.ready, hsetUp.pending⟩
      rw [hknown]
      rfl
  · obtain ⟨hroom, hsetUp, hexpected, simulator, hsimulator, hknown⟩ := hrelies
    split at h <;> cases h
    rename_i directory hdirectory
    refine .change hs (by decide) hprepares rfl
      (hfits.bindController hs.tree hsetUp hexpected hsimulator hknown
        (mem_of_find?_eq_some hdirectory))
      ⟨hroom, ?_, fun _ => rfl, hsetUp.ready, hsetUp.pending⟩
    rw [hknown]
    rfl
  · cases h
    exact .move hs (hs.tree.delegateProcesses _) (by decide) hprepares hstate hfits hrelies
  · cases h
    exact .move hs (hs.tree.addRootControllers (hadded hfits.readable.rootControllersAdded))
      (by decide) hprepares hstate hfits hrelies
  · cases h
    exact .move hs
      (hs.tree.addSimulatorControllers (hadded hfits.readable.simulatorControllersAdded))
      (by decide) hprepares hstate hfits hrelies

omit hstate in
theorem recover_filed (hpc : c.pc ∈ [.recover, .prune]) : Filed config t := by
  simp only [mem_cons, not_mem_nil, or_false] at hpc
  rcases hpc with hpc | hpc
  all_goals
    rw [hpc] at hrelies hprepares
    simp only [stateStep, hpc] at h
  · have hroom : c.HasRoom state := hrelies
    split at h
    · rename_i hnone
      cases h
      exact .change hs (by decide) hprepares rfl hfits ⟨hroom, hnone⟩
    rename_i runId hsome
    have hbytes : stateBytes (state.recovered runId) ≤ stateBytes state := by
      have hbytes := stateBytes_filter state (fun _ => true) (fun entry => entry.1 ≠ runId)
        none false
      rw [filter_true] at hbytes
      exact hbytes
    have hroom' : c.HasRoom (state.recovered runId) := (Nat.add_le_add_right hbytes _).trans hroom
    split at h
    · split at h <;> cases h
      exact .move hs (hs.tree.removeChild runId) (by decide) hprepares rfl
        (hfits.recovered hsome) ⟨hroom', rfl⟩
    · cases h
      exact .change hs (by decide) hprepares rfl (hfits.recovered hsome) ⟨hroom', rfl⟩
  · obtain ⟨hroom, hpending⟩ := hrelies
    have hbytes : stateBytes (state.pruned s.tree) ≤ stateBytes state :=
      stateBytes_filter state s.tree.hasChild _ state.pendingRun state.pendingRunCreated
    split at h
    · split at h
      · cases h
        exact .change hs (by decide) hprepares rfl (hfits.pruned hpending s.tree) trivial
      rename_i hactive
      cases h
      exact .change hs (by decide) hprepares rfl (hfits.pruned hpending s.tree)
        ⟨(Nat.add_le_add_right hbytes _).trans hroom,
          (hfits.pruned hpending s.tree).founded hpending hactive⟩
    · cases h

theorem run_filed (hfresh : s.tree.isFresh inode = true)
    (hpc : c.pc ∈ [.attempt, .makeRun, .bindRun, .enableControllers, .rollBackRun,
      .removeRun]) :
    Filed config t := by
  simp only [mem_cons, not_mem_nil, or_false] at hpc
  rcases hpc with hpc | hpc | hpc | hpc | hpc | hpc
  all_goals
    rw [hpc] at hrelies hprepares
    simp only [stateStep, hpc] at h
  · obtain ⟨hroom, hfounded⟩ := hrelies
    have hp := hprepares rfl
    split at h <;> cases h
    rename_i hnew
    exact .change hs (by decide) hprepares rfl (hfits.attempt hfounded hp.run) ⟨hroom, rfl, hnew⟩
  · split at h
    · cases h
    rename_i hcheck
    simp only [not_or, Bool.not_eq_true] at hcheck
    cases h
    exact .move hs (hs.tree.makeChild hfresh hcheck.2) (by decide) hprepares hstate hfits hrelies
  · obtain ⟨hroom, hpending, hnew⟩ := hrelies
    have hp := hprepares rfl
    split at h <;> cases h
    rename_i directory hdirectory
    have hownership : ∀ binding, (c.ownership.map fun binding : CgroupRunBinding =>
          { binding with cgroupIdentity := (s.tree.identity directory.inode).path }) =
            some binding → binding.IsReadable c.runId := by
      intro binding hbinding
      obtain ⟨given, hgiven, rfl⟩ := Option.map_eq_some_iff.mp hbinding
      exact isReadable_ownership hs.tree (hp.ownership given hgiven)
        (mem_of_find?_eq_some hdirectory)
    have hbytes : runBytes c.runId (c.ownership.map fun binding : CgroupRunBinding =>
          { binding with cgroupIdentity := (s.tree.identity directory.inode).path }) =
        runBytes c.runId c.ownership := by
      cases c.ownership <;> rfl
    have hcreated := hfits.created hpending hownership (hbytes ▸ hroom)
    exact .change hs (by decide) hprepares rfl hcreated.1 ⟨hcreated.2, hpending, hnew⟩
  · obtain ⟨hsize, hpending, hnew⟩ := hrelies
    cases h
    exact .change hs (by decide) Bool.noConfusion rfl
      (hfits.activate hpending (hprepares rfl).run hnew hsize) trivial
  · cases h
    exact .move hs (hs.tree.removeChild _) (by decide) Bool.noConfusion rfl
      (hfits.withoutRun c.runId) trivial
  · split at h <;> cases h
    exact .move hs (hs.tree.removeChild _) (by decide) Bool.noConfusion rfl
      (hfits.withoutRun c.runId) trivial

end Stateful

section Calls

variable (hs : Filed config s)

include hs

theorem restore_filed {pc : RestorePc} {goesOn : Bool}
    (hstate : c.state = some state) (hfits : Fits config state)
    (hrelies : Relies s c state (.restore pc goesOn)) (hprepares : goesOn = true → c.Prepares)
    (h : s.restoreStep c state pc goesOn = some t) : Filed config t := by
  have hnext : ∀ {tree : CgroupTree} {next : RestorePc}, tree.WellFormed →
      (state.inUse = false ∧ state.runBindings = []) →
      Filed config (ScopeSystem.goto { s with tree } c (.restore next goesOn)) := by
    intro tree next htree hfree
    exact .move hs htree (by simp) hprepares hstate hfits (Or.inr hfree)
  have hfree : pc ≠ .start → state.inUse = false ∧ state.runBindings = [] := hrelies.resolve_left
  cases pc with
  | start =>
    simp only [restoreStep] at h
    split at h
    · cases h
    rename_i hcheck
    simp only [not_or, not_not, Bool.not_eq_true] at hcheck
    have hfree : state.inUse = false ∧ state.runBindings = [] := ⟨hcheck.1, hcheck.2.1⟩
    split at h
    all_goals
      cases h
      exact hnext hs.tree hfree
  | dropSimulatorControllers =>
    cases h
    exact hnext (hs.tree.dropSimulatorControllers _) (hfree (by decide))
  | dropRootControllers =>
    cases h
    exact hnext (hs.tree.dropRootControllers _) (hfree (by decide))
  | restoreProcesses =>
    simp only [restoreStep] at h
    split at h
    · cases h
      exact hnext (hs.tree.restoreProcesses _) (hfree (by decide))
    · cases h
      exact hnext hs.tree (hfree (by decide))
  | check =>
    simp only [restoreStep] at h
    split at h <;> cases h
    have hused := hfree (by decide)
    exact .change hs (by simp) hprepares rfl
      (hfits.markReady hused.1 hused.2) (Or.inr hused)
  | writeReady =>
    cases h
    exact .publish hs (by simp) hprepares hstate hfits (Or.inr (hfree (by decide)))
  | removeController =>
    simp only [restoreStep] at h
    split at h
    · cases h
      exact hnext (hs.tree.removeChild _) (hfree (by decide))
    · cases h
      exact hnext hs.tree (hfree (by decide))
  | removeSimulator =>
    simp only [restoreStep] at h
    split at h
    · cases h
      exact hnext hs.tree (hfree (by decide))
    split at h <;> cases h
    exact hnext hs.tree.removeSimulator (hfree (by decide))
  | unlink =>
    simp only [restoreStep] at h
    split at h
    · split at h
      · rename_i hgoes
        cases h
        refine ⟨hs.tree, ?_, ?_, ?_, ?_⟩
        · rintro _ ⟨⟩
        · rintro _ ⟨⟩ _
          exact hprepares hgoes
        · rintro _ _ ⟨⟩ ⟨⟩
        · rintro _ _ ⟨⟩ ⟨⟩
      · cases h
        exact @Filed.finish config { s with stateFile := none } hs.tree (by rintro _ ⟨⟩)
    · cases h

/-- A new scope takes no runs over when it moves processes, and its state is small. -/
def suitsNewScope (config : CgroupScopeConfig) (s : ScopeSystem) (c : ScopeCall) : Bool :=
  !(config.allowRootProcessMove && s.tree.names.any isResourceCgroupName) &&
    decide (newScopeBytes config s.tree + runBytes c.runId c.ownership ≤ 64 * 1024)

theorem new_filed (hcall : s.call = some c) (hpc : c.pc = .new)
    (hsuits : suitsNewScope config s c = true) (h : s.perform config c inode = some t) :
    Filed config t := by
  have hp := hs.prepares c hcall (by rw [hpc]; rfl)
  simp only [suitsNewScope, Bool.and_eq_true, Bool.not_eq_true', decide_eq_true_eq] at hsuits
  obtain ⟨hruns, hsize⟩ := hsuits
  have hbytes : stateBytes (newCgroupScopeState config s.tree c.token) ≤
      newScopeBytes config s.tree := stateBytes_new hp.token
  simp only [perform, hpc] at h
  split at h
  · cases h
  rename_i hcheck
  simp only [not_or, not_and, not_not, Bool.not_eq_true'] at hcheck
  cases h
  refine .change hs (by decide) (fun _ => hp) rfl
    (Fits.new hs.tree hp.token hcheck.1 (fun hallow => ?_) ((Nat.le_add_right _ _).trans hsize))
    ⟨(Nat.add_le_add_right hbytes _).trans hsize, setUp_new config s.tree c.token, rfl⟩
  rw [hallow, Bool.true_and, any_eq_false] at hruns
  simpa using hruns

theorem load_filed (hcall : s.call = some c)
    (hpc : c.pc ∈ [.load, .loadForRemoval]) (h : s.perform config c inode = some t) :
    Filed config t := by
  have hprepares := hs.prepares c hcall
  simp only [mem_cons, not_mem_nil, or_false] at hpc
  rcases hpc with hpc | hpc
  all_goals
    rw [hpc] at hprepares
    simp only [perform, hpc] at h
  · split at h
    · cases h
      refine .goto hs.tree hs.disk (by decide) hprepares fun state hstate => ?_
      exact ⟨(hs.held c state hcall hstate).1, trivial⟩
    obtain ⟨state, hload, rfl⟩ := Option.map_eq_some_iff.mp h
    have hfile := loadStep_eq hload
    exact .change hs (by decide) hprepares rfl (hs.disk state hfile)
      (hs.room c state hcall hpc hfile)
  · split at h
    · split at h <;> cases h
      exact .finish hs.tree hs.disk
    obtain ⟨state, hload, h⟩ := Option.bind_eq_some_iff.mp h
    have hfits := hs.disk state (loadStep_eq hload)
    unfold removalStep at h
    split at h
    · cases h
      exact .change hs (by decide) Bool.noConfusion rfl hfits trivial
    split at h
    · cases h
    split at h
    · cases h
      exact .finish hs.tree hs.disk
    · cases h
      exact .change hs (by decide) Bool.noConfusion rfl hfits (Or.inl rfl)

theorem perform_filed (hfresh : s.tree.isFresh inode = true)
    (hcall : s.call = some c) (hsuits : c.pc = .new → suitsNewScope config s c = true)
    (h : s.perform config c inode = some t) : Filed config t := by
  by_cases hnew : c.pc = .new
  · exact new_filed hs hcall hnew (hsuits hnew) h
  by_cases hload : c.pc ∈ [.load, .loadForRemoval]
  · exact load_filed hs hcall hload h
  obtain ⟨state, hstate, hstep⟩ := stateStep_of_perform h (by simpa [hnew] using hload)
  obtain ⟨hfits, hrelies⟩ := hs.held c state hcall hstate
  have hprepares := hs.prepares c hcall
  cases hc : c.pc with
  | load | loadForRemoval => exact absurd (by simp [hc]) hload
  | new => exact absurd hc hnew
  | recover | prune => exact recover_filed hs hfits hrelies hprepares hstep (by simp [hc])
  | restore pc goesOn =>
    simp only [stateStep, hc] at hstep
    rw [hc] at hrelies hprepares
    exact restore_filed hs hstate hfits hrelies hprepares hstep
  | writeRecovered | writeEmpty | writeNew | writeSimulator | writeController
  | writePending | writeCreated | writeActive | writeRolledBack | writeRemoved =>
    exact write_filed hs hstate hfits hrelies hprepares hstep (by simp [hc])
  | makeSimulator | bindSimulator | makeController | bindController | delegateProcesses
  | addRootControllers | addSimulatorControllers =>
    exact start_filed hs hstate hfits hrelies hprepares hstep hfresh (by simp [hc])
  | attempt | makeRun | bindRun | enableControllers | rollBackRun | removeRun =>
    exact run_filed hs hstate hfits hrelies hprepares hstep hfresh (by simp [hc])

end Calls

end Steps

section Runs

open ScopeSystem

variable {config : CgroupScopeConfig} {s t : ScopeSystem}

/-- A preparation begins only if the state file has room for its run, and a new scope is
found only in a suitable tree. -/
def keepsLoadable (config : CgroupScopeConfig) (s : ScopeSystem) : ScopeAction → Bool
  | .prepare runId ownership _ =>
    s.stateFile.all fun state => decide (stateBytes state + runBytes runId ownership ≤ 64 * 1024)
  | .proceed _ => s.call.all fun c => c.pc != .new || suitsNewScope config s c
  | _ => true

/-- A failed step leaves the tree and the file as a step does that goes on. -/
theorem failAfter_filed {c : ScopeCall} {inode : Nat} (hs : Filed config s)
    (hfresh : s.tree.isFresh inode = true) (hcall : s.call = some c)
    (h : s.perform config c inode = some t) :
    t.tree.WellFormed ∧ ∀ state, t.stateFile = some state → Fits config state := by
  by_cases hpc : c.pc = .new
  · simp only [perform, hpc] at h
    split at h <;> cases h
    exact ⟨hs.tree, hs.disk⟩
  · have hfiled := perform_filed hs hfresh hcall (fun hnew => absurd hnew hpc) h
    exact ⟨hfiled.tree, hfiled.disk⟩

theorem step_filed {a : ScopeAction} (hstep : s.step config a = some t)
    (hguard : keepsLoadable config s a = true) (hs : Filed config s) : Filed config t := by
  cases a with
  | prepare runId ownership token =>
    simp only [step] at hstep
    split at hstep
    · rename_i hbegin
      obtain ⟨_, hrun, htoken, hownership⟩ := hbegin
      simp only [step.isResourceToken, Bool.and_eq_true, beq_iff_eq] at htoken
      cases hstep
      refine ⟨hs.tree, hs.disk, ?_, ?_, ?_⟩
      · rintro _ ⟨⟩ _
        refine ⟨hrun, htoken.1, fun binding hbinding => ?_⟩
        have hbinding : ownership = some binding := hbinding
        rw [hbinding] at hownership
        exact hownership
      · rintro _ state ⟨⟩ _ hfile
        have hfile : s.stateFile = some state := hfile
        have hroom : stateBytes state + runBytes runId ownership ≤ 64 * 1024 := by
          simpa [keepsLoadable, hfile] using hguard
        exact hroom
      · rintro _ _ ⟨⟩ hnone
        cases hnone
    · cases hstep
  | remove runId =>
    simp only [step] at hstep
    split at hstep <;> cases hstep
    refine ⟨hs.tree, hs.disk, ?_, ?_, ?_⟩
    · rintro _ ⟨⟩ hpreparing
      cases hpreparing
    · rintro _ _ ⟨⟩ hload
      cases hload
    · rintro _ _ ⟨⟩ hnone
      cases hnone
  | proceed inode =>
    simp only [step] at hstep
    split at hstep
    · rename_i hfresh
      obtain ⟨c, hc, rfl⟩ := Option.map_eq_some_iff.mp hstep
      cases hperform : s.perform config c inode with
      | none =>
        exact caught_filed hs.tree hs.disk fun state hstate => (hs.held c state hc hstate).1
      | some u =>
        refine perform_filed hs hfresh hc (fun hnew => ?_) hperform
        simpa [keepsLoadable, hc, hnew] using hguard
    · cases hstep
  | failBefore =>
    obtain ⟨c, hc, rfl⟩ := Option.map_eq_some_iff.mp hstep
    exact caught_filed hs.tree hs.disk fun state hstate => (hs.held c state hc hstate).1
  | failAfter inode =>
    simp only [step] at hstep
    split at hstep
    · rename_i hfresh
      obtain ⟨c, hc, rfl⟩ := Option.map_eq_some_iff.mp hstep
      have hheld : ∀ state, c.state = some state → Fits config state :=
        fun state hstate => (hs.held c state hc hstate).1
      cases hperform : s.perform config c inode with
      | none => exact caught_filed hs.tree hs.disk hheld
      | some u =>
        obtain ⟨htree, hdisk⟩ := failAfter_filed hs hfresh hc hperform
        exact caught_filed htree hdisk hheld
    · cases hstep
  | kill =>
    obtain ⟨c, _, rfl⟩ := Option.map_eq_some_iff.mp hstep
    exact .finish hs.tree hs.disk

/-- A simulator cgroup that has a resource cgroup when the scope is found. -/
def occupiedTree : CgroupTree where
  device := 1
  mountId := 1
  rootInode := 1
  rootControllers := managedControllers
  rootProcesses := [100]
  simulator := some
    { inode := 2
      controllers := managedControllers
      children := [{ name := "0123456789abcdef0123456789abcdef", inode := 3 }] }

def movingConfig : CgroupScopeConfig where
  root := "/sys/fs/cgroup"
  simulatorName := "bbp"
  allowRootProcessMove := true
  json := .compact

/-- A preparation is killed right after it has published the new scope. -/
def killedAfterNew : List ScopeAction :=
  [.prepare "a" none "0123456789abcdef", .proceed 10, .proceed 11, .proceed 12, .kill]

/-- The state file that it leaves is refused from then on. -/
theorem occupied_scope_is_not_loadable :
    ∃ s state, (cgroupScopeMachine movingConfig).run (initial occupiedTree)
        killedAfterNew = some s ∧ s.stateFile = some state ∧
      loadCgroupScopeState movingConfig (serializeCgroupScopeState movingConfig.json state) =
        .error "cgroup scope in use is missing its controller identity" := by
  obtain ⟨s, hrun, hs⟩ := (cgroupScopeMachine movingConfig).run_of_any
    (initial occupiedTree) killedAfterNew
    (fun s => s.stateFile.any fun state =>
      match loadCgroupScopeState movingConfig
          (serializeCgroupScopeState movingConfig.json state) with
      | .error message =>
        decide (message = "cgroup scope in use is missing its controller identity")
      | .ok _ => false)
    (by decide +kernel)
  obtain ⟨state, hfile, hs⟩ := (Option.any_eq_true _ _).mp hs
  refine ⟨s, state, hrun, hfile, ?_⟩
  split at hs
  · rename_i message hload
    rw [hload, of_decide_eq_true hs]
  · cases hs

theorem initial_filed {tree : CgroupTree} (h : tree.WellFormed) : Filed config (initial tree) :=
  ⟨h, fun _ hfile => (nomatch hfile), fun _ hc => (nomatch hc), fun _ _ hc => (nomatch hc),
    fun _ _ hc => (nomatch hc)⟩

/-- In every run in which preparations begin only while the state file has room and new
scopes are found only in suitable trees, the state file is loaded as the state that was
published last. -/
theorem state_file_is_loadable (tree : CgroupTree) (htree : tree.WellFormed)
    (actions : List ScopeAction)
    (hmeets : (cgroupScopeMachine config).Meets
      (fun s a => keepsLoadable config s a = true) (initial tree) actions)
    (hrun : (cgroupScopeMachine config).run (initial tree) actions = some s)
    (state : CgroupScopeState) (hfile : s.stateFile = some state) :
    loadCgroupScopeState config (serializeCgroupScopeState config.json state) = .ok state := by
  have hfiled : Filed config s := (cgroupScopeMachine config).meets_preserves
    (fun _ _ _ hstep hguard hs => step_filed hstep hguard hs) hmeets hrun
    (initial_filed htree)
  exact (hfiled.disk state hfile).loads

/-- A run with an owner. -/
def ownedRun : CgroupRunBinding where
  runId := "benchmark-1"
  runRoot := "/var/lib/bbp/benchmark-1"
  resourceId := "00112233445566778899aabbccddeeff"
  runRootIdentity := { device := 8, inode := 42 }
  cgroupIdentity := { device := 0, inode := 0 }

/-- Its preparation, killed after the directory has been recorded. -/
def killedAfterCreated : List ScopeAction :=
  .prepare "00112233445566778899aabbccddeeff" (some ownedRun) "0123456789abcdef" ::
    (range' 2 13).map .proceed ++ [.kill]

theorem killed_preparation_is_loadable :
    ∃ s state, (cgroupScopeMachine nativeConfig).run (initial nativeTree)
        killedAfterCreated = some s ∧ s.stateFile = some state ∧
      state.pendingRunCreated = true ∧
      loadCgroupScopeState nativeConfig (serializeCgroupScopeState nativeConfig.json state) =
        .ok state := by
  obtain ⟨s, hrun, hs⟩ := (cgroupScopeMachine nativeConfig).run_of_any
    (initial nativeTree) killedAfterCreated
    (fun s => s.stateFile.any fun state : CgroupScopeState => state.pendingRunCreated)
    (by decide +kernel)
  have htree : nativeTree.WellFormed :=
    ⟨by decide, by decide, by decide, ⟨by decide +kernel, by decide +kernel⟩,
      fun _ h => (nomatch h), fun _ h => (nomatch h), List.nodup_nil⟩
  obtain ⟨state, hfile, hs⟩ := (Option.any_eq_true _ _).mp hs
  exact ⟨s, state, hrun, hfile, hs, state_file_is_loadable nativeTree htree
    killedAfterCreated (by decide +kernel) hrun state hfile⟩

end Runs

end Bbp.Cgroup
