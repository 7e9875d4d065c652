import Bbp.CgroupScope

/-!
# Run cgroups and the scope state

A preparation first publishes the name of its run as pending, then makes the directory,
and then publishes that the directory has been made.  If the process is killed between
the last two steps, the directory is there and the state calls it pending but not
created.  A removal of the run still finds it.  The recovery at the beginning of the next
preparation does not: it drops the name and leaves the directory.  The same happens when
the new directory cannot be opened, because the rollback removes only what was opened.

Apart from this, every directory that a preparation has made is named on disk as long as
it exists.
-/

namespace Bbp.Cgroup

open Library CgroupTree Option List

section Directories

variable {tree : CgroupTree} {name : String}

namespace CgroupTree

/-- The names of the directories in the simulator cgroup. -/
def names (tree : CgroupTree) : List String := tree.children.map CgroupDirectory.name

end CgroupTree

theorem hasChild_iff : tree.hasChild name = true ↔ name ∈ tree.names := by
  simp [hasChild, child, names]

theorem names_removeChild (tree : CgroupTree) (removed : String) :
    (tree.removeChild removed).names = tree.names.filter (· != removed) := by
  cases hs : tree.simulator with
  | none => simp [removeChild, names, children, hs]
  | some simulator =>
    simp only [removeChild, names, children, hs, map_some, getD_some, List.filter_map]
    rfl

theorem names_makeChild {simulator : SimulatorCgroup} (hs : tree.simulator = some simulator)
    (made : String) (inode : Nat) : (tree.makeChild made inode).names = tree.names ++ [made] := by
  simp [makeChild, names, children, hs]

theorem map_unchanged {β : Type} {f : CgroupDirectory → CgroupDirectory} (g : CgroupDirectory → β)
    (hf : ∀ directory, g (f directory) = g directory) (directories : List CgroupDirectory) :
    (directories.map f).map g = directories.map g := by
  rw [List.map_map]
  exact List.map_congr_left fun directory _ => hf directory

/-- Changes of the simulator cgroup that keep the names of its directories. -/
theorem names_mapSimulator {other : CgroupTree} {f : SimulatorCgroup → SimulatorCgroup}
    (hother : other.simulator = tree.simulator.map f)
    (hf : ∀ simulator, (f simulator).children.map CgroupDirectory.name =
      simulator.children.map CgroupDirectory.name) : other.names = tree.names := by
  cases hs : tree.simulator with
  | none => simp [names, children, hother, hs]
  | some simulator => simp [names, children, hother, hs, hf]

theorem names_delegateProcesses (tree : CgroupTree) (moved : String) :
    (tree.delegateProcesses moved).names = tree.names :=
  names_mapSimulator rfl fun _ => map_unchanged _ (fun _ => by split <;> rfl) _

theorem names_restoreProcesses (tree : CgroupTree) (moved : String) :
    (tree.restoreProcesses moved).names = tree.names :=
  names_mapSimulator rfl fun _ => map_unchanged _ (fun _ => by split <;> rfl) _

theorem names_addSimulatorControllers (tree : CgroupTree) (controllers : List String) :
    (tree.addSimulatorControllers controllers).names = tree.names :=
  names_mapSimulator rfl fun _ => rfl

theorem names_dropSimulatorControllers (tree : CgroupTree) (controllers : List String) :
    (tree.dropSimulatorControllers controllers).names = tree.names :=
  names_mapSimulator rfl fun _ => rfl

theorem hasChild_removeChild {removed : String} :
    (tree.removeChild removed).hasChild name = true ↔
      tree.hasChild name = true ∧ name ≠ removed := by
  simp [hasChild_iff, names_removeChild]

theorem hasChild_makeChild {made : String} {inode : Nat}
    (h : (tree.makeChild made inode).hasChild name = true) :
    tree.hasChild name = true ∨ name = made := by
  rw [hasChild_iff] at h ⊢
  cases hs : tree.simulator with
  | none => simp [makeChild, names, children, hs] at h
  | some simulator => simpa [names_makeChild hs] using h

theorem hasChild_congr {other : CgroupTree} (h : other.names = tree.names) :
    other.hasChild name = tree.hasChild name := by
  rw [Bool.eq_iff_iff, hasChild_iff, hasChild_iff, h]

/-- A run is never called like a controller cgroup. -/
theorem safe_ne_controllerName {token : String} (h : isSafeRunId name = true) :
    name ≠ ownedControllerPrefix ++ token := by
  rintro rfl
  have hdot : '.' ∈ (ownedControllerPrefix ++ token).toList := by
    rw [String.toList_append, ownedControllerPrefix]
    simp
  simp only [isSafeRunId, Bool.and_eq_true, List.all_eq_true] at h
  exact absurd (h.2 '.' hdot) (by decide)

end Directories

section Invariant

namespace CgroupScopeState

/-- The state names the run. -/
def names (state : CgroupScopeState) (runId : String) : Prop :=
  runId ∈ state.activeRuns ∨ state.pendingRun = some runId

end CgroupScopeState

namespace ScopeCall

/-- The call has published nothing and made nothing. -/
structure Untouched (c : ScopeCall) : Prop where
  attempted : c.attemptedRun = false
  published : c.scopePublished = false
  created : c.createdRun = false

theorem Untouched.at {c : ScopeCall} {pc : ScopePc} {state : Option CgroupScopeState}
    (h : c.Untouched) : Untouched { c with pc, state } :=
  { h with }

end ScopeCall

namespace ScopeSystem

/-- What holds of every run whose directory has been made and still exists. -/
def Owned (s : ScopeSystem) (p : String → Prop) : Prop :=
  ∀ runId ∈ s.created, s.tree.hasChild runId = true → p runId

/-- Every such run is named on disk. -/
def NamedOnDisk (s : ScopeSystem) : Prop :=
  s.Owned fun runId => ∃ state, s.stateFile = some state ∧ state.names runId

/-- The run that the state file calls pending but not created has no directory. -/
def Recoverable (s : ScopeSystem) : Prop :=
  ∀ state runId, s.stateFile = some state → state.pendingRun = some runId →
    state.pendingRunCreated = false → s.tree.hasChild runId = false

/-- What the variables of the call know about the directories. -/
def Tracks (s : ScopeSystem) (c : ScopeCall) : ScopePc → Prop
  | .load => c.Untouched ∧ s.Recoverable
  | .loadForRemoval => c.Untouched
  | .new => c.Untouched ∧ s.Owned fun _ => False
  | .restore _ goesOn => (goesOn = true → c.Untouched) ∧ s.Owned fun _ => False
  | .recover => c.Untouched ∧ ∃ state, c.state = some state ∧ s.Owned state.names ∧
      ∀ runId, state.pendingRun = some runId → state.pendingRunCreated = false →
        s.tree.hasChild runId = false
  | .removeRun | .writeRemoved => c.Untouched ∧ ∃ state, c.state = some state ∧ s.Owned state.names
  | .writeRecovered | .prune =>
    c.Untouched ∧ ∃ state, c.state = some state ∧ s.Owned (· ∈ state.activeRuns)
  | .writeEmpty => c.Untouched ∧ ∃ state, c.state = some state ∧ s.Owned fun _ => False
  | .writeNew | .makeSimulator | .bindSimulator | .writeSimulator | .makeController =>
    c.attemptedRun = false ∧ c.createdRun = false ∧ ∃ state, c.state = some state ∧
      s.Owned (· ∈ state.activeRuns) ∧
      ∃ token, state.controllerName = ownedControllerPrefix ++ token
  | .bindController | .writeController | .delegateProcesses | .addRootControllers
  | .addSimulatorControllers | .attempt =>
    c.attemptedRun = false ∧ c.createdRun = false ∧ ∃ state, c.state = some state ∧
      s.Owned (· ∈ state.activeRuns)
  | .writePending =>
    c.attemptedRun = true ∧ c.createdRun = false ∧ ∃ state, c.state = some state ∧
      s.Owned (fun runId => runId ∈ state.activeRuns ∧ runId ≠ c.runId) ∧
      state.pendingRun = some c.runId
  | .makeRun =>
    c.attemptedRun = true ∧ c.createdRun = false ∧ ∃ state, c.state = some state ∧
      s.Owned (fun runId => runId ∈ state.activeRuns ∧ runId ≠ c.runId) ∧
      state.pendingRun = some c.runId ∧ s.stateFile = some state
  | .bindRun =>
    c.attemptedRun = true ∧ c.createdRun = false ∧ ∃ state, c.state = some state ∧
      state.pendingRun = some c.runId ∧
      s.Owned fun runId => runId ∈ state.activeRuns ∨ runId = c.runId
  | .writeCreated | .enableControllers =>
    c.createdRun = true ∧ ∃ state, c.state = some state ∧ state.pendingRun = some c.runId ∧
      s.Owned fun runId => runId ∈ state.activeRuns ∨ runId = c.runId
  | .writeActive =>
    c.createdRun = true ∧ ∃ state, c.state = some state ∧ s.Owned (· ∈ state.activeRuns)
  | .rollBackRun =>
    ∃ state, c.state = some state ∧ s.Owned fun runId => runId ∈ state.activeRuns ∨ runId = c.runId
  | .writeRolledBack => ∃ state, c.state = some state ∧ s.Owned (· ∈ state.activeRuns)

/-- The directories are known on disk and to the call. -/
structure Tracked (s : ScopeSystem) : Prop where
  safe : ∀ runId ∈ s.created, isSafeRunId runId = true
  disk : s.NamedOnDisk
  call : ∀ c, s.call = some c → isSafeRunId c.runId = true ∧ s.Tracks c c.pc

end ScopeSystem

end Invariant

section Effects

open ScopeSystem

variable {s t : ScopeSystem} {c : ScopeCall} {pc : ScopePc} {state : CgroupScopeState}
  {p : String → Prop}

/-- No directory of a run is made. -/
structure Shrinks (s t : ScopeSystem) : Prop where
  created : t.created = s.created
  children : ∀ runId, isSafeRunId runId = true → t.tree.hasChild runId = true →
    s.tree.hasChild runId = true

theorem Shrinks.refl (s : ScopeSystem) : Shrinks s s := ⟨rfl, fun _ _ h => h⟩

namespace ScopeSystem

theorem Owned.mono {q : String → Prop} (h : s.Owned p) (himp : ∀ runId, p runId → q runId) :
    s.Owned q :=
  fun runId hmem hchild => himp runId (h runId hmem hchild)

theorem Owned.shrinks (h : s.Owned p) (hsafe : ∀ runId ∈ s.created, isSafeRunId runId = true)
    (hshrinks : Shrinks s t) : t.Owned p := by
  intro runId hmem hchild
  rw [hshrinks.created] at hmem
  exact h runId hmem (hshrinks.children runId (hsafe runId hmem) hchild)

theorem Owned.remove {removed : String} (h : s.Owned p) :
    Owned { s with tree := s.tree.removeChild removed }
      (fun runId => p runId ∧ runId ≠ removed) := by
  intro runId hmem hchild
  obtain ⟨hold, hne⟩ := hasChild_removeChild.mp hchild
  exact ⟨h runId hmem hold, hne⟩

theorem Tracked.finish (hsafe : ∀ runId ∈ s.created, isSafeRunId runId = true)
    (hdisk : s.NamedOnDisk) : s.finish.Tracked :=
  ⟨hsafe, hdisk, fun _ hc => nomatch hc⟩

theorem Tracked.goto (hsafe : ∀ runId ∈ s.created, isSafeRunId runId = true)
    (hdisk : s.NamedOnDisk) (hrun : isSafeRunId c.runId = true) (h : s.Tracks { c with pc } pc) :
    (s.goto c pc).Tracked := by
  refine ⟨hsafe, hdisk, fun d hd => ?_⟩
  cases hd
  refine ⟨hrun, ?_⟩
  cases pc <;> exact h

theorem NamedOnDisk.publish (h : s.Owned state.names) :
    (s.publish state).NamedOnDisk :=
  fun runId hmem hchild => ⟨state, rfl, h runId hmem hchild⟩

theorem NamedOnDisk.shrinks (h : s.NamedOnDisk)
    (hsafe : ∀ runId ∈ s.created, isSafeRunId runId = true) (hshrinks : Shrinks s t)
    (hfile : t.stateFile = s.stateFile) : t.NamedOnDisk :=
  (Owned.shrinks h hsafe hshrinks).mono fun _ ⟨state, hstate, hnames⟩ =>
    ⟨state, hfile.trans hstate, hnames⟩

end ScopeSystem

/-- A step that makes no directory of a run keeps the bookkeeping. -/
structure Keeps (s t : ScopeSystem) : Prop where
  tracked : t.Tracked
  shrinks : Shrinks s t

theorem Keeps.goto (hs : s.Tracked) (hshrinks : Shrinks s t) (hfile : t.stateFile = s.stateFile)
    (hrun : isSafeRunId c.runId = true) (h : t.Tracks { c with pc } pc) :
    Keeps s (t.goto c pc) := by
  refine ⟨.goto ?_ (hs.disk.shrinks hs.safe hshrinks hfile) hrun h,
    hshrinks.created, hshrinks.children⟩
  rw [hshrinks.created]
  exact hs.safe

theorem Keeps.here (hs : s.Tracked) (hrun : isSafeRunId c.runId = true)
    (h : s.Tracks { c with pc } pc) : Keeps s (s.goto c pc) :=
  .goto hs (Shrinks.refl s) rfl hrun h

theorem Keeps.published (hs : s.Tracked) (hrun : isSafeRunId c.runId = true)
    (hnames : s.Owned state.names) (h : (s.publish state).Tracks { c with pc } pc) :
    Keeps s ((s.publish state).goto c pc) :=
  ⟨.goto hs.safe (NamedOnDisk.publish hnames) hrun h, rfl, fun _ _ h => h⟩

theorem Keeps.publishedLast (hs : s.Tracked) (hnames : s.Owned state.names) :
    Keeps s (s.publish state).finish :=
  ⟨.finish hs.safe (NamedOnDisk.publish hnames), rfl, fun _ _ h => h⟩

theorem Keeps.finish (hs : s.Tracked) : Keeps s s.finish :=
  ⟨.finish hs.safe hs.disk, rfl, fun _ _ h => h⟩

theorem Shrinks.removeChild (s : ScopeSystem) (removed : String) :
    Shrinks s { s with tree := s.tree.removeChild removed } :=
  ⟨rfl, fun _ _ h => (hasChild_removeChild.mp h).1⟩

theorem names_of_mem (h : s.Owned (· ∈ state.activeRuns)) : s.Owned state.names :=
  h.mono fun _ hmem => Or.inl hmem

theorem not_inUse {runId : String} (h : ¬ state.inUse = true) (hnames : state.names runId) :
    False := by
  simp only [CgroupScopeState.inUse, Bool.or_eq_true, Bool.not_eq_true', not_or,
    Bool.not_eq_false, List.isEmpty_iff, not_isSome_iff_eq_none] at h
  rcases hnames with hmem | hpending
  · rw [h.1] at hmem
    exact absurd hmem (List.not_mem_nil)
  · rw [h.2] at hpending
    cases hpending

/-- A restoration finds no directory of a run, and makes none. -/
theorem restoreStep_keeps {pc : RestorePc} {goesOn : Bool} (hs : s.Tracked)
    (hrun : isSafeRunId c.runId = true) (huntouched : goesOn = true → c.Untouched)
    (hnone : s.Owned fun _ => False) (h : s.restoreStep c state pc goesOn = some t) :
    Keeps s t := by
  have hnext : ∀ {tree : CgroupTree} {pc' : RestorePc},
      (∀ runId, tree.hasChild runId = true → s.tree.hasChild runId = true) →
      Keeps s (ScopeSystem.goto { s with tree } c (.restore pc' goesOn)) := by
    intro tree pc' hchildren
    have hshrinks : Shrinks s { s with tree } := ⟨rfl, fun runId _ => hchildren runId⟩
    exact .goto hs hshrinks rfl hrun
      ⟨fun hgoes => (huntouched hgoes).at, hnone.shrinks hs.safe hshrinks⟩
  cases pc with
  | start =>
    simp only [restoreStep] at h
    split at h
    · cases h
    split at h
    all_goals
      cases h
      exact hnext fun _ hchild => hchild
  | dropSimulatorControllers =>
    cases h
    exact hnext fun _ hchild => hasChild_congr (names_dropSimulatorControllers _ _) ▸ hchild
  | dropRootControllers =>
    cases h
    exact hnext fun _ hchild => hchild
  | restoreProcesses =>
    simp only [restoreStep] at h
    split at h
    · cases h
      exact hnext fun _ hchild => hasChild_congr (names_restoreProcesses _ _) ▸ hchild
    · cases h
      exact hnext fun _ hchild => hchild
  | check =>
    simp only [restoreStep] at h
    split at h <;> cases h
    exact .here hs hrun ⟨fun hgoes => (huntouched hgoes).at, hnone⟩
  | writeReady =>
    cases h
    exact .published hs hrun (hnone.mono fun _ hf => hf.elim)
      ⟨fun hgoes => (huntouched hgoes).at, hnone⟩
  | removeController =>
    simp only [restoreStep] at h
    split at h
    · cases h
      exact hnext fun _ hchild => (hasChild_removeChild.mp hchild).1
    · cases h
      exact hnext fun _ hchild => hchild
  | removeSimulator =>
    simp only [restoreStep] at h
    split at h
    · cases h
      exact hnext fun _ hchild => hchild
    split at h <;> cases h
    exact hnext fun _ hchild => nomatch hchild
  | unlink =>
    simp only [restoreStep] at h
    have hdisk : NamedOnDisk { s with stateFile := none } := hnone.mono fun _ hf => hf.elim
    split at h
    · split at h
      · rename_i hgoes
        cases h
        refine ⟨⟨hs.safe, hdisk, fun d hd => ?_⟩, rfl, fun _ _ h => h⟩
        cases hd
        exact ⟨hrun, (huntouched hgoes).at, hnone⟩
      · cases h
        exact ⟨⟨hs.safe, hdisk, fun _ hd => nomatch hd⟩, rfl, fun _ _ h => h⟩
    · cases h

theorem mem_withoutRun {runId other : String} (hmem : other ∈ state.activeRuns)
    (hne : other ≠ runId) : other ∈ (state.withoutRun runId).activeRuns := by
  have hfilter : other ∈ state.activeRuns.filter (· ≠ runId) :=
    mem_filter.mpr ⟨hmem, by simpa using hne⟩
  unfold CgroupScopeState.withoutRun
  split <;> exact hfilter

theorem names_withoutRun {runId other : String} (hnames : state.names other) (hne : other ≠ runId) :
    (state.withoutRun runId).names other := by
  rcases hnames with hmem | hpending
  · exact Or.inl (mem_withoutRun hmem hne)
  · refine Or.inr ?_
    have hother : state.pendingRun ≠ some runId := by
      rw [hpending]
      exact fun heq => hne (some.inj heq)
    unfold CgroupScopeState.withoutRun
    rw [if_neg hother]
    exact hpending

variable {inode : Nat} (hs : s.Tracked) (hrun : isSafeRunId c.runId = true)
  (htracks : s.Tracks c c.pc) (hstate : c.state = some state)
  (h : s.stateStep c inode state = some t)

include hs hrun htracks hstate h

/-- What a preparation does before it publishes its run. -/
theorem recover_keeps (hpc : c.pc = .recover) : Keeps s t := by
  simp only [hpc, Tracks, hstate, some.injEq, exists_eq_left'] at htracks
  obtain ⟨huntouched, hnames, hpending⟩ := htracks
  simp only [stateStep, hpc] at h
  split at h
  · rename_i hnone
    cases h
    refine .here hs hrun ⟨huntouched.at, state, rfl, hnames.mono fun runId hn => ?_⟩
    exact hn.resolve_right (by simp [hnone])
  rename_i runId hsome
  have hactive : ∀ other, state.names other → other ≠ runId → other ∈ state.activeRuns := by
    intro other hn hne
    refine hn.resolve_right fun hother => hne ?_
    rw [hsome] at hother
    exact (some.inj hother).symm
  split at h
  · split at h <;> cases h
    refine .goto hs (Shrinks.removeChild s runId) rfl hrun
      ⟨huntouched.at, state.recovered runId, rfl, ?_⟩
    exact hnames.remove.mono fun other hn => hactive other hn.1 hn.2
  rename_i hcreated
  cases h
  refine .here hs hrun ⟨huntouched.at, state.recovered runId, rfl, ?_⟩
  intro other hmem hchild
  refine hactive other (hnames other hmem hchild) ?_
  rintro rfl
  rw [hpending other hsome (by simpa using hcreated)] at hchild
  cases hchild

theorem prune_keeps (hpc : c.pc = .prune) : Keeps s t := by
  simp only [hpc, Tracks, hstate, some.injEq, exists_eq_left'] at htracks
  obtain ⟨huntouched, hactive⟩ := htracks
  have hpruned : s.Owned (· ∈ (state.pruned s.tree).activeRuns) := by
    intro runId hmem hchild
    exact mem_filter.mpr ⟨hactive runId hmem hchild, hchild⟩
  simp only [stateStep, hpc] at h
  split at h
  · split at h
    · rename_i hempty
      cases h
      refine .here hs hrun ⟨huntouched.at, _, rfl, hpruned.mono fun runId hmem => ?_⟩
      rw [hempty] at hmem
      exact absurd hmem not_mem_nil
    · cases h
      exact .here hs hrun ⟨huntouched.attempted, huntouched.created, _, rfl, hpruned⟩
  · cases h

theorem write_keeps
    (hpc : c.pc ∈ [.writeRecovered, .writeEmpty, .writeNew, .writeSimulator,
      .writeController, .writePending, .writeCreated, .writeActive, .writeRolledBack,
      .writeRemoved]) :
    Keeps s t := by
  simp only [mem_cons, not_mem_nil, or_false] at hpc
  rcases hpc with hpc | hpc | hpc | hpc | hpc | hpc | hpc | hpc | hpc | hpc
  all_goals
    simp only [hpc, Tracks, hstate, some.injEq, exists_eq_left'] at htracks
    simp only [stateStep, hpc] at h
  · obtain ⟨huntouched, hactive⟩ := htracks
    cases h
    exact .published hs hrun (names_of_mem hactive) ⟨huntouched.at, state, hstate, hactive⟩
  · obtain ⟨huntouched, hnone⟩ := htracks
    cases h
    exact .published hs hrun (hnone.mono fun _ hf => hf.elim) ⟨fun _ => huntouched.at, hnone⟩
  iterate 2
    · obtain ⟨hattempted, hcreated, hactive, hcontroller⟩ := htracks
      cases h
      exact .published hs hrun (names_of_mem hactive)
        ⟨hattempted, hcreated, state, hstate, hactive, hcontroller⟩
  · obtain ⟨hattempted, hcreated, hactive⟩ := htracks
    cases h
    exact .published hs hrun (names_of_mem hactive) ⟨hattempted, hcreated, state, hstate, hactive⟩
  · obtain ⟨hattempted, hcreated, hactive, hpending⟩ := htracks
    cases h
    exact .published hs hrun (hactive.mono fun _ hmem => Or.inl hmem.1)
      ⟨hattempted, hcreated, state, hstate, hactive, hpending, rfl⟩
  · obtain ⟨hcreated, hpending, hactive⟩ := htracks
    cases h
    refine .published hs hrun (hactive.mono fun runId hmem => ?_)
      ⟨hcreated, state, hstate, hpending, hactive⟩
    exact Or.imp_right (fun heq : runId = c.runId => heq ▸ hpending) hmem
  · obtain ⟨hcreated, hactive⟩ := htracks
    cases h
    exact .publishedLast hs (names_of_mem hactive)
  · have hactive : s.Owned (· ∈ state.activeRuns) := htracks
    split at h
    · rename_i hempty
      cases h
      refine .published hs hrun (names_of_mem hactive) ⟨nofun, ?_⟩
      refine hactive.mono fun runId hmem => ?_
      rw [hempty] at hmem
      exact absurd hmem not_mem_nil
    · cases h
      exact .publishedLast hs (names_of_mem hactive)
  · obtain ⟨huntouched, hnames⟩ := htracks
    split at h
    · cases h
      exact .publishedLast hs hnames
    rename_i hidle
    cases h
    exact .published hs hrun hnames ⟨nofun, hnames.mono fun _ hn => not_inUse hidle hn⟩

theorem start_keeps
    (hpc : c.pc ∈ [.makeSimulator, .bindSimulator, .makeController, .bindController,
      .delegateProcesses, .addRootControllers, .addSimulatorControllers]) :
    Keeps s t := by
  have hnext : ∀ {tree : CgroupTree} {pc : ScopePc} {state : CgroupScopeState},
      (∀ runId, isSafeRunId runId = true → tree.hasChild runId = true →
        s.tree.hasChild runId = true) →
      c.state = some state → c.attemptedRun = false → c.createdRun = false →
      s.Owned (· ∈ state.activeRuns) →
      pc ∈ [ScopePc.bindController, .addRootControllers, .addSimulatorControllers, .attempt] →
      Keeps s (ScopeSystem.goto { s with tree } c pc) := by
    intro tree pc state hchildren hstate hattempted hcreated hactive hmem
    have hshrinks : Shrinks s { s with tree } := ⟨rfl, hchildren⟩
    have hactive' := hactive.shrinks hs.safe hshrinks
    refine .goto hs hshrinks rfl hrun ?_
    simp only [mem_cons, not_mem_nil, or_false] at hmem
    rcases hmem with rfl | rfl | rfl | rfl
    all_goals exact ⟨hattempted, hcreated, state, hstate, hactive'⟩
  simp only [mem_cons, not_mem_nil, or_false] at hpc
  rcases hpc with hpc | hpc | hpc | hpc | hpc | hpc | hpc
  all_goals
    simp only [hpc, Tracks, hstate, some.injEq, exists_eq_left'] at htracks
    simp only [stateStep, hpc] at h
  · obtain ⟨hattempted, hcreated, hactive, hcontroller⟩ := htracks
    split at h
    · cases h
      exact .here hs hrun ⟨hattempted, hcreated, state, hstate, hactive, hcontroller⟩
    cases h
    have hshrinks : Shrinks s { s with tree := s.tree.makeSimulator inode } :=
      ⟨rfl, fun _ _ hchild => nomatch hchild⟩
    exact .goto hs hshrinks rfl hrun
      ⟨hattempted, hcreated, state, hstate, hactive.shrinks hs.safe hshrinks, hcontroller⟩
  · obtain ⟨hattempted, hcreated, hactive, hcontroller⟩ := htracks
    split at h <;> cases h
    exact .here hs hrun ⟨hattempted, hcreated, _, rfl, hactive, hcontroller⟩
  · obtain ⟨hattempted, hcreated, hactive, token, hcontroller⟩ := htracks
    split at h
    · split_ifs at h
      cases h
      refine hnext (fun runId hsafe hchild => ?_) hstate hattempted hcreated hactive (by simp)
      refine (hasChild_makeChild hchild).resolve_right fun heq => ?_
      exact safe_ne_controllerName hsafe (heq.trans hcontroller)
    · cases h
      exact hnext (fun _ _ hchild => hchild) hstate hattempted hcreated hactive (by simp)
  · obtain ⟨hattempted, hcreated, hactive⟩ := htracks
    split at h <;> cases h
    exact .here hs hrun ⟨hattempted, hcreated, _, rfl, hactive⟩
  · obtain ⟨hattempted, hcreated, hactive⟩ := htracks
    cases h
    exact hnext (fun _ _ hchild => hasChild_congr (names_delegateProcesses _ _) ▸ hchild)
      hstate hattempted hcreated hactive (by simp)
  · obtain ⟨hattempted, hcreated, hactive⟩ := htracks
    cases h
    exact hnext (fun _ _ hchild => hchild) hstate hattempted hcreated hactive (by simp)
  · obtain ⟨hattempted, hcreated, hactive⟩ := htracks
    cases h
    exact hnext (fun _ _ hchild => hasChild_congr (names_addSimulatorControllers _ _) ▸ hchild)
      hstate hattempted hcreated hactive (by simp)

theorem run_keeps
    (hpc : c.pc ∈ [.attempt, .bindRun, .enableControllers, .rollBackRun, .removeRun]) :
    Keeps s t := by
  simp only [mem_cons, not_mem_nil, or_false] at hpc
  rcases hpc with hpc | hpc | hpc | hpc | hpc
  all_goals
    simp only [hpc, Tracks, hstate, some.injEq, exists_eq_left'] at htracks
    simp only [stateStep, hpc] at h
  · obtain ⟨_, hcreated, hactive⟩ := htracks
    split_ifs at h with hnew
    cases h
    refine .here hs hrun ⟨rfl, hcreated, _, rfl, ?_, rfl⟩
    exact hactive.mono fun runId hmem => ⟨hmem, fun heq => hnew (heq ▸ hmem)⟩
  · obtain ⟨_, _, hpending, hactive⟩ := htracks
    split at h <;> cases h
    exact .here hs hrun ⟨rfl, _, rfl, hpending, hactive⟩
  · obtain ⟨hcreated, _, hactive⟩ := htracks
    cases h
    refine .here hs hrun ⟨hcreated, _, rfl, hactive.mono fun runId hmem => ?_⟩
    exact mem_append.mpr (Or.imp_right (fun heq => by simpa using heq) hmem)
  · cases h
    refine .goto hs (Shrinks.removeChild s c.runId) rfl hrun ⟨state.withoutRun c.runId, rfl, ?_⟩
    exact (Owned.remove htracks).mono fun runId hmem =>
      mem_withoutRun (hmem.1.resolve_right hmem.2) hmem.2
  · obtain ⟨huntouched, hnames⟩ := htracks
    split at h <;> cases h
    refine .goto hs (Shrinks.removeChild s c.runId) rfl hrun
      ⟨huntouched.at, state.withoutRun c.runId, rfl, ?_⟩
    exact hnames.remove.mono fun runId hn => names_withoutRun hn.1 hn.2

end Effects

section Calls

open ScopeSystem

variable {config : CgroupScopeConfig} {s t : ScopeSystem} {c : ScopeCall} {inode : Nat}
  {state : CgroupScopeState}

theorem loadStep_eq (h : s.loadStep config = some state) : s.stateFile = some state := by
  simp only [loadStep, filter_eq_some_iff] at h
  obtain ⟨written, hwritten, hload⟩ := bind_eq_some_iff.mp h.1
  rw [hwritten, (load_serialize_eq_ok.mp (eq_ok_of_toOption hload)).2]

/-- The directories that are named on disk are named by the state that is loaded. -/
theorem owned_loaded (hs : s.Tracked) (hstate : s.stateFile = some state) :
    s.Owned state.names := by
  refine hs.disk.mono fun runId ⟨other, hother, hnames⟩ => ?_
  rw [hstate] at hother
  exact some.inj hother ▸ hnames

theorem owned_unscoped (hs : s.Tracked) (hstate : s.stateFile.isNone = true) :
    s.Owned fun _ => False := by
  refine hs.disk.mono fun runId ⟨other, hother, _⟩ => ?_
  rw [hother] at hstate
  cases hstate

/-- Everywhere but at its beginning a call has a state. -/
theorem stateStep_of_perform (h : s.perform config c inode = some t)
    (hpc : c.pc ∉ [.load, .new, .loadForRemoval]) :
    ∃ state, c.state = some state ∧ s.stateStep c inode state = some t := by
  refine bind_eq_some_iff.mp ?_
  cases hc : c.pc <;> simp [hc] at hpc <;> simpa only [perform, hc] using h

section Performing

variable (hs : s.Tracked) (hrun : isSafeRunId c.runId = true) (htracks : s.Tracks c c.pc)
  (h : s.perform config c inode = some t)

include hs hrun htracks h

theorem begin_keeps (hpc : c.pc ∈ [.load, .new, .loadForRemoval]) : Keeps s t := by
  simp only [mem_cons, not_mem_nil, or_false] at hpc
  rcases hpc with hpc | hpc | hpc
  all_goals rw [hpc] at htracks
  · obtain ⟨huntouched, hrecoverable⟩ := htracks
    simp only [perform, hpc] at h
    split at h
    · rename_i hnone
      cases h
      exact .here hs hrun ⟨huntouched.at, owned_unscoped hs hnone⟩
    rw [map_eq_some_iff] at h
    obtain ⟨state, hload, rfl⟩ := h
    have hstate := loadStep_eq hload
    exact .here hs hrun ⟨huntouched.at, state, rfl, owned_loaded hs hstate,
      fun runId => hrecoverable state runId hstate⟩
  · obtain ⟨huntouched, hnone⟩ := htracks
    simp only [perform, hpc] at h
    split_ifs at h
    cases h
    exact .here hs hrun ⟨huntouched.attempted, huntouched.created, _, rfl,
      hnone.mono fun _ hf => hf.elim, c.token, rfl⟩
  · have huntouched : c.Untouched := htracks
    simp only [perform, hpc] at h
    split at h
    · split_ifs at h
      cases h
      exact .finish hs
    rw [bind_eq_some_iff] at h
    obtain ⟨state, hload, h⟩ := h
    have hnames := owned_loaded hs (loadStep_eq hload)
    unfold removalStep at h
    split at h
    · cases h
      exact .here hs hrun ⟨huntouched.at, state, rfl, hnames⟩
    split at h
    · cases h
    split at h
    · cases h
      exact .finish hs
    rename_i hidle
    cases h
    exact .here hs hrun ⟨nofun, hnames.mono fun _ hn => not_inUse hidle hn⟩

/-- The directory of a run is made after its name has been published. -/
theorem makeRun_tracked (hpc : c.pc = .makeRun) : t.Tracked := by
  rw [hpc] at htracks
  obtain ⟨hattempted, hcreated, state, hstate, hactive, hpending, hfile⟩ := htracks
  simp only [perform, hpc, hstate, bind_some, stateStep] at h
  split_ifs at h
  cases h
  have hcases : ∀ runId ∈ c.runId :: s.created,
      (s.tree.makeChild c.runId inode).hasChild runId = true →
      runId = c.runId ∨ (runId ∈ s.created ∧ s.tree.hasChild runId = true) := by
    intro runId hmem hchild
    rcases hasChild_makeChild hchild with hold | heq
    · rcases mem_cons.mp hmem with heq | hmem
      · exact Or.inl heq
      · exact Or.inr ⟨hmem, hold⟩
    · exact Or.inl heq
  refine .goto ?_ ?_ hrun ⟨hattempted, hcreated, state, hstate, hpending, ?_⟩
  · intro runId hmem
    rcases mem_cons.mp hmem with rfl | hmem
    · exact hrun
    · exact hs.safe runId hmem
  · intro runId hmem hchild
    rcases hcases runId hmem hchild with rfl | ⟨hmem, hchild⟩
    · exact ⟨state, hfile, Or.inr hpending⟩
    · exact hs.disk runId hmem hchild
  · intro runId hmem hchild
    rcases hcases runId hmem hchild with heq | ⟨hmem, hchild⟩
    · exact Or.inr heq
    · exact Or.inl (hactive runId hmem hchild).1

theorem perform_keeps (hpc : c.pc ≠ .makeRun) : Keeps s t := by
  have hbind := stateStep_of_perform h
  cases hc : c.pc with
  | load | new | loadForRemoval => exact begin_keeps hs hrun htracks h (by simp [hc])
  | recover =>
    obtain ⟨state, hstate, hstep⟩ := hbind (by simp [hc])
    exact recover_keeps hs hrun htracks hstate hstep hc
  | prune =>
    obtain ⟨state, hstate, hstep⟩ := hbind (by simp [hc])
    exact prune_keeps hs hrun htracks hstate hstep hc
  | restore pc goesOn =>
    obtain ⟨state, _, hstep⟩ := hbind (by simp [hc])
    rw [hc] at htracks
    simp only [stateStep, hc] at hstep
    exact restoreStep_keeps hs hrun htracks.1 htracks.2 hstep
  | makeRun => exact absurd hc hpc
  | writeRecovered | writeEmpty | writeNew | writeSimulator | writeController
  | writePending | writeCreated | writeActive | writeRolledBack | writeRemoved =>
    obtain ⟨state, hstate, hstep⟩ := hbind (by simp [hc])
    exact write_keeps hs hrun htracks hstate hstep (by simp [hc])
  | makeSimulator | bindSimulator | makeController | bindController | delegateProcesses
  | addRootControllers | addSimulatorControllers =>
    obtain ⟨state, hstate, hstep⟩ := hbind (by simp [hc])
    exact start_keeps hs hrun htracks hstate hstep (by simp [hc])
  | attempt | bindRun | enableControllers | rollBackRun | removeRun =>
    obtain ⟨state, hstate, hstep⟩ := hbind (by simp [hc])
    exact run_keeps hs hrun htracks hstate hstep (by simp [hc])

end Performing

/-- The runs that may still have a directory when a call is rolled back. -/
def rollbackNames (c : ScopeCall) (state : CgroupScopeState) : Option (String → Prop) :=
  if c.createdRun then some fun runId => runId ∈ state.activeRuns ∨ runId = c.runId
  else if c.attemptedRun then some fun runId => runId ∈ state.activeRuns ∧ runId ≠ c.runId
  else if c.scopePublished then some (· ∈ state.activeRuns)
  else none

/-- What the rollback of a call relies on. -/
def RollsBack (s : ScopeSystem) (c : ScopeCall) : Prop :=
  ∀ state, c.state = some state → ∀ p, rollbackNames c state = some p → s.Owned p

theorem RollsBack.untouched (h : c.Untouched) : RollsBack s c := by
  intro state _ p hp
  simp [rollbackNames, h.attempted, h.published, h.created] at hp

theorem RollsBack.of (hstate : c.state = some state)
    (h : ∀ p, rollbackNames c state = some p → s.Owned p) : RollsBack s c := by
  intro other hother
  rwa [some.inj (hother.symm.trans hstate)]

theorem RollsBack.published (hattempted : c.attemptedRun = false) (hcreated : c.createdRun = false)
    (hstate : c.state = some state) (hactive : s.Owned (· ∈ state.activeRuns)) : RollsBack s c :=
  .of hstate (by simp [rollbackNames, hattempted, hcreated, hactive])

theorem RollsBack.attempted (hattempted : c.attemptedRun = true) (hcreated : c.createdRun = false)
    (hstate : c.state = some state)
    (hactive : s.Owned fun runId => runId ∈ state.activeRuns ∧ runId ≠ c.runId) :
    RollsBack s c :=
  .of hstate (by simpa [rollbackNames, hattempted, hcreated] using hactive)

theorem RollsBack.created (hcreated : c.createdRun = true) (hstate : c.state = some state)
    (hactive : s.Owned fun runId => runId ∈ state.activeRuns ∨ runId = c.runId) :
    RollsBack s c :=
  .of hstate (by simpa [rollbackNames, hcreated] using hactive)

theorem RollsBack.shrinks (h : RollsBack s c)
    (hsafe : ∀ runId ∈ s.created, isSafeRunId runId = true) (hshrinks : Shrinks s t) :
    RollsBack t c :=
  fun state hstate p hp => (h state hstate p hp).shrinks hsafe hshrinks

/-- Everywhere but before the new directory is opened, the call can be rolled back. -/
theorem rollsBack_of_tracks (htracks : s.Tracks c c.pc)
    (hpc : c.pc ∉ [.bindRun, .rollBackRun, .writeRolledBack])
    (hrestore : ∀ pc goesOn, c.pc ≠ .restore pc goesOn) : RollsBack s c := by
  cases hc : c.pc with
  | load | new | recover | removeRun | writeRemoved | writeRecovered | prune | writeEmpty =>
    rw [hc] at htracks
    exact .untouched htracks.1
  | loadForRemoval =>
    rw [hc] at htracks
    exact .untouched htracks
  | restore pc goesOn => exact absurd hc (hrestore pc goesOn)
  | writeNew | makeSimulator | bindSimulator | writeSimulator | makeController =>
    rw [hc] at htracks
    obtain ⟨hattempted, hcreated, state, hstate, hactive, _⟩ := htracks
    exact .published hattempted hcreated hstate hactive
  | bindController | writeController | delegateProcesses | addRootControllers
  | addSimulatorControllers | attempt =>
    rw [hc] at htracks
    obtain ⟨hattempted, hcreated, state, hstate, hactive⟩ := htracks
    exact .published hattempted hcreated hstate hactive
  | writePending | makeRun =>
    rw [hc] at htracks
    obtain ⟨hattempted, hcreated, state, hstate, hactive, _⟩ := htracks
    exact .attempted hattempted hcreated hstate hactive
  | writeCreated | enableControllers =>
    rw [hc] at htracks
    obtain ⟨hcreated, state, hstate, _, hactive⟩ := htracks
    exact .created hcreated hstate hactive
  | writeActive =>
    rw [hc] at htracks
    obtain ⟨hcreated, state, hstate, hactive⟩ := htracks
    exact .created hcreated hstate (hactive.mono fun _ hmem => Or.inl hmem)
  | bindRun | rollBackRun | writeRolledBack => exact absurd hpc (by simp [hc])

theorem caught_tracked (hsafe : ∀ runId ∈ s.created, isSafeRunId runId = true)
    (hdisk : s.NamedOnDisk) (hrun : isSafeRunId c.runId = true)
    (hrolls : c.pc ∉ [.rollBackRun, .writeRolledBack] →
      (∀ pc goesOn, c.pc ≠ .restore pc goesOn) → RollsBack s c) :
    (s.caught c).Tracked := by
  unfold caught
  split
  case h_1 | h_2 | h_3 => exact .finish hsafe hdisk
  case h_4 hroll hwrite hrestore =>
    have hrolls := hrolls (by simpa using ⟨fun h => hroll h, fun h => hwrite h⟩)
      fun pc goesOn h => hrestore pc goesOn h
    split
    · exact .finish hsafe hdisk
    rename_i state hstate
    have hrolls := hrolls state hstate
    split_ifs with hcreated hattempted hpublished
    · exact .goto hsafe hdisk hrun ⟨state, hstate, hrolls _ (if_pos hcreated)⟩
    · have hnames := hrolls _ (by rw [rollbackNames, if_neg hcreated, if_pos hattempted])
      exact .goto hsafe hdisk hrun
        ⟨_, rfl, hnames.mono fun runId hmem => mem_withoutRun hmem.1 hmem.2⟩
    · exact .goto hsafe hdisk hrun ⟨state, hstate,
        hrolls _ (by rw [rollbackNames, if_neg hcreated, if_neg hattempted, if_pos hpublished])⟩
    · exact .finish hsafe hdisk

/-- The opening of the new directory is refused only when there is none. -/
theorem rollsBack_of_refused (htracks : s.Tracks c c.pc) (hpc : c.pc = .bindRun)
    (h : s.perform config c inode = none) : RollsBack s c := by
  rw [hpc] at htracks
  obtain ⟨hattempted, hcreated, state, hstate, _, hactive⟩ := htracks
  simp only [perform, hpc, hstate, bind_some, stateStep] at h
  split at h
  · rename_i hnone
    refine .attempted hattempted hcreated hstate fun runId hmem hchild => ?_
    have hne : runId ≠ c.runId := by
      rintro rfl
      simp [hasChild, hnone] at hchild
    exact ⟨(hactive runId hmem hchild).resolve_right hne, hne⟩
  · cases h

theorem rollsBack_of_none (htracks : s.Tracks c c.pc) (h : s.perform config c inode = none)
    (hroll : c.pc ∉ [.rollBackRun, .writeRolledBack])
    (hrestore : ∀ pc goesOn, c.pc ≠ .restore pc goesOn) : RollsBack s c := by
  by_cases hpc : c.pc = .bindRun
  · exact rollsBack_of_refused htracks hpc h
  · exact rollsBack_of_tracks htracks (by simpa [hpc] using hroll) hrestore

end Calls

section Runs

open ScopeSystem

variable {config : CgroupScopeConfig} {s t : ScopeSystem}

/-- No preparation begins while the directory of a run exists that the state file calls
pending but not created, and nothing fails between the making of the directory of a run
and its opening. -/
def keepsTrack (s : ScopeSystem) : ScopeAction → Bool
  | .prepare _ _ _ =>
    s.stateFile.all fun state =>
      state.pendingRunCreated || state.pendingRun.all fun runId => !s.tree.hasChild runId
  | .failBefore => s.call.all fun c => c.pc != .bindRun
  | .failAfter _ => s.call.all fun c => c.pc != .makeRun && c.pc != .bindRun
  | _ => true

theorem recoverable_of_keepsTrack {runId token : String} {ownership : Option CgroupRunBinding}
    (h : keepsTrack s (.prepare runId ownership token) = true) : s.Recoverable := by
  intro state other hstate hpending hcreated
  simpa [keepsTrack, hstate, hpending, hcreated] using h

theorem step_tracked {a : ScopeAction} (hstep : s.step config a = some t)
    (hguard : keepsTrack s a = true) (hs : s.Tracked) : t.Tracked := by
  cases a with
  | prepare runId ownership token =>
    simp only [step] at hstep
    split at hstep <;> cases hstep
    rename_i hbegin
    have hrecoverable : s.Recoverable := recoverable_of_keepsTrack hguard
    refine ⟨hs.safe, hs.disk, fun d hd => ?_⟩
    cases hd
    exact ⟨hbegin.2.1, ⟨rfl, rfl, rfl⟩, hrecoverable⟩
  | remove runId =>
    simp only [step] at hstep
    split at hstep <;> cases hstep
    rename_i hbegin
    refine ⟨hs.safe, hs.disk, fun d hd => ?_⟩
    cases hd
    exact ⟨hbegin.2, rfl, rfl, rfl⟩
  | proceed inode =>
    simp only [step] at hstep
    split at hstep
    · obtain ⟨c, hc, rfl⟩ := map_eq_some_iff.mp hstep
      obtain ⟨hrun, htracks⟩ := hs.call c hc
      cases hperform : s.perform config c inode with
      | none => exact caught_tracked hs.safe hs.disk hrun (rollsBack_of_none htracks hperform)
      | some u =>
        by_cases hpc : c.pc = .makeRun
        · exact makeRun_tracked hs hrun htracks hperform hpc
        · exact (perform_keeps hs hrun htracks hperform hpc).tracked
    · cases hstep
  | failBefore =>
    obtain ⟨c, hc, rfl⟩ := map_eq_some_iff.mp hstep
    obtain ⟨hrun, htracks⟩ := hs.call c hc
    have hpc : c.pc ≠ .bindRun := by simpa [keepsTrack, hc] using hguard
    exact caught_tracked hs.safe hs.disk hrun fun hroll hrestore =>
      rollsBack_of_tracks htracks (by simpa [hpc] using hroll) hrestore
  | failAfter inode =>
    simp only [step] at hstep
    split at hstep
    · obtain ⟨c, hc, rfl⟩ := map_eq_some_iff.mp hstep
      obtain ⟨hrun, htracks⟩ := hs.call c hc
      have hpc : c.pc ≠ .makeRun ∧ c.pc ≠ .bindRun := by
        simpa [keepsTrack, hc] using hguard
      have hrolls : c.pc ∉ [.rollBackRun, .writeRolledBack] →
          (∀ pc goesOn, c.pc ≠ .restore pc goesOn) → RollsBack s c :=
        fun hroll hrestore => rollsBack_of_tracks htracks (by simpa [hpc.2] using hroll) hrestore
      cases hperform : s.perform config c inode with
      | none => exact caught_tracked hs.safe hs.disk hrun hrolls
      | some u =>
        have hkeeps := perform_keeps hs hrun htracks hperform hpc.1
        exact caught_tracked hkeeps.tracked.safe hkeeps.tracked.disk hrun
          fun hroll hrestore =>
            (hrolls hroll hrestore).shrinks hs.safe
              ⟨hkeeps.shrinks.created, hkeeps.shrinks.children⟩
    · cases hstep
  | kill =>
    obtain ⟨c, _, rfl⟩ := map_eq_some_iff.mp hstep
    exact .finish hs.safe hs.disk

/-- No step of a call fails, and no call is killed. -/
def failureFree (config : CgroupScopeConfig) (s : ScopeSystem) : ScopeAction → Bool
  | .prepare _ _ _ | .remove _ => true
  | .proceed inode => s.call.all fun c => (s.perform config c inode).isSome
  | .failBefore | .failAfter _ | .kill => false

theorem proceed_performs {inode : Nat} (hstep : s.step config (.proceed inode) = some t)
    (hfree : failureFree config s (.proceed inode) = true) :
    ∃ c, s.call = some c ∧ s.perform config c inode = some t := by
  simp only [step] at hstep
  split at hstep
  · obtain ⟨c, hc, rfl⟩ := map_eq_some_iff.mp hstep
    have hsome : (s.perform config c inode).isSome = true := by
      simpa [failureFree, hc] using hfree
    obtain ⟨u, hperform⟩ := isSome_iff_exists.mp hsome
    exact ⟨c, hc, by rw [hperform, getD_some]⟩
  · cases hstep

/-- A removal and its first two steps: the state is loaded, and the directory is removed. -/
def removal (runId : String) (inode inode' : Nat) : List ScopeAction :=
  [.remove runId, .proceed inode, .proceed inode']

/-- A native scope, whose root has all the controllers. -/
def nativeConfig : CgroupScopeConfig where
  root := "/sys/fs/cgroup"
  simulatorName := "bbp"
  allowRootProcessMove := false
  json := .compact

def nativeTree : CgroupTree where
  device := 1
  mountId := 1
  rootInode := 1
  rootControllers := managedControllers
  rootProcesses := []
  simulator := none

theorem initial_tracked (tree : CgroupTree) : (initial tree).Tracked :=
  ⟨fun _ hmem => (not_mem_nil hmem).elim, fun _ hmem => (not_mem_nil hmem).elim,
    fun _ hc => nomatch hc⟩

end Runs

end Bbp.Cgroup
