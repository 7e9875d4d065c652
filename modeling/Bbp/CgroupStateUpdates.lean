import Bbp.CgroupOwnership

/-!
# Changes of the scope state

A state fits if the loader accepts it and its document is within the limit of the loader.
Every change that a call makes to its state keeps this: a run becomes pending, its
directory is recorded, it becomes active, it is dropped again; a recovery drops the pending
run; a restoration is recorded.

How large a document is depends on numbers, flags and names; `stateBytes` bounds it by the
names alone, so that a change that adds no name does not change the bound.
-/

namespace Bbp.Cgroup

open Library Json CgroupScopeState Bool List

section Size

/-- The bytes of names in an array. -/
def namesBytes (names : List String) : Nat := (names.map fun name => escapedSize name + 3).sum

/-- A bound on the bytes of a binding. -/
def bindingBytes (entry : String × CgroupRunBinding) : Nat :=
  escapedSize entry.1 + escapedSize entry.2.runId +
    escapedSize entry.2.runRoot + escapedSize entry.2.resourceId + 200

def bindingsBytes (bindings : List (String × CgroupRunBinding)) : Nat :=
  (bindings.map bindingBytes).sum

/-- A bound on the bytes of the state file that does not depend on the pending run. -/
def stateBytes (state : CgroupScopeState) : Nat :=
  1024 + escapedSize state.root + escapedSize state.simulatorName +
    escapedSize state.controllerName + namesBytes state.rootControllersBefore +
    namesBytes state.simulatorControllersBefore + namesBytes state.rootControllersAdded +
    namesBytes state.simulatorControllersAdded + namesBytes state.activeRuns +
    bindingsBytes state.runBindings

theorem textSize_stringSetJson (names : List String) :
    (stringSetJson names).textSize ≤ 2 + namesBytes names := by
  rw [stringSetJson, textSize, itemsSize_strings]
  unfold namesBytes
  omega

theorem textSize_bool (value : Bool) : (bool value).textSize ≤ 5 := by
  cases value <;> simp [textSize]

theorem textSize_identity {identity : Option CgroupDirectoryIdentity}
    (h : ∀ known, identity = some known → known.IsReadable) :
    (scopeDirectoryIdentityJson identity).textSize ≤ 92 := by
  cases identity with
  | none => simp [scopeDirectoryIdentityJson, textSize]
  | some known =>
    obtain ⟨hdevice, hinode, hmount, _⟩ := h known rfl
    have hdevice := numberSize_le hdevice
    have hinode := numberSize_le hinode
    have hmount := numberSize_le hmount
    have hnames : escapedSize "device" = 6 ∧ escapedSize "inode" = 5 ∧
        escapedSize "mount_id" = 8 := by decide +kernel
    simp only [scopeDirectoryIdentityJson, textSize, fieldsSize, hnames]
    omega

theorem textSize_binding {entry : String × CgroupRunBinding} (h : entry.2.IsReadable entry.1) :
    (runBindingJson entry.2).textSize ≤ escapedSize entry.2.runId +
      escapedSize entry.2.runRoot + escapedSize entry.2.resourceId + 194 := by
  obtain ⟨_, hrootDevice, hrootInode, hdevice, hinode, _⟩ := h
  have hrootDevice := numberSize_le hrootDevice
  have hrootInode := numberSize_le hrootInode
  have hdevice := numberSize_le hdevice
  have hinode := numberSize_le hinode
  have hnames : escapedSize "run_id" = 6 ∧ escapedSize "run_root" = 8 ∧
      escapedSize "resource_id" = 11 ∧ escapedSize "run_root_device" = 15 ∧
      escapedSize "run_root_inode" = 14 ∧ escapedSize "cgroup_device" = 13 ∧
      escapedSize "cgroup_inode" = 12 := by decide +kernel
  simp only [runBindingJson, textSize, fieldsSize, hnames]
  omega

theorem textSize_bindings {bindings : List (String × CgroupRunBinding)}
    (h : ∀ entry ∈ bindings, entry.2.IsReadable entry.1) :
    (runBindingsJson bindings).textSize ≤ 2 + bindingsBytes bindings := by
  have hfields : fieldsSize (bindings.map fun entry => (entry.1, runBindingJson entry.2)) ≤
      bindingsBytes bindings := by
    induction bindings with
    | nil => exact Nat.le_refl 0
    | cons entry bindings ih =>
      have hhead := textSize_binding (h entry mem_cons_self)
      have htail := ih fun other hmem => h other (mem_cons_of_mem _ hmem)
      unfold bindingsBytes at htail ⊢
      rw [map_cons, fieldsSize, map_cons, sum_cons, bindingBytes]
      omega
  rw [runBindingsJson, textSize]
  omega

theorem textSize_pendingRun {pending : Option String} (h : pending.all isSafeRunId = true) :
    (pendingRunJson pending).textSize ≤ 194 := by
  cases pending with
  | none => simp [pendingRunJson, textSize]
  | some runId =>
    have hlength : runId.length ≤ 32 := by
      simp only [Option.all_some, isSafeRunId, and_eq_true, decide_eq_true_eq] at h
      exact h.1.2
    have hsize := escapedSize_le runId
    simp only [pendingRunJson, textSize]
    omega

/-- The file, with its newline, is within the bound. -/
theorem textSize_scopeFields {state : CgroupScopeState} (h : state.IsReadable) :
    (object (scopeFields state)).textSize + 1 ≤ stateBytes state := by
  have hroot := textSize_identity h.rootIdentity
  have hsimulator := textSize_identity h.simulatorIdentity
  have hcontroller := textSize_identity h.controllerIdentity
  have hbindings := textSize_bindings h.runBindings
  have hpending := textSize_pendingRun h.pendingRun
  have hbefore := textSize_stringSetJson state.rootControllersBefore
  have hbefore' := textSize_stringSetJson state.simulatorControllersBefore
  have hadded := textSize_stringSetJson state.rootControllersAdded
  have hadded' := textSize_stringSetJson state.simulatorControllersAdded
  have hactive := textSize_stringSetJson state.activeRuns
  have hpreexisting := textSize_bool state.simulatorPreexisting
  have hexpected := textSize_bool state.controllerExpected
  have hready := textSize_bool state.restorationReady
  have hcreated := textSize_bool state.pendingRunCreated
  have hversion : (number cgroupScopeStateVersion).textSize = 1 := by decide +kernel
  have hnames : (escapedSize "version" = 7 ∧ escapedSize "root" = 4 ∧
      escapedSize "simulator_name" = 14 ∧ escapedSize "controller_name" = 15 ∧
      escapedSize "simulator_preexisting" = 21 ∧
      escapedSize "controller_expected" = 19 ∧
      escapedSize "restoration_ready" = 17 ∧ escapedSize "root_identity" = 13 ∧
      escapedSize "simulator_identity" = 18) ∧
      escapedSize "controller_identity" = 19 ∧
      escapedSize "root_controllers_before" = 23 ∧
      escapedSize "simulator_controllers_before" = 28 ∧
      escapedSize "root_controllers_added" = 22 ∧
      escapedSize "simulator_controllers_added" = 27 ∧
      escapedSize "active_runs" = 11 ∧ escapedSize "run_bindings" = 12 ∧
      escapedSize "pending_run" = 11 ∧
      escapedSize "pending_run_created" = 19 := by decide +kernel
  have hstring : ∀ text, (string text).textSize = escapedSize text + 2 := fun _ => by rw [textSize]
  rw [textSize]
  simp only [scopeFields, fieldsSize, hnames, hversion, hstring]
  unfold stateBytes
  omega

end Size

section States

variable {config : CgroupScopeConfig} {state : CgroupScopeState}

/-- A state that can be written and loaded. -/
structure Fits (config : CgroupScopeConfig) (state : CgroupScopeState) : Prop where
  readable : state.IsReadable
  consistent : state.IsConsistent config
  size : stateBytes state ≤ 64 * 1024

theorem Fits.loads (h : Fits config state) :
    loadCgroupScopeState config (serializeCgroupScopeState config.json state) = .ok state := by
  have hsize := textSize_scopeFields h.readable
  have htext := config.json.size_serialize_le (object (scopeFields state))
  have hlimit := h.size
  refine load_serialize_eq_ok.mpr ⟨⟨?_, h.readable, h.consistent⟩, rfl⟩
  unfold serializeCgroupScopeState
  omega

theorem namesBytes_filter (p : String → Bool) (names : List String) :
    namesBytes (names.filter p) ≤ namesBytes names :=
  (filter_sublist.map _).sum_le_sum fun _ _ => Nat.zero_le _

theorem bindingsBytes_filter (p : String × CgroupRunBinding → Bool)
    (bindings : List (String × CgroupRunBinding)) :
    bindingsBytes (bindings.filter p) ≤ bindingsBytes bindings :=
  (filter_sublist.map _).sum_le_sum fun _ _ => Nat.zero_le _

theorem stateBytes_filter (state : CgroupScopeState) (p : String → Bool)
    (q : String × CgroupRunBinding → Bool) (pending : Option String) (created : Bool) :
    stateBytes
        { state with
          activeRuns := state.activeRuns.filter p
          runBindings := state.runBindings.filter q
          pendingRun := pending
          pendingRunCreated := created } ≤
      stateBytes state := by
  have hnames := namesBytes_filter p state.activeRuns
  have hbindings := bindingsBytes_filter q state.runBindings
  unfold stateBytes
  simp only
  omega

theorem all_filter {α : Type} {p q : α → Bool} {xs : List α} (h : xs.all p = true) :
    (xs.filter q).all p = true :=
  all_eq_true.mpr fun x hx => all_eq_true.mp h x (mem_filter.mp hx).1

variable (h : Fits config state)

include h

/-- Some runs and bindings are dropped, and the pending run perhaps. -/
theorem Fits.restrict (p : String → Bool)
    (q : String × CgroupRunBinding → Bool) {pending : Option String} {created : Bool}
    (hpending : pending = state.pendingRun ∧ created = state.pendingRunCreated ∨
      pending = none ∧ created = false)
    (hknown : ∀ entry ∈ state.runBindings, q entry = true →
      (entry.1 ∈ state.activeRuns ∧ p entry.1 = true) ∨ (created = true ∧ pending = some entry.1)) :
    Fits config
      { state with
        activeRuns := state.activeRuns.filter p
        runBindings := state.runBindings.filter q
        pendingRun := pending
        pendingRunCreated := created } := by
  obtain ⟨hreadable, hconsistent, hsize⟩ := h
  have huse : (!state.activeRuns.isEmpty || state.pendingRun.isSome) = false →
      (!(state.activeRuns.filter p).isEmpty || pending.isSome) = false := by
    intro hfree
    simp only [Bool.or_eq_false_iff, Bool.not_eq_false', List.isEmpty_iff] at hfree ⊢
    refine ⟨by rw [hfree.1]; rfl, ?_⟩
    rcases hpending with ⟨rfl, _⟩ | ⟨rfl, _⟩
    · exact hfree.2
    · rfl
  have hinUse : ∀ {b : Bool}, (!state.inUse || b) = true →
      (!(!(state.activeRuns.filter p).isEmpty || pending.isSome) || b) = true := by
    intro b hb
    cases hused : state.inUse with
    | false => rw [huse hused]; rfl
    | true =>
      rw [hused] at hb
      simp only [Bool.not_true, Bool.false_or] at hb
      simp [hb]
  refine ⟨?_, ?_, (stateBytes_filter state p q pending created).trans hsize⟩
  · refine
      { hreadable with
        activeRuns := ⟨all_filter hreadable.activeRuns.1, hreadable.activeRuns.2.filter p⟩
        runBindings := fun entry hmem => hreadable.runBindings entry (List.mem_filter.mp hmem).1
        pendingRun := ?_ }
    rcases hpending with ⟨rfl, _⟩ | ⟨rfl, _⟩
    · exact hreadable.pendingRun
    · rfl
  · refine
      { hconsistent with
        pending := ?_
        bindings := ?_
        usedSimulator := hinUse hconsistent.usedSimulator
        usedController := ?_
        ready := ?_ }
    · rcases hpending with ⟨rfl, rfl⟩ | ⟨rfl, rfl⟩
      · exact hconsistent.pending
      · rfl
    · simp only [bindsKnownRuns, List.all_eq_true, List.mem_filter,
        Bool.or_eq_true, Bool.and_eq_true, decide_eq_true_eq]
      exact fun entry hmem => hknown entry hmem.1 hmem.2
    · have := hconsistent.usedController
      rw [Bool.or_assoc] at this ⊢
      exact hinUse this
    · have hready := hconsistent.ready
      cases hr : state.restorationReady with
      | false => simp
      | true =>
        rw [hr] at hready
        simp only [Bool.not_true, Bool.false_or, Bool.and_eq_true, Bool.not_eq_true',
          List.isEmpty_iff] at hready
        have hcreated : created = false := by
          rcases hpending with ⟨_, rfl⟩ | ⟨_, rfl⟩
          · exact hready.2
          · rfl
        have hfree : (!(state.activeRuns.filter p).isEmpty || pending.isSome) = false :=
          huse hready.1.1
        simp only [inUse, hfree, hready.1.2, hcreated]
        rfl

/-- A binding belongs to an active run, or to the pending run. -/
theorem Fits.known {entry : String × CgroupRunBinding} (hmem : entry ∈ state.runBindings) :
    entry.1 ∈ state.activeRuns ∨
      (state.pendingRunCreated = true ∧ state.pendingRun = some entry.1) := by
  have hknown := h.consistent.bindings
  simp only [bindsKnownRuns, all_eq_true, or_eq_true, and_eq_true, decide_eq_true_eq] at hknown
  exact hknown entry hmem

variable {runId : String}

/-- The pending run is forgotten by a recovery. -/
theorem Fits.recovered (hpending : state.pendingRun = some runId) :
    Fits config (state.recovered runId) := by
  have hfits := h.restrict (fun _ => true) (fun entry => entry.1 ≠ runId)
    (Or.inr ⟨rfl, rfl⟩) (fun entry hmem hne => Or.inl ⟨?_, rfl⟩)
  · rw [filter_true] at hfits
    exact hfits
  · refine (h.known hmem).resolve_right fun hcreated => ?_
    rw [hpending] at hcreated
    exact (of_decide_eq_true hne) (Option.some.inj hcreated.2).symm

theorem Fits.pruned (hpending : state.pendingRun = none)
    (tree : CgroupTree) : Fits config (state.pruned tree) := by
  refine h.restrict tree.hasChild _ (Or.inl ⟨rfl, rfl⟩) fun entry hmem hkept => ?_
  have hactive : entry.1 ∈ state.activeRuns := by
    refine (h.known hmem).resolve_right fun hcreated => ?_
    rw [hpending] at hcreated
    cases hcreated.2
  refine Or.inl ⟨hactive, ?_⟩
  simpa [hactive] using hkept

theorem Fits.withoutRun (runId : String) : Fits config (state.withoutRun runId) := by
  unfold CgroupScopeState.withoutRun
  split
  · rename_i hpending
    refine h.restrict _ _ (Or.inr ⟨rfl, rfl⟩) fun entry hmem hne => Or.inl ⟨?_, hne⟩
    refine (h.known hmem).resolve_right fun hcreated => ?_
    rw [hpending] at hcreated
    exact (of_decide_eq_true hne) (Option.some.inj hcreated.2).symm
  · refine h.restrict _ _ (Or.inl ⟨rfl, rfl⟩) fun entry hmem hne => ?_
    exact (h.known hmem).imp_left fun hactive => ⟨hactive, hne⟩

theorem Fits.markReady (hfree : state.inUse = false)
    (hbindings : state.runBindings = []) : Fits config { state with restorationReady := true } := by
  obtain ⟨hreadable, hconsistent, hsize⟩ := h
  refine ⟨{ hreadable with }, { hconsistent with ready := ?_ }, hsize⟩
  have hpending : state.pendingRun = none := by
    simp only [inUse, or_eq_false_iff, Option.isSome_eq_false_iff,
      Option.isNone_iff_eq_none] at hfree
    exact hfree.2
  have hcreated : state.pendingRunCreated = false := by
    simpa [hpending] using hconsistent.pending
  change (!true || (!state.inUse && state.runBindings.isEmpty && !state.pendingRunCreated)) = true
  rw [hfree, hbindings, hcreated]
  rfl

/-- A scope whose directories are all known. -/
structure Founded (state : CgroupScopeState) : Prop where
  simulator : state.simulatorIdentity.isSome = true
  controller : state.controllerExpected = true → state.controllerIdentity.isSome = true
  ready : state.restorationReady = false
  pending : state.pendingRun = none

theorem Fits.founded (hpending : state.pendingRun = none)
    (hactive : state.activeRuns ≠ []) : Founded state := by
  have hused : state.inUse = true := by simp [inUse, hactive]
  obtain ⟨_, hconsistent, _⟩ := h
  have hsimulator := hconsistent.usedSimulator
  have hcontroller := hconsistent.usedController
  have hready := hconsistent.ready
  simp only [hused, Bool.not_true, Bool.false_or, Bool.false_and, Bool.or_false,
    Bool.not_eq_true'] at hsimulator hcontroller hready
  exact ⟨hsimulator, fun hexpected => by simpa [hexpected] using hcontroller, hready, hpending⟩

omit h in
theorem Founded.used (h : Founded state) (other : CgroupScopeState)
    (hsimulator : other.simulatorIdentity = state.simulatorIdentity)
    (hcontroller : other.controllerIdentity = state.controllerIdentity)
    (hexpected : other.controllerExpected = state.controllerExpected) :
    (!other.inUse || other.simulatorIdentity.isSome) = true ∧
      (!other.inUse || !other.controllerExpected || other.controllerIdentity.isSome) =
        true := by
  rw [hsimulator, hcontroller, hexpected, h.simulator]
  refine ⟨by simp, ?_⟩
  cases hc : state.controllerExpected with
  | false => simp
  | true => simp [h.controller hc]

/-- The run of a preparation becomes pending. -/
theorem Fits.attempt (hfounded : Founded state) (hrun : isSafeRunId runId = true) :
    Fits config { state with pendingRun := some runId, pendingRunCreated := false } := by
  have hused := hfounded.used
    { state with pendingRun := some runId, pendingRunCreated := false } rfl rfl rfl
  have hactive : ∀ entry ∈ state.runBindings, entry.1 ∈ state.activeRuns := by
    intro entry hmem
    refine (h.known hmem).resolve_right fun hcreated => ?_
    rw [hfounded.pending] at hcreated
    cases hcreated.2
  obtain ⟨hreadable, hconsistent, hsize⟩ := h
  refine ⟨{ hreadable with pendingRun := hrun }, ?_, hsize⟩
  refine
    { hconsistent with
      pending := rfl
      bindings := ?_
      usedSimulator := hused.1
      usedController := hused.2
      ready := ?_ }
  · simp only [bindsKnownRuns, all_eq_true, or_eq_true, decide_eq_true_eq]
    exact fun entry hmem => Or.inl (hactive entry hmem)
  · simp [hfounded.ready]

/-- The bytes that a run adds to the state file. -/
def runBytes (runId : String) (ownership : Option CgroupRunBinding) : Nat :=
  namesBytes [runId] + (ownership.map fun binding => bindingBytes (runId, binding)).getD 0

theorem Fits.created {ownership : Option CgroupRunBinding}
    (hpending : state.pendingRun = some runId)
    (hownership : ∀ binding, ownership = some binding → binding.IsReadable runId)
    (hsize : stateBytes state + runBytes runId ownership ≤ 64 * 1024) :
    Fits config
        { state with
          pendingRunCreated := true
          runBindings := emplace runId ownership state.runBindings } ∧
      stateBytes
          { state with
            pendingRunCreated := true
            runBindings := emplace runId ownership state.runBindings } +
        namesBytes [runId] ≤ 64 * 1024 := by
  have hentries : ∀ entry ∈ emplace runId ownership state.runBindings,
      entry ∈ state.runBindings ∨ (entry.1 = runId ∧ ownership = some entry.2) := by
    intro entry hmem
    cases ownership with
    | none => exact Or.inl hmem
    | some binding =>
      simp only [emplace] at hmem
      split at hmem
      · exact Or.inl hmem
      rcases mem_append.mp hmem with hmem | hmem
      · exact Or.inl hmem
      · rw [mem_singleton.mp hmem]
        exact Or.inr ⟨rfl, rfl⟩
  have hbytes : stateBytes
      { state with
        pendingRunCreated := true
        runBindings := emplace runId ownership state.runBindings } +
      namesBytes [runId] ≤ stateBytes state + runBytes runId ownership := by
    have hbindings : bindingsBytes (emplace runId ownership state.runBindings) ≤
        bindingsBytes state.runBindings +
          (ownership.map fun binding => bindingBytes (runId, binding)).getD 0 := by
      cases ownership with
      | none => exact Nat.le_add_right _ _
      | some binding =>
        simp only [emplace]
        split
        · exact Nat.le_add_right _ _
        · simp [bindingsBytes]
    unfold stateBytes runBytes
    simp only
    omega
  refine ⟨⟨?_, ?_, ?_⟩, hbytes.trans hsize⟩
  · obtain ⟨hreadable, _, _⟩ := h
    refine { hreadable with runBindings := fun entry hmem => ?_ }
    rcases hentries entry hmem with hold | ⟨hname, hbinding⟩
    · exact hreadable.runBindings entry hold
    · rw [hname]
      exact hownership entry.2 hbinding
  · have hready := h.consistent.ready
    have hused : state.inUse = true := by simp [inUse, hpending]
    have hknown : ∀ entry ∈ emplace runId ownership state.runBindings,
        entry.1 ∈ state.activeRuns ∨ state.pendingRun = some entry.1 := by
      intro entry hmem
      rcases hentries entry hmem with hold | ⟨hname, _⟩
      · exact (h.known hold).imp_right And.right
      · exact Or.inr (hname ▸ hpending)
    obtain ⟨_, hconsistent, _⟩ := h
    refine { hconsistent with pending := by simp [hpending], bindings := ?_, ready := ?_ }
    · simp only [bindsKnownRuns, all_eq_true, Bool.or_eq_true, Bool.true_and, decide_eq_true_eq]
      exact hknown
    · have hnotReady : state.restorationReady = false := by
        simpa [hused] using hready
      simp [hnotReady]
  · exact (Nat.le_add_right _ _).trans (hbytes.trans hsize)

theorem Fits.activate (hpending : state.pendingRun = some runId) (hrun : isSafeRunId runId = true)
    (hnew : runId ∉ state.activeRuns) (hsize : stateBytes state + namesBytes [runId] ≤ 64 * 1024) :
    Fits config
      ({ state with activeRuns := state.activeRuns ++ [runId] } :
        CgroupScopeState).clearPending := by
  have hused : state.inUse = true := by simp [inUse, hpending]
  have hknown : ∀ entry ∈ state.runBindings, entry.1 ∈ state.activeRuns ++ [runId] := by
    intro entry hmem
    rcases h.known hmem with hactive | ⟨_, hentry⟩
    · exact mem_append_left _ hactive
    · rw [hpending] at hentry
      rw [Option.some.inj hentry]
      exact mem_append_right _ mem_cons_self
  obtain ⟨hreadable, hconsistent, _⟩ := h
  have hsimulator := hconsistent.usedSimulator
  have hcontroller := hconsistent.usedController
  have hready := hconsistent.ready
  simp only [hused, Bool.not_true, Bool.false_or, Bool.false_and, Bool.or_false,
    Bool.not_eq_true'] at hsimulator hcontroller hready
  refine ⟨{ hreadable with activeRuns := ⟨?_, ?_⟩, pendingRun := rfl }, ?_, ?_⟩
  · simpa [clearPending, hrun] using hreadable.activeRuns.1
  · refine nodup_append.mpr ⟨hreadable.activeRuns.2, nodup_singleton runId, ?_⟩
    rintro active hmem _ (hlast : _ ∈ [runId]) rfl
    exact hnew (mem_singleton.mp hlast ▸ hmem)
  · refine
      { hconsistent with
        pending := rfl
        bindings := ?_
        usedSimulator := ?_
        usedController := ?_
        ready := ?_ }
    · simp only [bindsKnownRuns, clearPending, all_eq_true, Bool.or_eq_true]
      exact fun entry hmem => Or.inl (decide_eq_true (hknown entry hmem))
    · simp [clearPending, hsimulator]
    · rw [Bool.or_assoc]
      simp [clearPending, hcontroller]
    · simp [clearPending, hready]
  · have happend : namesBytes (state.activeRuns ++ [runId]) =
        namesBytes state.activeRuns + namesBytes [runId] := by
      simp [namesBytes]
    unfold stateBytes at hsize ⊢
    simp only [clearPending, happend]
    omega

end States

end Bbp.Cgroup
