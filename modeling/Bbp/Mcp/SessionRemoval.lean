import Bbp.Mcp.SubscriptionDelivery

/-!
# Which session a removal removes

`RemoveSession` looks its session up, waits with the mutex released until the session has
no operations and no callers left, and then goes on with the reference from before the
wait.  Meanwhile another removal or the end of a shutdown may have erased the record, and
the identifier may have been registered again.

A removal that is alone finds the record it started with: nobody else erases it.
-/

namespace Bbp.Mcp

open Library Service List

section Property

/-- Every removal that went on after its wait found the record it held still stored. -/
def RemovesOwnRecord (s : Service) : Prop :=
  ∀ removal, removal ∈ s.removals → removal.2 = some removal.1

def ServiceCall.removes (id : String) : ServiceCall → Bool
  | .removal sessionId _ => sessionId == id
  | _ => false

/--
A removal starts only when no other one of the same identifier is under way, and a shutdown
comes to its end only when none is.
-/
def RemovesAlone (s : Service) : ServiceAction → Prop
  | .beginRemoval id => ∀ c, c ∈ s.calls → c.removes id = false
  | .finishShutdown => ∀ c, c ∈ s.calls → c.pins = true
  | _ => True

instance decidableRemovesAlone
    (s : Service) (a : ServiceAction) :
    Decidable (RemovesAlone s a) := by
  unfold RemovesAlone
  split <;> infer_instance

end Property

section Invariant

/-- The identity of the record that is stored under an identifier. -/
def Service.held (s : Service) (id : String) : Option Nat := (s.session? id).map (·.record)

def Service.removalCalls (s : Service) : List ServiceCall := s.calls.filter (!·.pins)

/-- Two removals of different identifiers. -/
def Apart (c d : ServiceCall) : Prop := ∀ id, c.removes id = true → d.removes id = true → False

/-- Every removal under way holds the record that is stored. -/
structure RemovalsHold (s : Service) : Prop where
  stored : ∀ id record, .removal id record ∈ s.removalCalls → s.held id = some record
  alone : s.removalCalls.Pairwise Apart
  own : RemovesOwnRecord s

/-- A step that has nothing to do with removals. -/
structure KeepsRemovals (s t : Service) : Prop where
  held : ∀ id, t.held id = s.held id
  calls : t.removalCalls = s.removalCalls
  removals : t.removals = s.removals

variable {s t : Service}

theorem RemovalsHold.keep (h : RemovalsHold s) (hkeeps : KeepsRemovals s t) : RemovalsHold t where
  stored := by
    intro id record hcall
    rw [hkeeps.calls] at hcall
    rw [hkeeps.held]
    exact h.stored id record hcall
  alone := hkeeps.calls ▸ h.alone
  own := by
    unfold RemovesOwnRecord
    rw [hkeeps.removals]
    exact h.own

theorem held_eq
    (h : t.sessions.map (fun r => (r.id, r.record)) = s.sessions.map (fun r => (r.id, r.record)))
    (id : String) : t.held id = s.held id := by
  have hfind : ∀ u : Service, u.held id =
      ((u.sessions.map fun r => (r.id, r.record)).find? (·.1 = id)).map (·.2) := by
    intro u
    rw [find?_map, Option.map_map]
    rfl
  rw [hfind, hfind, h]

theorem SameShell.records (h : SameShell s t) :
    t.sessions.map (fun r => (r.id, r.record)) =
      s.sessions.map (fun r => (r.id, r.record)) := by
  have hmap := congrArg (map fun x : String × Bool × Nat => (x.1, x.2.2)) h.sessions
  rw [map_map, map_map] at hmap
  exact hmap

theorem SameShell.keepsRemovals (h : SameShell s t) : KeepsRemovals s t where
  held := held_eq h.records
  calls := by
    unfold removalCalls
    rw [h.calls]
  removals := h.removals

theorem KeepsRemovals.rfl :
    KeepsRemovals s s :=
  ⟨fun _ => Eq.refl _, Eq.refl _, Eq.refl _⟩

theorem KeepsRemovals.trans {u : Service} (h : KeepsRemovals s t) (h' : KeepsRemovals t u) :
    KeepsRemovals s u :=
  ⟨fun id => (h'.held id).trans (h.held id), h'.calls.trans h.calls,
    h'.removals.trans h.removals⟩

/-- Fields that removals do not look at, and sessions with the same records. -/
theorem KeepsRemovals.of_fields
    (hsessions : t.sessions.map (fun r => (r.id, r.record)) =
      s.sessions.map (fun r => (r.id, r.record)))
    (hcalls : t.removalCalls = s.removalCalls) (hremovals : t.removals = s.removals) :
    KeepsRemovals s t :=
  ⟨held_eq hsessions, hcalls, hremovals⟩

/-- The same with a step behind it. -/
theorem KeepsRemovals.behind {u : Service} (h : KeepsRemovals t u)
    (hsessions : t.sessions.map (fun r => (r.id, r.record)) =
      s.sessions.map (fun r => (r.id, r.record)))
    (hcalls : t.removalCalls = s.removalCalls) (hremovals : t.removals = s.removals) :
    KeepsRemovals s u :=
  (KeepsRemovals.of_fields hsessions hcalls hremovals).trans h

theorem settle_keepsRemovals {x : Section} (h : KeepsRemovals s x.1) : KeepsRemovals s x.settle :=
  h.trans (settle_shell SameFrame.rfl).keepsRemovals

theorem sessions_map_records
    (sessions : List SessionRecord) (p : SessionRecord → Prop) [DecidablePred p]
    (f : SessionRecord → SessionRecord) (hid : ∀ r, (f r).id = r.id)
    (hrecord : ∀ r, (f r).record = r.record) :
    (sessions.map fun r => if p r then f r else r).map (fun r => (r.id, r.record)) =
      sessions.map fun r => (r.id, r.record) := by
  rw [map_map]
  refine map_congr_left fun r _ => ?_
  simp only [Function.comp_apply]
  split
  · rw [hid, hrecord]
  · rfl

variable {calls : List ServiceCall}

/-- A call that waits is no removal. -/
theorem removalCalls_append {c : ServiceCall} (hc : c.pins = true) :
    (calls ++ [c]).filter (!·.pins) = calls.filter (!·.pins) := by
  simp [hc]

theorem removalCalls_erase {c : ServiceCall} (hc : c.pins = true) :
    (calls.erase c).filter (!·.pins) = calls.filter (!·.pins) := by
  induction calls with
  | nil => rfl
  | cons d calls ih =>
    by_cases hd : d = c
    · subst hd
      rw [erase_cons_head, filter_cons_of_neg (by simp [hc])]
    · rw [erase_cons_tail (by simpa using hd), filter_cons, filter_cons, ih]

end Invariant

section OtherSteps

variable (config : ServiceConfig) (s : Service)

variable (sessionId : String)

theorem submit_keepsRemovals (kind : McpOperationKind) (total : Nat) (id : String)
    (spawned : Bool) :
    KeepsRemovals s (submit config sessionId kind total id spawned s).1 := by
  have hnew : ∀ t, KeepsRemovals t (admitOperation sessionId kind total id spawned t).1 := by
    intro t
    unfold admitOperation
    split
    · exact .rfl
    dsimp only
    split
    · exact .of_fields (sessions_map_records t.sessions (fun r => r.id = sessionId)
          (fun r => { r with activeOperations := r.activeOperations + 1 })
          (fun _ => rfl) (fun _ => rfl))
        rfl rfl
    · exact .of_fields rfl rfl rfl
  unfold submit
  iterate 6
    split
    · exact .rfl
  have hevict : KeepsRemovals s (evictTerminalOperation config (collectFinishedWorkers s)).1 :=
    (evictTerminalOperation_shell config
      (collectFinishedWorkers s)).keepsRemovals.behind rfl rfl rfl
  exact Section.andThen_keeps hevict fun _ => hevict.trans (hnew _)

theorem beginRequest_keepsRemovals (id : String) : KeepsRemovals s (beginRequest id s).1 := by
  unfold beginRequest
  split
  · exact .rfl
  split
  · exact .rfl
  · split
    · exact .rfl
    · exact .of_fields rfl (removalCalls_append rfl) rfl

theorem cancelOperation_keepsRemovals (sessionId id : String) :
    KeepsRemovals s (cancelOperation config sessionId id s) := by
  have hchange := (changeOperation_shell config id (·.cancelling) s)
  unfold cancelOperation
  iterate 3
    split
    · exact .of_fields rfl rfl rfl
  dsimp only
  split
  · exact (settle_shell hchange).keepsRemovals.trans (.of_fields rfl rfl rfl)
  · exact hchange.keepsRemovals
  · exact hchange.keepsRemovals.trans (.of_fields rfl rfl rfl)

variable (request : McpSubscriptionRequest)

theorem admitSubscription_keepsRemovals (id : String) :
    KeepsRemovals s (admitSubscription config sessionId request id s).1 := by
  have hevict : KeepsRemovals s (evictSubscription config sessionId s).1 := by
    unfold evictSubscription
    split
    · exact .rfl
    · split
      · exact .rfl
      · exact .of_fields rfl rfl rfl
  unfold admitSubscription
  iterate 4
    split
    · exact .rfl
  split
  · exact .rfl
  · exact Section.andThen_keeps hevict fun _ => hevict.trans (.of_fields rfl rfl rfl)

theorem createSubscription_keepsRemovals (id : String) :
    KeepsRemovals s (createSubscription config sessionId request id s) := by
  have hnew := admitSubscription_keepsRemovals config s sessionId request id
  unfold createSubscription
  dsimp only
  split
  · exact (settle_keepsRemovals hnew).trans (.of_fields rfl rfl rfl)
  · exact hnew.trans (.of_fields rfl rfl rfl)

theorem endPoll_keepsRemovals (sessionId id : String) (after limit : Nat) (followed : Bool) :
    KeepsRemovals s (endPoll sessionId id after limit followed s) := by
  have hleft : KeepsRemovals s
      { s with calls := s.calls.erase (.poll sessionId id after limit followed) } :=
    .of_fields rfl (removalCalls_erase rfl) rfl
  unfold endPoll
  dsimp only
  split
  · exact hleft.trans (.of_fields rfl rfl rfl)
  · split
    all_goals exact hleft.trans (.of_fields rfl rfl rfl)

theorem publish_keepsRemovals (record : McpEvidenceRecord) :
    KeepsRemovals s (publish config record s).1 := by
  unfold publish
  iterate 3
    split
    · exact .rfl
  exact (queueRecords_queues config record _ _).shell.keepsRemovals.behind rfl rfl rfl

theorem operationHandled_keepsRemovals (update : OperationUpdate) (failed : Bool) :
    KeepsRemovals s (operationHandled update failed s) := by
  unfold operationHandled
  dsimp only
  split
  · exact .of_fields rfl rfl rfl
  · split
    all_goals exact .of_fields rfl rfl rfl

theorem notificationHandled_keepsRemovals {t : Service} (failed : Bool)
    (h : notificationHandled failed s = some t) : KeepsRemovals s t := by
  unfold notificationHandled at h
  split at h
  next notification _ =>
    have hseen : KeepsRemovals s
        (if failed then s else s.observe notification.sessionId (.notified notification)) := by
      split
      · exact .rfl
      · exact .of_fields rfl rfl rfl
    dsimp only at h
    split at h
    · cases h
      exact hseen.trans (operationHandled_keepsRemovals _ _ _)
    · cases h
      exact hseen.trans (.of_fields rfl rfl rfl)
  · cases h

theorem beginShutdown_keepsRemovals {x : Section} (owner : Option String)
    (h : beginShutdown config owner s = some x) : KeepsRemovals s x.1 := by
  unfold beginShutdown at h
  split at h <;> cases h
  have hcancel : KeepsRemovals s (requestCancellations config (s.operations.map (·.id))
      { s with accepting := false, phase := .stopping owner none }).1 :=
    (requestCancellations_shell config _ _).keepsRemovals.behind rfl rfl rfl
  exact Section.andThen_keeps hcancel fun _ => hcancel.trans (.of_fields rfl rfl rfl)

end OtherSteps

section Removals

variable {config : ServiceConfig} {s : Service}

theorem apart_symm {c d : ServiceCall} (h : Apart c d) : Apart d c := fun id hd hc => h id hc hd

theorem registerSession_holds (h : RemovalsHold s) (id : String) :
    RemovalsHold (registerSession config id s).1 := by
  unfold registerSession
  split
  · exact h
  split
  · exact h
  rename_i hunknown
  split
  · exact h
  refine ⟨?_, h.alone, h.own⟩
  intro other record hcall
  have hheld := h.stored other record hcall
  obtain ⟨r, hr, hrecord⟩ := Option.map_eq_some_iff.mp hheld
  unfold Service.held session?
  rw [find?_append]
  unfold session? at hr
  rw [hr, Option.some_or]
  exact congrArg some hrecord

theorem beginRemoval_holds (h : RemovalsHold s) (id : String)
    (halone : ∀ c ∈ s.calls, c.removes id = false) :
    RemovalsHold (beginRemoval config id s).1 := by
  unfold beginRemoval
  split
  · exact h
  rename_i r hr
  have hheld : s.held id = some r.record := by
    unfold Service.held
    rw [hr]
    rfl
  have hcancel : KeepsRemovals s (requestCancellations config
      ((s.operations.filter (·.sessionId = id)).map (·.id))
      { s with
        sessions := s.sessions.map fun r =>
          if r.id = id then { r with closing := true } else r }).1 :=
    (requestCancellations_shell config _ _).keepsRemovals.behind
      (sessions_map_records s.sessions (fun r => r.id = id)
        (fun r => { r with closing := true }) (fun _ => rfl) (fun _ => rfl)) rfl rfl
  have hkept := h.keep hcancel
  refine Section.andThen_keeps hkept fun _ => ?_
  have hcalls : ∀ calls : List ServiceCall,
      (calls ++ [ServiceCall.removal id r.record]).filter (!·.pins) =
        calls.filter (!·.pins) ++ [ServiceCall.removal id r.record] := by
    intro calls
    rw [filter_append]
    rfl
  refine ⟨?_, ?_, hkept.own⟩
  · intro other record hcall
    change ServiceCall.removal other record ∈
      (_ ++ [ServiceCall.removal id r.record]).filter (!·.pins) at hcall
    rw [hcalls] at hcall
    rcases mem_append.mp hcall with hold | hnew
    · exact hkept.stored other record hold
    · cases mem_singleton.mp hnew
      exact (hcancel.held id).trans hheld
  · change ((_ ++ [ServiceCall.removal id r.record]).filter (!·.pins)).Pairwise Apart
    rw [hcalls]
    refine pairwise_append.mpr ⟨hkept.alone, pairwise_singleton _ _, ?_⟩
    intro c hc d hd other hcother hdother
    rw [mem_singleton.mp hd] at hdother
    have hid : id = other := beq_iff_eq.mp hdother
    have hmem : c ∈ s.calls := by
      have hfilter : c ∈ s.removalCalls := hcancel.calls ▸ hc
      exact mem_of_mem_filter hfilter
    have hnot := halone c hmem
    rw [hid, hcother] at hnot
    cases hnot

theorem RemovalsHold.quiet (h : RemovalsHold s) (hquiet : QuietStep s t) : RemovalsHold t := by
  obtain ⟨⟨pending, delivery, calls, observed, rfl⟩, hcalls⟩ := hquiet
  exact ⟨fun id record hcall => h.stored id record (hcalls.subset hcall), h.alone.sublist hcalls,
    h.own⟩

/-- A removal takes the record it holds, and leaves those that other removals hold. -/
theorem endRemoval_holds (h : RemovalsHold s) (id : String) (record : Nat)
    (hcall : .removal id record ∈ s.calls) : RemovalsHold (endRemoval id record s) := by
  have hmine : .removal id record ∈ s.removalCalls := mem_filter.mpr ⟨hcall, rfl⟩
  have hheld := h.stored id record hmine
  have hrest : (s.calls.erase (.removal id record)).filter (!·.pins) =
      s.removalCalls.erase (.removal id record) := by
    unfold removalCalls
    rw [erase_filter]
  have hapart : ∀ c ∈ s.removalCalls.erase (.removal id record),
      Apart (.removal id record) c := by
    have hperm := perm_cons_erase hmine
    have hpair := (hperm.pairwise_iff apart_symm).mp h.alone
    exact (pairwise_cons.mp hpair).1
  refine ⟨?_, ?_, ?_⟩
  · intro other number hother
    change ServiceCall.removal other number ∈ (s.calls.erase _).filter (!·.pins) at hother
    rw [hrest] at hother
    have hne : other ≠ id := by
      rintro rfl
      exact hapart _ hother other (beq_self_eq_true other) (beq_self_eq_true other)
    have hstored := h.stored other number (mem_of_mem_erase hother)
    unfold Service.held session? at hstored ⊢
    change ((s.sessions.filter (·.id ≠ id)).find? (·.id = other)).map (·.record) = _
    rw [find?_filter]
    have hsame : (fun r : SessionRecord => decide (decide (r.id ≠ id) = true ∧
        decide (r.id = other) = true)) = fun r => decide (r.id = other) := by
      funext r
      by_cases hr : r.id = other
      · simp [hr, hne]
      · simp [hr]
    rw [hsame]
    exact hstored
  · change ((s.calls.erase _).filter (!·.pins)).Pairwise Apart
    rw [hrest]
    exact h.alone.sublist erase_sublist
  · intro removal hremoval
    rcases mem_append.mp hremoval with hold | hnew
    · exact h.own removal hold
    · rw [mem_singleton.mp hnew]
      exact hheld

theorem serviceStep_removals (config : ServiceConfig)
    (s : Service) (a : ServiceAction) (t : Service) (hstep : serviceStep config s a = some t)
    (halone : RemovesAlone s a) (h : RemovalsHold s) : RemovalsHold t := by
  by_cases hquiet : a.isQuiet = true
  · exact h.quiet (serviceStep_quiet hquiet hstep)
  cases a with
  | registerSession id =>
    cases hstep
    exact (registerSession_holds h id).keep (settle_keepsRemovals .rfl)
  | beginRemoval id =>
    cases hstep
    exact (beginRemoval_holds h id halone).keep (settle_keepsRemovals .rfl)
  | endRemoval id record =>
    simp only [serviceStep] at hstep
    split at hstep <;> cases hstep
    next hguard =>
      exact endRemoval_holds h id record hguard.1
  | beginRequest id =>
    cases hstep
    exact h.keep (settle_keepsRemovals (beginRequest_keepsRemovals s id))
  | submit sessionId kind total id spawned =>
    simp only [serviceStep] at hstep
    split at hstep <;> cases hstep
    exact h.keep (settle_keepsRemovals
      (submit_keepsRemovals config s sessionId kind total id spawned))
  | startOperation id =>
    obtain ⟨record, _, rfl⟩ := Option.map_eq_some_iff.mp hstep
    exact h.keep (startOperation_shell config record s).keepsRemovals
  | reportProgress id completed =>
    cases hstep
    exact h.keep (settle_shell (reportProgress_shell config id completed s)).keepsRemovals
  | finishOperation id ending =>
    obtain ⟨record, _, rfl⟩ := Option.map_eq_some_iff.mp hstep
    exact h.keep
      (settleAt_shell (completeOperation_shell config record.id ending s) _ _).keepsRemovals
  | escape | exitWorker =>
    obtain ⟨record, _, rfl⟩ := Option.map_eq_some_iff.mp hstep
    exact h.keep (updateOperation_shell s _ _).keepsRemovals
  | failUnexpected id =>
    obtain ⟨record, _, rfl⟩ := Option.map_eq_some_iff.mp hstep
    exact h.keep (failUnexpectedOperation_shell config record s).keepsRemovals
  | cancelOperation sessionId id =>
    cases hstep
    exact h.keep (cancelOperation_keepsRemovals config s sessionId id)
  | createSubscription sessionId request id =>
    simp only [serviceStep] at hstep
    split at hstep <;> cases hstep
    exact h.keep (createSubscription_keepsRemovals config s sessionId request id)
  | endPoll sessionId id after limit followed =>
    simp only [serviceStep] at hstep
    split at hstep <;> cases hstep
    exact h.keep (endPoll_keepsRemovals s sessionId id after limit followed)
  | cancelSubscription sessionId id =>
    cases hstep
    unfold cancelSubscription
    split
    all_goals exact h.keep (.of_fields rfl rfl rfl)
  | closeRunSubscriptions runId =>
    cases hstep
    exact h.keep (.of_fields rfl rfl rfl)
  | publish record =>
    cases hstep
    exact h.keep (settle_keepsRemovals (publish_keepsRemovals config s record))
  | notificationHandled failed => exact h.keep (notificationHandled_keepsRemovals s failed hstep)
  | beginShutdown owner =>
    obtain ⟨x, hx, rfl⟩ := Option.map_eq_some_iff.mp hstep
    exact h.keep (settle_keepsRemovals (beginShutdown_keepsRemovals config s owner hx))
  | finishShutdown =>
    simp only [serviceStep, finishShutdown] at hstep
    split at hstep
    · split at hstep <;> cases hstep
      have hnone : s.removalCalls = [] :=
        filter_eq_nil_iff.mpr fun c hc => by simpa using halone c hc
      have hcalls : (finalizeShutdown s).removalCalls = [] := hnone
      refine ⟨?_, ?_, h.own⟩
      · intro id record hcall
        rw [hcalls] at hcall
        cases hcall
      · rw [hcalls]
        exact List.Pairwise.nil
    · cases hstep
  | _ => exact absurd rfl hquiet

/-- Removals that are alone remove the sessions they started with. -/
theorem lone_removals_remove_own_record
    (config : ServiceConfig) (actions : List ServiceAction) (s : Service)
    (halone : (serviceMachine config).Meets RemovesAlone Service.empty actions)
    (hrun : (serviceMachine config).run Service.empty actions = some s) : RemovesOwnRecord s := by
  have hstart : RemovalsHold Service.empty :=
    ⟨fun _ _ h => (nomatch h), List.Pairwise.nil, fun _ h => (nomatch h)⟩
  have hholds : RemovalsHold s :=
    (serviceMachine config).meets_preserves (serviceStep_removals config) halone hrun hstart
  exact hholds.own

/-- A session is removed, registered again, and removed by a removal from before. -/
def overlappingRemovals : List ServiceAction :=
  [.registerSession "a", .beginRemoval "a", .beginRemoval "a", .endRemoval "a" 0,
    .registerSession "a", .endRemoval "a" 0]

/-- The second removal erases the session that was registered after it had started. -/
theorem overlapping_removal_erases_new_session :
    ∃ s,
      (serviceMachine smallConfig).run Service.empty overlappingRemovals = some s ∧
      ¬ RemovesOwnRecord s ∧
      (0, some 1) ∈ s.removals ∧
      s.sessions.length = 0 := by
  obtain ⟨s, hrun, hs⟩ := (serviceMachine smallConfig).run_of_any Service.empty overlappingRemovals
    (fun s : Service => decide ((0, some 1) ∈ s.removals) && s.sessions.length == 0)
    (by decide +kernel)
  rw [Bool.and_eq_true, decide_eq_true_eq, beq_iff_eq] at hs
  refine ⟨s, hrun, fun hown => ?_, hs.1, hs.2⟩
  exact absurd (hown _ hs.1) (by decide)

/-- A session that is registered again after its removal. -/
def removalsInTurn : List ServiceAction :=
  [.registerSession "a", .beginRemoval "a", .endRemoval "a" 0, .registerSession "a",
    .beginRemoval "a", .endRemoval "a" 1]

theorem removals_in_turn_remove_own_record :
    ∃ s,
      (serviceMachine smallConfig).run Service.empty removalsInTurn = some s ∧
      RemovesOwnRecord s ∧
      s.removals.length = 2 := by
  obtain ⟨s, hrun, hs⟩ := (serviceMachine smallConfig).run_of_any Service.empty
    removalsInTurn (fun s : Service => s.removals.length == 2) (by decide +kernel)
  exact ⟨s, hrun,
    lone_removals_remove_own_record smallConfig removalsInTurn s (by decide +kernel) hrun,
    beq_iff_eq.mp hs⟩

end Removals

end Bbp.Mcp
