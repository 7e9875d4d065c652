import Bbp.Library.Records
import Bbp.Mcp.OperationService

/-!
# What the critical sections of the operation service leave alone

The sections that change an operation share a few building blocks.  They touch the
operations, the waiting notifications, the counters and nothing else; `SameShell` says so
once, and every later result about subscriptions, sessions and calls uses it.

`SubscriptionOrigin` says where each subscription after a step comes from.
-/

namespace Bbp.Mcp

open Library

section Composition

theorem Section.andThen_cases (x : Section) (f : Service → Section) :
    (x.2 = none ∧ x.andThen f = f x.1) ∨ (∃ e, x.2 = some e ∧ x.andThen f = x) := by
  unfold Section.andThen
  cases h : x.2 with
  | none => exact .inl ⟨rfl, rfl⟩
  | some e => exact .inr ⟨e, rfl, rfl⟩

/-- What two sections keep, one after the other keeps. -/
theorem Section.andThen_keeps {I : Service → Prop} {x : Section} {f : Service → Section}
    (hx : I x.1) (hf : x.2 = none → I (f x.1).1) : I (x.andThen f).1 := by
  rcases x.andThen_cases f with ⟨hnone, heq⟩ | ⟨e, _, heq⟩
  · rw [heq]
    exact hf hnone
  · rw [heq]
    exact hx

/-- An exception of two sections comes from one of them. -/
theorem Section.andThen_error {x : Section} {f : Service → Section} {e : ServiceError}
    (h : (x.andThen f).2 = some e) : x.2 = some e ∨ (x.2 = none ∧ (f x.1).2 = some e) := by
  rcases x.andThen_cases f with ⟨hnone, heq⟩ | ⟨e', hsome, heq⟩
  · rw [heq] at h
    exact .inr ⟨hnone, h⟩
  · rw [heq] at h
    exact .inl h

end Composition

section Shell

/-- The fields of a session that no operation changes. -/
def SessionRecord.shell (r : SessionRecord) : String × Bool × Nat := (r.id, r.closing, r.record)

/-- Everything but the operations, their notifications and the counters. -/
structure SameShell (s t : Service) : Prop where
  sessions : t.sessions.map (·.shell) = s.sessions.map (·.shell)
  subscriptions : t.subscriptions = s.subscriptions
  delivery : t.delivery = s.delivery
  calls : t.calls = s.calls
  admission : t.nextAdmissionSequence = s.nextAdmissionSequence
  accepting : t.accepting = s.accepting
  phase : t.phase = s.phase
  record : t.nextRecord = s.nextRecord
  removals : t.removals = s.removals
  observed : t.observed = s.observed

variable {s : Service}

theorem SameShell.rfl : SameShell s s :=
  ⟨Eq.refl _, Eq.refl _, Eq.refl _, Eq.refl _, Eq.refl _, Eq.refl _, Eq.refl _, Eq.refl _,
    Eq.refl _, Eq.refl _⟩

theorem SameShell.trans {s t u : Service} (h : SameShell s t) (h' : SameShell t u) :
    SameShell s u where
  sessions := h'.sessions.trans h.sessions
  subscriptions := h'.subscriptions.trans h.subscriptions
  delivery := h'.delivery.trans h.delivery
  calls := h'.calls.trans h.calls
  admission := h'.admission.trans h.admission
  accepting := h'.accepting.trans h.accepting
  phase := h'.phase.trans h.phase
  record := h'.record.trans h.record
  removals := h'.removals.trans h.removals
  observed := h'.observed.trans h.observed

/-- What a section leaves alone until it is settled: the shell, and the exceptions of others. -/
structure SameFrame (s t : Service) : Prop extends SameShell s t where
  thrown : t.thrown = s.thrown

theorem SameFrame.rfl : SameFrame s s := ⟨.rfl, Eq.refl _⟩

theorem SameFrame.trans {s t u : Service} (h : SameFrame s t) (h' : SameFrame t u) :
    SameFrame s u :=
  ⟨h.toSameShell.trans h'.toSameShell, h'.thrown.trans h.thrown⟩

/-- Fields outside of the frame may change freely. -/
theorem SameFrame.of_operations
    (s : Service) (operations : List OperationRecord) (pending : List ServiceNotification)
    (next active : Nat) :
    SameFrame s
      { s with
        operations := operations
        pending := pending
        nextStateSequence := next
        activeOperations := active } :=
  ⟨⟨Eq.refl _, Eq.refl _, Eq.refl _, Eq.refl _, Eq.refl _, Eq.refl _, Eq.refl _, Eq.refl _,
    Eq.refl _, Eq.refl _⟩, Eq.refl _⟩

theorem updateOperation_shell (s : Service) (id : String) (f : OperationRecord → OperationRecord) :
    SameFrame s (s.updateOperation id f) :=
  .of_operations s _ _ _ _

variable {x : Section}

theorem settle_shell (h : SameFrame s x.1) : SameShell s x.settle := by
  unfold Section.settle
  split
  · exact h.toSameShell
  · exact h.toSameShell.trans (t := x.1) ⟨Eq.refl _, Eq.refl _, Eq.refl _, Eq.refl _, Eq.refl _,
      Eq.refl _, Eq.refl _, Eq.refl _, Eq.refl _, Eq.refl _⟩

theorem andThen_shell {f : Service → Section} (hx : SameFrame s x.1)
    (hf : ∀ t, SameFrame t (f t).1) : SameFrame s (x.andThen f).1 :=
  Section.andThen_keeps hx fun _ => hx.trans (hf x.1)

theorem incrementSequence_shell (id : String) (s : Service) :
    SameFrame s (incrementSequence id s).1 := by
  unfold incrementSequence
  split
  · exact .rfl
  · exact .of_operations s _ _ _ _

/-- The fields of an operation that no notification changes. -/
def OperationRecord.undelivered (r : OperationRecord) : OperationRecord :=
  { r with lastDeliveredSequence := 0 }

/-- A section that queues notifications, and throws only when the queue is full. -/
structure Queues (s : Service) (x : Section) : Prop where
  same : ∃ operations pending, x.1 = { s with operations, pending } ∧
    operations.map (·.undelivered) = s.operations.map (·.undelivered)
  error : ∀ e, x.2 = some e → e = .notificationBound

theorem Queues.shell (h : Queues s x) : SameFrame s x.1 := by
  obtain ⟨operations, pending, heq, -⟩ := h.same
  rw [heq]
  exact .of_operations s _ _ _ _

theorem Queues.andThen {f : Service → Section} (hx : Queues s x) (hf : ∀ t, Queues t (f t)) :
    Queues s (x.andThen f) := by
  refine ⟨Section.andThen_keeps (I := fun t => ∃ operations pending,
    t = { s with operations, pending } ∧
      operations.map (·.undelivered) = s.operations.map (·.undelivered)) hx.same fun _ => ?_, ?_⟩
  · obtain ⟨_, _, hfirst, hsame⟩ := hx.same
    obtain ⟨operations, pending, hsecond, hsame'⟩ := (hf x.1).same
    rw [hfirst] at hsecond hsame'
    rw [hfirst]
    exact ⟨operations, pending, hsecond, hsame'.trans hsame⟩
  · intro e he
    rcases Section.andThen_error he with hfirst | ⟨_, hsecond⟩
    · exact hx.error e hfirst
    · exact (hf x.1).error e hsecond

variable (config : ServiceConfig)

include config

theorem pushNotification_queues (n : ServiceNotification) (s : Service) :
    Queues s (pushNotification config n s) := by
  unfold pushNotification
  split
  · exact ⟨⟨_, _, rfl, rfl⟩, fun e he => (Option.some.inj he).symm⟩
  · exact ⟨⟨_, _, rfl, rfl⟩, nofun⟩

theorem queueOperationNotification_queues (id : String) (s : Service) :
    Queues s (queueOperationNotification config id s) := by
  unfold queueOperationNotification
  split
  · exact ⟨⟨_, _, rfl, rfl⟩, nofun⟩
  split
  · exact ⟨⟨_, _, rfl, rfl⟩, nofun⟩
  split
  · exact ⟨⟨_, _, rfl, map_updateKey_of_eq (q := OperationRecord.id) fun _ _ _ => rfl⟩, nofun⟩
  dsimp only
  split
  · split
    all_goals exact ⟨⟨_, _, rfl, rfl⟩, nofun⟩
  · exact pushNotification_queues config _ s

theorem queueSubscriptionNotification_queues (sessionId id : String) (item : McpEvidenceRecord)
    (s : Service) : Queues s (queueSubscriptionNotification config sessionId id item s) := by
  unfold queueSubscriptionNotification
  dsimp only
  split
  · exact ⟨⟨_, _, rfl, rfl⟩, nofun⟩
  · split
    · exact ⟨⟨_, _, rfl, rfl⟩, nofun⟩
    · exact pushNotification_queues config _ s

theorem queueRecords_queues (record : McpEvidenceRecord) (rs : List SubscriptionRecord)
    (s : Service) : Queues s (queueRecords config record rs s) := by
  induction rs generalizing s with
  | nil => exact ⟨⟨_, _, rfl, rfl⟩, nofun⟩
  | cons r rs ih => exact (queueSubscriptionNotification_queues config _ _ _ s).andThen ih

theorem changeOperation_shell (id : String)
    (f : McpOperationSnapshot → McpOperationSnapshot) (s : Service) :
    SameFrame s (changeOperation config id f s).1 :=
  andThen_shell ((updateOperation_shell s _ _).trans (incrementSequence_shell id _))
    fun t => (queueOperationNotification_queues config id t).shell

omit config in
theorem releaseOperation_shell (sessionId : String) (s : Service) :
    SameFrame s (releaseOperation sessionId s).1 := by
  unfold releaseOperation
  split
  · exact .rfl
  split
  · exact .rfl
  refine ⟨⟨?_, Eq.refl _, Eq.refl _, Eq.refl _, Eq.refl _, Eq.refl _, Eq.refl _, Eq.refl _,
    Eq.refl _, Eq.refl _⟩, Eq.refl _⟩
  dsimp only
  rw [List.map_map]
  refine List.map_congr_left fun r _ => ?_
  simp only [Function.comp_apply]
  split <;> rfl

theorem completeOperation_shell (id : String) (ending : OperationEnd) (s : Service) :
    SameFrame s (completeOperation config id ending s).1 := by
  unfold completeOperation
  split
  · exact .rfl
  split
  · exact .rfl
  exact andThen_shell
    (andThen_shell ((updateOperation_shell s _ _).trans (incrementSequence_shell id _))
      (releaseOperation_shell _))
    fun t => (queueOperationNotification_queues config id t).shell

theorem requestCancellation_shell (id : String) (s : Service) :
    SameFrame s (requestCancellation config id s).1 := by
  unfold requestCancellation
  split
  · exact .rfl
  · split
    · exact .rfl
    · exact changeOperation_shell config id _ s

theorem requestCancellations_shell (ids : List String) (s : Service) :
    SameFrame s (requestCancellations config ids s).1 := by
  induction ids generalizing s with
  | nil => exact .rfl
  | cons id ids ih => exact andThen_shell (requestCancellation_shell config id s) ih

omit config in
theorem settleAt_shell (h : SameFrame s x.1) (id : String) (place : WorkerPlace) :
    SameShell s (x.settleAt id place) := by
  unfold Section.settleAt
  split
  · exact (h.trans (updateOperation_shell _ _ _)).toSameShell
  · exact (settle_shell h).trans (updateOperation_shell _ _ _).toSameShell

theorem startOperation_shell (r : OperationRecord) (s : Service) :
    SameShell s (startOperation config r s) := by
  unfold startOperation
  split
  · exact settleAt_shell (completeOperation_shell config _ _ s) _ _
  · exact settleAt_shell (changeOperation_shell config _ _ s) _ _

theorem reportProgress_shell (id : String) (completed : Nat) (s : Service) :
    SameFrame s (reportProgress config id completed s).1 := by
  unfold reportProgress
  iterate 3
    split
    · exact .rfl
  split
  · exact .rfl
  · split
    · exact .rfl
    · exact changeOperation_shell config id _ s

theorem failUnexpectedOperation_shell (r : OperationRecord) (s : Service) :
    SameShell s (failUnexpectedOperation config r s) := by
  unfold failUnexpectedOperation
  dsimp only
  split
  · exact (updateOperation_shell _ _ _).toSameShell
  · exact (settle_shell (completeOperation_shell config _ _ s)).trans
      (updateOperation_shell _ _ _).toSameShell

theorem evictTerminalOperation_shell (s : Service) :
    SameFrame s (evictTerminalOperation config s).1 := by
  unfold evictTerminalOperation
  split
  · exact .rfl
  · split
    · exact .rfl
    · exact .of_operations s _ _ _ _

end Shell

section SettledFields

theorem Section.settle_eq (x : Section) : x.settle = { x.1 with thrown := x.settle.thrown } := by
  unfold Section.settle
  split <;> rfl

@[simp] theorem settle_subscriptions (x : Section) :
    x.settle.subscriptions = x.1.subscriptions := by
  unfold Section.settle
  split <;> rfl

@[simp] theorem observe_subscriptions
    (s : Service) (sessionId : String) (observation : Observation) :
    (s.observe sessionId observation).subscriptions = s.subscriptions := rfl

end SettledFields

section Origins

/-- Where a subscription after a step comes from. -/
inductive SubscriptionOrigin (config : ServiceConfig) (s : Service) :
    ServiceAction → SubscriptionRecord → Prop
  | kept {a : ServiceAction} {r : SubscriptionRecord} (active : Bool) :
      r ∈ s.subscriptions →
      SubscriptionOrigin config s a { r with active := active }
  | given {record : McpEvidenceRecord} {r : SubscriptionRecord} :
      r ∈ s.subscriptions →
      r.receives record = true →
      r.nextSequence ≠ maximumWord →
      SubscriptionOrigin config s (.publish record)
        (r.give config.maximumNotificationsPerSubscription record)
  | followed {r : SubscriptionRecord} {after limit : Nat} :
      r ∈ s.subscriptions →
      SubscriptionOrigin config s (.endPoll r.sessionId r.id after limit true)
        (r.follow (r.subscriptionSnapshot after limit))
  | created {sessionId id : String} {request : McpSubscriptionRequest} :
      request.valid = true →
      SubscriptionOrigin config s (.createSubscription sessionId request id)
        (createdSubscription id sessionId request s.nextAdmissionSequence)

variable {config : ServiceConfig} {s t : Service} {a : ServiceAction}

/-- A subscription that is in the service already. -/
theorem SubscriptionOrigin.same {r : SubscriptionRecord} (h : r ∈ s.subscriptions) :
    SubscriptionOrigin config s a r :=
  SubscriptionOrigin.kept r.active h

theorem origin_of_subset (h : ∀ r ∈ t.subscriptions, r ∈ s.subscriptions)
    (r : SubscriptionRecord) (hr : r ∈ t.subscriptions) : SubscriptionOrigin config s a r :=
  .same (h r hr)

theorem origin_of_shell (h : SameShell s t) (r : SubscriptionRecord) (hr : r ∈ t.subscriptions) :
    SubscriptionOrigin config s a r :=
  .same (h.subscriptions ▸ hr)

/-- Subscriptions that a step may have made inactive. -/
theorem origin_of_deactivate
    {p : SubscriptionRecord → Bool} {subscriptions : List SubscriptionRecord}
    (h : ∀ r ∈ subscriptions, r ∈ s.subscriptions) (r : SubscriptionRecord)
    (hr : r ∈ subscriptions.map fun r => if p r then { r with active := false } else r) :
    SubscriptionOrigin config s a r := by
  obtain ⟨r₀, hr₀, rfl⟩ := List.mem_map.mp hr
  split
  · exact .kept false (h r₀ hr₀)
  · exact .same (h r₀ hr₀)

theorem beginRemoval_origin (id : String) (r : SubscriptionRecord)
    (hr : r ∈ (beginRemoval config id s).1.subscriptions) : SubscriptionOrigin config s a r := by
  unfold beginRemoval at hr
  split at hr
  · exact .same hr
  rename_i record _
  have hshell := requestCancellations_shell config
    ((s.operations.filter (·.sessionId = id)).map (·.id))
    { s with
      sessions := s.sessions.map fun r => if r.id = id then { r with closing := true } else r }
  revert r hr
  refine Section.andThen_keeps (I := fun t => ∀ r ∈ t.subscriptions,
    SubscriptionOrigin config s a r) ?_ ?_
  · exact fun r hr => .same (hshell.subscriptions ▸ hr)
  · intro _ r hr
    refine origin_of_deactivate (p := fun r => r.sessionId = id) ?_ r (by simpa using hr)
    exact fun r₀ hr₀ => hshell.subscriptions ▸ hr₀

theorem submit_shell (sessionId : String) (kind : McpOperationKind) (total : Nat) (id : String)
    (spawned : Bool) :
    (submit config sessionId kind total id spawned s).1.subscriptions = s.subscriptions := by
  have hcollect : (collectFinishedWorkers s).subscriptions = s.subscriptions := rfl
  have hnew : ∀ t : Service, (admitOperation sessionId kind total id spawned t).1.subscriptions =
        t.subscriptions := by
    intro t
    unfold admitOperation
    split
    · rfl
    · dsimp only
      split <;> rfl
  unfold submit
  iterate 6
    split
    · rfl
  have hevict := (evictTerminalOperation_shell config (collectFinishedWorkers s)).subscriptions
  exact Section.andThen_keeps (I := fun t => t.subscriptions = s.subscriptions)
    (hevict.trans hcollect)
    (fun _ => (hnew _).trans (hevict.trans hcollect))

theorem admitSubscription_origin
    (sessionId : String) (request : McpSubscriptionRequest) (id : String) (r : SubscriptionRecord)
    (hr : r ∈ (admitSubscription config sessionId request id s).1.subscriptions) :
    SubscriptionOrigin config s (.createSubscription sessionId request id) r := by
  have hevict : (∀ r ∈ (evictSubscription config sessionId s).1.subscriptions,
        r ∈ s.subscriptions) ∧
      (evictSubscription config sessionId s).1.nextAdmissionSequence = s.nextAdmissionSequence := by
    unfold evictSubscription
    split
    · exact ⟨fun r hr => hr, rfl⟩
    · split
      · exact ⟨fun r hr => hr, rfl⟩
      · exact ⟨fun r hr => List.mem_of_mem_filter hr, rfl⟩
  unfold admitSubscription at hr
  split at hr
  · exact .same hr
  rename_i hvalid
  iterate 4
    split at hr
    · exact .same hr
  revert r hr
  refine Section.andThen_keeps (I := fun t => ∀ r ∈ t.subscriptions,
    SubscriptionOrigin config s (.createSubscription sessionId request id) r) ?_ ?_
  · exact fun r hr => .same (hevict.1 r hr)
  · intro _ r hr
    rcases List.mem_append.mp hr with hold | hnew
    · exact .same (hevict.1 r hold)
    · rw [List.mem_singleton.mp hnew, hevict.2]
      exact .created (by simpa using hvalid)

theorem createSubscription_origin
    (sessionId : String) (request : McpSubscriptionRequest) (id : String) (r : SubscriptionRecord)
    (hr : r ∈ (createSubscription config sessionId request id s).subscriptions) :
    SubscriptionOrigin config s (.createSubscription sessionId request id) r := by
  unfold createSubscription at hr
  dsimp only at hr
  split at hr
  · exact admitSubscription_origin sessionId request id r (by simpa using hr)
  · exact admitSubscription_origin sessionId request id r hr

theorem requireSubscription_ok {sessionId id : String} {r : SubscriptionRecord}
    (h : s.requireSubscription sessionId id = .ok r) :
    r ∈ s.subscriptions ∧ r.sessionId = sessionId ∧ r.id = id := by
  unfold Service.requireSubscription at h
  split at h
  · cases h
  split at h
  · cases h
  · rename_i hfound
    cases h
    exact ⟨List.mem_of_find?_eq_some hfound, by simpa using List.find?_some hfound⟩

theorem endPoll_origin (sessionId id : String) (after limit : Nat) (followed : Bool)
    (r : SubscriptionRecord)
    (hr : r ∈ (endPoll sessionId id after limit followed s).subscriptions) :
    SubscriptionOrigin config s (.endPoll sessionId id after limit followed) r := by
  unfold endPoll at hr
  dsimp only at hr
  split at hr
  · exact .same hr
  rename_i polled hpolled
  obtain ⟨hmem, rfl, rfl⟩ := requireSubscription_ok hpolled
  split at hr
  next hfollowed =>
    subst hfollowed
    obtain ⟨r₀, hr₀, rfl⟩ := List.mem_map.mp hr
    split
    next => exact .followed hmem
    next => exact .same hr₀
  next => exact .same hr

theorem cancelSubscription_origin (sessionId id : String) (r : SubscriptionRecord)
    (hr : r ∈ (cancelSubscription config sessionId id s).subscriptions) :
    SubscriptionOrigin config s a r := by
  unfold cancelSubscription at hr
  split at hr
  · exact .same hr
  · refine origin_of_deactivate (p := fun r => r.sessionId = sessionId ∧ r.id = id)
      (fun _ h => h) r ?_
    simpa [Service.observe, Service.updateSubscription] using hr

theorem publish_origin (record : McpEvidenceRecord) (r : SubscriptionRecord)
    (hr : r ∈ (publish config record s).1.subscriptions) :
    SubscriptionOrigin config s (.publish record) r := by
  unfold publish at hr
  iterate 3
    split at hr
    · exact .same hr
  rename_i hroom
  rw [(queueRecords_queues config record _ _).shell.subscriptions] at hr
  obtain ⟨r₀, hr₀, rfl⟩ := List.mem_map.mp hr
  split
  next hreceives =>
    refine .given hr₀ hreceives ?_
    intro hfull
    refine hroom (List.any_eq_true.mpr ⟨r₀, hr₀, ?_⟩)
    rw [hreceives, hfull]
    rfl
  next => exact .same hr₀

theorem beginShutdown_origin (owner : Option String) (x : Section)
    (hx : beginShutdown config owner s = some x) (r : SubscriptionRecord)
    (hr : r ∈ x.1.subscriptions) : SubscriptionOrigin config s a r := by
  unfold beginShutdown at hx
  split at hx <;> cases hx
  have hshell := requestCancellations_shell config (s.operations.map (·.id))
    { s with accepting := false, phase := .stopping owner none }
  revert r hr
  refine Section.andThen_keeps (I := fun t => ∀ r ∈ t.subscriptions,
    SubscriptionOrigin config s a r) ?_ ?_
  · exact fun r hr => .same (hshell.subscriptions ▸ hr)
  · intro _ r hr
    obtain ⟨r₀, hr₀, rfl⟩ := List.mem_map.mp hr
    exact .kept false (hshell.subscriptions ▸ hr₀)

theorem operationHandled_subscriptions (update : OperationUpdate) (failed : Bool) (s : Service) :
    (operationHandled update failed s).subscriptions = s.subscriptions := by
  unfold operationHandled
  dsimp only
  split
  · rfl
  · split <;> rfl

/-- The actions that begin or end a wait, read an operation or take a notification. -/
def ServiceAction.isQuiet : ServiceAction → Bool
  | .abandonRemoval _ _ | .endRequest _ | .getOperation _ _ | .beginWait _ _ | .endWait _ _ _
  | .beginPoll _ _ _ _ _ | .beginDrain | .takeNotification => true
  | _ => false

/-- Only calls, notifications and observations change, and no removal is called. -/
structure QuietStep (s t : Service) : Prop where
  same : ∃ pending delivery calls observed, t = { s with pending, delivery, calls, observed }
  removals : (t.calls.filter (!·.pins)).Sublist (s.calls.filter (!·.pins))

theorem serviceStep_quiet (hquiet : a.isQuiet = true) (hstep : serviceStep config s a = some t) :
    QuietStep s t := by
  have hleft : ∀ c, ((s.calls.erase c).filter (!·.pins)).Sublist (s.calls.filter (!·.pins)) :=
    fun c => List.erase_sublist.filter _
  cases a with
  | abandonRemoval | endRequest =>
    simp only [serviceStep] at hstep
    split_ifs at hstep
    cases hstep
    exact ⟨⟨_, _, _, _, rfl⟩, hleft _⟩
  | getOperation sessionId id =>
    cases hstep
    exact ⟨⟨_, _, _, _, rfl⟩, .refl _⟩
  | beginWait sessionId id =>
    cases hstep
    unfold beginWait
    split
    · exact ⟨⟨_, _, _, _, rfl⟩, .refl _⟩
    · exact ⟨⟨_, _, _, _, rfl⟩, by simp [ServiceCall.pins]⟩
  | endWait sessionId id timedOut =>
    obtain ⟨-, hended⟩ := Option.ite_none_right_eq_some.mp hstep
    unfold endWait at hended
    dsimp only at hended
    split at hended
    · cases hended
      exact ⟨⟨_, _, _, _, rfl⟩, hleft _⟩
    split_ifs at hended
    all_goals
      cases hended
      exact ⟨⟨_, _, _, _, rfl⟩, hleft _⟩
  | beginPoll sessionId id after limit followed =>
    cases hstep
    unfold beginPoll
    split
    · exact ⟨⟨_, _, _, _, rfl⟩, .refl _⟩
    split
    · exact ⟨⟨_, _, _, _, rfl⟩, .refl _⟩
    · exact ⟨⟨_, _, _, _, rfl⟩, by simp [ServiceCall.pins]⟩
  | beginDrain =>
    simp only [serviceStep, beginDrain] at hstep
    split at hstep
    · split_ifs at hstep
      cases hstep
      exact ⟨⟨_, _, _, _, rfl⟩, .refl _⟩
    · cases hstep
  | takeNotification =>
    simp only [serviceStep, takeNotification] at hstep
    split at hstep <;> cases hstep
    iterate 3
      · exact ⟨⟨_, _, _, _, rfl⟩, .refl _⟩
  | _ => cases hquiet

/-- Every subscription after a step was there, was given a record, was read, or is new. -/
theorem serviceStep_origin (hstep : serviceStep config s a = some t) (r : SubscriptionRecord)
    (hr : r ∈ t.subscriptions) : SubscriptionOrigin config s a r := by
  by_cases hquiet : a.isQuiet = true
  · obtain ⟨⟨pending, delivery, calls, observed, rfl⟩, -⟩ := serviceStep_quiet hquiet hstep
    exact .same hr
  cases a with
  | registerSession id =>
    cases hstep
    refine origin_of_subset (t := (registerSession config id s).1) ?_ r (by simpa using hr)
    unfold registerSession
    intro r hr
    split at hr
    · exact hr
    · split at hr
      · exact hr
      · split at hr <;> exact hr
  | beginRemoval id =>
    cases hstep
    exact beginRemoval_origin id r (by simpa using hr)
  | endRemoval id record =>
    simp only [serviceStep] at hstep
    split at hstep <;> cases hstep
    exact .same (List.mem_of_mem_filter hr)
  | beginRequest id =>
    cases hstep
    refine origin_of_subset (t := (beginRequest id s).1) ?_ r (by simpa using hr)
    unfold beginRequest
    intro r hr
    split at hr
    · exact hr
    · split at hr
      · exact hr
      · split at hr <;> exact hr
  | submit sessionId kind total id spawned =>
    simp only [serviceStep] at hstep
    split at hstep <;> cases hstep
    rw [settle_subscriptions, submit_shell] at hr
    exact .same hr
  | startOperation id =>
    obtain ⟨record, _, rfl⟩ := Option.map_eq_some_iff.mp hstep
    exact origin_of_shell (startOperation_shell config record s) r hr
  | reportProgress id completed =>
    cases hstep
    exact origin_of_shell (settle_shell (reportProgress_shell config id completed s)) r hr
  | finishOperation id ending =>
    obtain ⟨record, _, rfl⟩ := Option.map_eq_some_iff.mp hstep
    exact origin_of_shell
      (settleAt_shell (completeOperation_shell config record.id ending s) _ _) r hr
  | escape | exitWorker =>
    obtain ⟨record, _, rfl⟩ := Option.map_eq_some_iff.mp hstep
    exact .same hr
  | failUnexpected id =>
    obtain ⟨record, _, rfl⟩ := Option.map_eq_some_iff.mp hstep
    exact origin_of_shell (failUnexpectedOperation_shell config record s) r hr
  | cancelOperation sessionId id =>
    cases hstep
    unfold cancelOperation at hr
    have hshell := changeOperation_shell config id (·.cancelling) s
    iterate 3
      split at hr
      · exact .same hr
    dsimp only at hr
    split at hr
    · exact origin_of_shell hshell.toSameShell r (by simpa using hr)
    all_goals exact origin_of_shell hshell.toSameShell r hr
  | createSubscription sessionId request id =>
    simp only [serviceStep] at hstep
    split at hstep <;> cases hstep
    exact createSubscription_origin sessionId request id r hr
  | endPoll sessionId id after limit followed =>
    simp only [serviceStep] at hstep
    split at hstep <;> cases hstep
    exact endPoll_origin sessionId id after limit followed r hr
  | cancelSubscription sessionId id =>
    cases hstep
    exact cancelSubscription_origin sessionId id r hr
  | closeRunSubscriptions runId =>
    cases hstep
    exact origin_of_deactivate (p := fun r => r.runId = runId) (fun _ h => h) r
      (by simpa [closeRunSubscriptions] using hr)
  | publish record =>
    cases hstep
    exact publish_origin record r (by simpa using hr)
  | notificationHandled failed =>
    simp only [serviceStep, notificationHandled] at hstep
    split at hstep
    · split at hstep
      · cases hstep
        rw [operationHandled_subscriptions] at hr
        refine .same ?_
        split at hr <;> exact hr
      cases hstep
      refine .same ?_
      dsimp only at hr
      split at hr <;> exact hr
    · cases hstep
  | beginShutdown owner =>
    obtain ⟨x, hx, rfl⟩ := Option.map_eq_some_iff.mp hstep
    exact beginShutdown_origin owner x hx r (by simpa using hr)
  | finishShutdown =>
    simp only [serviceStep, finishShutdown] at hstep
    split at hstep
    · split at hstep <;> cases hstep
      cases hr
    · cases hstep
  | _ => exact absurd rfl hquiet

end Origins

end Bbp.Mcp
