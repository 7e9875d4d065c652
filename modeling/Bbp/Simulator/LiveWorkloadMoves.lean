import Bbp.Simulator.LiveWalletWorkload

/-!
# What one step of a live wallet workload can do

`RecordMove` lists the ways in which a record changes: what the worker does at the
request it reads, how it goes through an epoch and ends, and what the control calls
leave behind.  Every step of the machine is one of them (`step_move`), so that an
invariant of the record has one case for each move.

`Lifecycle` is what holds in every run, whatever is requested: a pending configuration
belongs to a transition that has not ended, and a terminal state to a worker that has.
-/

namespace Bbp.Simulator

open Library

variable {E : RandomEngine}

/-- The worker's own actions. -/
def LiveAction.isWorker : LiveAction E → Bool
  | .head | .written _ | .wake | .apply _ | .epochEnded | .refreshed
  | .terminate _ => true
  | _ => false

namespace LivePc

/-- The worker is between two epochs and has nothing to install. -/
def isBetween : LivePc E → Bool
  | .head | .pausing | .pauseWait | .refreshWait => true
  | _ => false

/-- The worker is inside of an epoch, or about to install one. -/
def holdsEpoch : LivePc E → Bool
  | .executing _ | .reconfigured => true
  | _ => false

end LivePc

namespace LiveWalletWorkloadRecord

variable {r t : LiveWalletWorkloadRecord E}

section Refusals

theorem afterEpoch_terminal {workload : WalletTransactionsWorkload} {serviceStopped : Bool}
    {request : LiveWalletWorkloadRequest} {result : EpochResult}
    {state : LiveWalletWorkloadState} {outcome : String}
    (h : afterEpoch workload serviceStopped request result = .terminal state outcome) :
    isTerminalLiveWalletWorkloadState state = true := by
  unfold afterEpoch at h
  split at h
  · split_ifs at h <;> cases h <;> rfl
  · split_ifs at h <;> cases h <;> rfl
  · cases h
    rfl

/-- A call that is not refused finds the record alive and without a transition. -/
theorem transitionFailure_none (h : r.transitionFailure = none) :
    isTerminalLiveWalletWorkloadState r.state ≠ true ∧ r.state ≠ .stopping := by
  unfold transitionFailure at h
  split_ifs at h with hterminal hstopping
  exact ⟨hterminal, hstopping⟩

theorem reconfigurationFailure_none {updated : WalletTransactionsWorkload}
    (h : r.reconfigurationFailure updated = none) :
    isTerminalLiveWalletWorkloadState r.state ≠ true ∧ r.state ≠ .stopping := by
  unfold reconfigurationFailure at h
  split_ifs at h with hterminal hstopping
  exact ⟨hterminal, hstopping⟩

end Refusals

section Moves

/-- The record accepts a transition. -/
structure Open (r : LiveWalletWorkloadRecord E) : Prop where
  live : isTerminalLiveWalletWorkloadState r.state ≠ true
  settled : r.state ≠ .stopping

/-- How the action `a` can change the record `r`. -/
inductive RecordMove (r : LiveWalletWorkloadRecord E) (a : LiveAction E) :
    LiveWalletWorkloadRecord E → Prop
  | pause (worker : r.worker = .head) (request : r.request = .pause) :
      RecordMove r a { r with state := .paused, worker := .pausing }
  | stop (worker : r.worker = .head ∨ r.worker = .pauseWait)
      (request : r.request = .stopCancel ∨ r.request = .stopSettle) :
      RecordMove r a (r.endWith .stopped "stopped" none)
  | cancel (worker : r.worker = .head ∨ r.worker = .pauseWait) (request : r.request = .shutdown) :
      RecordMove r a (r.endWith .cancelled "cancelled" none)
  | cancelPaused (worker : r.worker = .pauseWait) (request : r.request = .pause)
      (service : r.serviceStopRequested = true) :
      RecordMove r a (endWith { r with request := .shutdown } .cancelled "cancelled" none)
  | fail
      (worker : (r.worker = .head ∨ r.worker = .pauseWait) ∧ r.request ≠ .pause ∨
        r.worker = .pausing ∨ r.worker = .reconfigured)
      (message : String) :
      RecordMove r a (r.endWith .failed "failed" message)
  | failReconfigured (worker : r.worker = .head ∨ r.worker = .pauseWait)
      (workload : AcceptedWorkload E) (request : r.request = .reconfigure)
      (pending : r.pendingWorkload = some workload) (message : String) :
      RecordMove r a (endWith { r with workload, pendingWorkload := none, fresh := true }
          .failed "failed" message)
  | reconfigure (worker : r.worker = .head ∨ r.worker = .pauseWait) (workload : AcceptedWorkload E)
      (request : r.request = .reconfigure) (pending : r.pendingWorkload = some workload) :
      RecordMove r a
        { r with
          workload, pendingWorkload := none, fresh := true
          configurationRevision := r.configurationRevision + 1
          request := .none, state := .starting, worker := .reconfigured }
  | install
      (worker : (r.worker = .head ∨ r.worker = .pauseWait) ∧ r.request = .none ∨
        r.worker = .reconfigured) :
      RecordMove r a r.install
  | waiting (worker : r.worker = .pausing) :
      RecordMove r a { r with worker := .pauseWait }
  | apply (e : LiveEpoch E) (worker : r.worker = .executing e) (input : ApplyInput)
      (action : a = .apply input) (t : LiveWalletWorkloadRecord E)
      (step : r.applyStep e input = some t) : RecordMove r a t
  | epochEnded (e : LiveEpoch E) (result : EpochResult) (worker : r.worker = .executing e)
      (done : e.pc = .done result) : RecordMove r a (r.epochEnded e result)
  | refreshed (worker : r.worker = .refreshWait) :
      RecordMove r a { r with worker := .head }
  | terminate (state : LiveWalletWorkloadState) (outcome : String) (failure : Option String)
      (worker : r.worker = .ending state outcome failure) :
      RecordMove r a (r.setTerminal state outcome failure)
  | terminateFailed (state : LiveWalletWorkloadState) (outcome : String) (failure : Option String)
      (message : String) (worker : r.worker = .ending state outcome failure) :
      RecordMove r a (r.setTerminal .failed "failed" message)
  | refused (action : a.isWorker = false) : RecordMove r a r
  | pauseAccepted (isOpen : r.Open) (action : a = .pause) :
      RecordMove r a (r.accept .pause (r.state != .starting))
  | settleAccepted (isOpen : r.Open) (action : a = .stop true) :
      RecordMove r a (r.accept .stopSettle (r.state == .starting))
  | cancelAccepted (isOpen : r.Open) (action : a = .stop false) :
      RecordMove r a (accept { r with cancelAccepted := r.cancelAccepted || !completed r.worker }
          .stopCancel true)
  | resumed (state : r.state = .paused) (action : a = .resume) :
      RecordMove r a { r with request := .none, state := .starting }
  | startCancelled (state : r.state = .starting) (action : a = .cancelStart) :
      RecordMove r a (requestEpochStop { r with request := .stopCancel })
  | reconfiguredPaused (updated : AcceptedWorkload E) (walletCount revision : Nat)
      (state : r.state = .paused) (accepted : r.reconfigurationFailure updated.val = none)
      (action : a = .reconfigure updated walletCount) :
      RecordMove r a
        { r with
          claimedWallets := claimedWalletsForWorkload updated.val walletCount
          walletCount, workload := updated, fresh := true
          configurationRevision := revision }
  | reconfigureAccepted (updated : AcceptedWorkload E) (walletCount : Nat)
      (state : r.state ≠ .paused) (accepted : r.reconfigurationFailure updated.val = none)
      (action : a = .reconfigure updated walletCount) :
      RecordMove r a (accept
          { r with
            claimedWallets := claimedWalletsForWorkload updated.val walletCount
            walletCount, pendingWorkload := some updated }
          .reconfigure (r.state != .starting))
  | shutdown (live : isTerminalLiveWalletWorkloadState r.state ≠ true) (runFailed : Bool)
      (action : a = .shutdown runFailed) :
      RecordMove r a
        { r with
          state := .stopping
          request := if runFailed then .runFailure else .shutdown }
  | stopService (action : a = .stopService) : RecordMove r a r.stopServiceStep

end Moves

section Steps

variable {a : LiveAction E}

theorem dispatch_move (hworker : r.worker = .head ∨ r.worker = .pauseWait)
    (hpause : r.request = .pause → r.worker = .head) : RecordMove r a r.dispatch := by
  unfold dispatch
  split
  next hrequest => exact .pause (hpause hrequest) hrequest
  next hrequest => exact .stop hworker (.inl hrequest)
  next hrequest => exact .stop hworker (.inr hrequest)
  next hrequest => exact .cancel hworker hrequest
  next hrequest => exact .fail (.inl ⟨hworker, by rw [hrequest]; decide⟩) _
  next hrequest =>
    simp only [applyReconfiguration]
    split
    · exact .fail (.inl ⟨hworker, by rw [hrequest]; decide⟩) _
    rename_i workload hpending
    split
    · exact .failReconfigured hworker workload hrequest hpending _
    · exact .reconfigure hworker workload hrequest hpending
  next hrequest => exact .install (.inl ⟨hworker, hrequest⟩)

theorem wakeStep_move (hworker : r.worker = .pauseWait) (h : r.wakeStep = some t) :
    RecordMove r a t := by
  unfold wakeStep at h
  split at h
  next hrequest =>
    cases h
    exact dispatch_move (.inr hworker) (fun hpause => absurd hpause hrequest)
  rename_i hrequest
  split at h <;> cases h
  rename_i hservice
  exact .cancelPaused hworker (not_not.mp hrequest) hservice

theorem written_move {written : Except String Unit} (h : r.step (.written written) = some t) :
    RecordMove r a t := by
  simp only [step] at h
  split at h <;> cases h
  next hworker => exact .waiting hworker
  next hworker => exact .fail (.inr (.inl hworker)) _
  next hworker => exact .install (.inr hworker)
  next hworker => exact .fail (.inr (.inr hworker)) _

theorem terminate_move {tracking : Except String Unit} (h : r.step (.terminate tracking) = some t) :
    RecordMove r a t := by
  simp only [step] at h
  split at h
  next state outcome failure hworker =>
    cases tracking with
    | ok _ =>
      cases h
      exact .terminate state outcome failure hworker
    | error message =>
      cases h
      exact .terminateFailed state outcome failure message hworker
  · cases h

theorem stopStep_move (settle : Bool) : RecordMove r (.stop settle) (r.stopStep settle) := by
  unfold stopStep
  cases hfailure : r.transitionFailure with
  | some failure => exact .refused rfl
  | none =>
    obtain ⟨hlive, hstate⟩ := transitionFailure_none hfailure
    cases settle with
    | true => exact .settleAccepted ⟨hlive, hstate⟩ rfl
    | false => exact .cancelAccepted ⟨hlive, hstate⟩ rfl

theorem reconfigureStep_move (updated : AcceptedWorkload E) (walletCount : Nat) :
    RecordMove r (.reconfigure updated walletCount)
      (r.reconfigureStep updated walletCount) := by
  unfold reconfigureStep
  cases hfailure : r.reconfigurationFailure updated.val with
  | some failure => exact .refused rfl
  | none =>
    dsimp only
    by_cases hpaused : r.state = .paused
    · rw [if_pos hpaused]
      split
      all_goals exact .reconfiguredPaused updated walletCount _ hpaused hfailure rfl
    · rw [if_neg hpaused]
      exact .reconfigureAccepted updated walletCount hpaused hfailure rfl

theorem step_move (h : r.step a = some t) : RecordMove r a t := by
  cases a with
  | head =>
    simp only [step] at h
    split at h <;> cases h
    rename_i hworker
    exact dispatch_move (.inl hworker) (fun _ => hworker)
  | written written => exact written_move h
  | wake =>
    simp only [step] at h
    split at h
    next hworker => exact wakeStep_move hworker h
    · cases h
  | apply input =>
    simp only [step] at h
    split at h
    next e hworker => exact .apply e hworker input rfl t h
    · cases h
  | epochEnded =>
    simp only [step] at h
    split at h
    next e hworker =>
      split at h <;> cases h
      rename_i result hdone
      exact .epochEnded e result hworker hdone
    · cases h
  | refreshed =>
    simp only [step] at h
    split at h <;> cases h
    rename_i hworker
    exact .refreshed hworker
  | terminate tracking => exact terminate_move h
  | pause =>
    cases h
    unfold pauseStep
    cases hfailure : r.transitionFailure with
    | some failure => exact .refused rfl
    | none =>
      obtain ⟨hlive, hstate⟩ := transitionFailure_none hfailure
      exact .pauseAccepted ⟨hlive, hstate⟩ rfl
  | resume =>
    cases h
    unfold resumeStep resumeFailure
    by_cases hpaused : r.state = .paused
    · rw [if_neg (not_not.mpr hpaused)]
      exact .resumed hpaused rfl
    · rw [if_pos hpaused]
      exact .refused rfl
  | stop settle =>
    cases h
    exact stopStep_move settle
  | cancelStart =>
    cases h
    unfold cancelStartStep
    by_cases hstarting : r.state = .starting
    · rw [if_pos hstarting]
      exact .startCancelled hstarting rfl
    · rw [if_neg hstarting]
      exact .refused rfl
  | reconfigure updated walletCount =>
    cases h
    exact reconfigureStep_move updated walletCount
  | shutdown runFailed =>
    cases h
    unfold shutdownStep
    by_cases hterminal : isTerminalLiveWalletWorkloadState r.state = true
    · rw [if_pos hterminal]
      exact .refused rfl
    · rw [if_neg hterminal]
      exact .shutdown hterminal runFailed rfl
  | stopService =>
    cases h
    exact .stopService rfl

end Steps

section Lifecycle

/-- Where the worker of a paused record can be. -/
def PausedAt : LivePc E → LiveWalletWorkloadRequest → Prop
  | .pausing, request => request = .pause
  | .pauseWait, request => request = .pause
  | .ending .., _ => True
  | _, _ => False

/-- What the state and the request of a record say about its worker. -/
structure Lifecycle (r : LiveWalletWorkloadRecord E) : Prop where
  pending : ∀ w, r.pendingWorkload = some w →
    (r.state = .stopping ∨ isTerminalLiveWalletWorkloadState r.state = true) ∧
      (r.request = .reconfigure ∨ r.request = .shutdown ∨ r.request = .runFailure)
  live : isTerminalLiveWalletWorkloadState r.state = true → r.worker = .finished
  ending : ∀ state outcome failure, r.worker = .ending state outcome failure →
    isTerminalLiveWalletWorkloadState state = true
  paused : r.state = .paused → PausedAt r.worker r.request

theorem create_lifecycle (id : String) (workload : AcceptedWorkload E) (walletCount : Nat) :
    (create id workload walletCount).Lifecycle := by
  exact ⟨nofun, nofun, nofun, nofun⟩

variable (h : r.Lifecycle)

include h

theorem Lifecycle.not_terminal (hworker : r.worker ≠ .finished) :
    isTerminalLiveWalletWorkloadState r.state ≠ true :=
  fun hterminal => hworker (h.live hterminal)

/-- An open record has nothing pending. -/
theorem Lifecycle.no_pending (hopen : r.Open) : r.pendingWorkload = none := by
  cases hpending : r.pendingWorkload with
  | none => rfl
  | some w =>
    rcases (h.pending w hpending).1 with hstopping | hterminal
    · exact absurd hstopping hopen.settled
    · exact absurd hterminal hopen.live

/-- Nothing is pending once the request has been taken back. -/
theorem Lifecycle.no_pending_of_none (hrequest : r.request = .none) : r.pendingWorkload = none := by
  cases hpending : r.pendingWorkload with
  | none => rfl
  | some w =>
    have hrequests := (h.pending w hpending).2
    rw [hrequest] at hrequests
    rcases hrequests with hrequest | hrequest | hrequest
    all_goals cases hrequest

variable {worker : LivePc E}

/-- The worker moves on; the request and the state stay. -/
theorem Lifecycle.toWorker (hworker : r.worker ≠ .finished)
    (hending : ∀ state outcome failure, worker = .ending state outcome failure →
      isTerminalLiveWalletWorkloadState state = true)
    (hpaused : r.state = .paused → PausedAt worker r.request) : Lifecycle { r with worker } :=
  ⟨h.pending, fun hterminal => absurd hterminal (h.not_terminal hworker), hending, hpaused⟩

variable {state : LiveWalletWorkloadState}

theorem Lifecycle.endWith (hworker : r.worker ≠ .finished)
    (hstate : isTerminalLiveWalletWorkloadState state = true)
    (outcome : String) (failure : Option String) : (r.endWith state outcome failure).Lifecycle := by
  refine h.toWorker hworker ?_ (fun _ => trivial)
  rintro state outcome failure ⟨⟩
  exact hstate

theorem Lifecycle.setTerminal (hstate : isTerminalLiveWalletWorkloadState state = true)
    (outcome : String) (failure : Option String) :
    (r.setTerminal state outcome failure).Lifecycle := by
  refine ⟨?_, fun _ => rfl, nofun, ?_⟩
  · intro w hpending
    exact ⟨.inr hstate, (h.pending w hpending).2⟩
  · rintro rfl
    cases hstate

omit h in
/-- The stop source of the epoch is signalled; the worker stays where it is. -/
theorem signal_ending {outcome : String} {failure : Option String}
    (h : signal worker = .ending state outcome failure) :
    worker = .ending state outcome failure := by
  refine signal_eq_of_not_executing h ?_
  rintro e ⟨⟩

omit h in
theorem signal_finished (h : worker = .finished) : signal worker = .finished := by
  rw [h]
  rfl

variable {request : LiveWalletWorkloadRequest}

omit h in
theorem signal_pausedAt (h : PausedAt worker request) : PausedAt (signal worker) request := by
  cases worker with
  | executing e => exact h.elim
  | _ => exact h

theorem Lifecycle.accept
    (hpending : r.pendingWorkload = none ∨ request = .reconfigure) (requestsStop : Bool) :
    (r.accept request requestsStop).Lifecycle := by
  rw [accept_eq]
  refine ⟨?_, nofun, ?_, nofun⟩
  · intro w hw
    refine ⟨.inl rfl, .inl ?_⟩
    have hw : r.pendingWorkload = some w := hw
    rcases hpending with hnone | hrequest
    · rw [hnone] at hw
      cases hw
    · exact hrequest
  · intro state outcome failure he
    split_ifs at he
    · exact h.ending state outcome failure (signal_ending he)
    · exact h.ending state outcome failure he

omit h in
/-- The index and the epoch are published, and nothing else. -/
theorem publish_eq (r : LiveWalletWorkloadRecord E) (e : LiveEpoch E) (result : EpochResult) :
    ∃ next, r.publish e result = { r with nextTransactionIndex := next, lastEpoch := some e } := by
  unfold publish
  split <;> exact ⟨_, rfl⟩

omit h in
theorem epochEnded_eq (r : LiveWalletWorkloadRecord E) (e : LiveEpoch E) (result : EpochResult) :
    r.epochEnded e result =
      { r with
        nextTransactionIndex := (r.publish e result).nextTransactionIndex
        lastEpoch := some e
        worker := (r.epochEnded e result).worker } := by
  obtain ⟨next, hpublish⟩ := publish_eq r e result
  unfold epochEnded
  rw [hpublish]
  dsimp only
  split
  · rfl
  · split <;> rfl

theorem publish_lifecycle (e : LiveEpoch E) (result : EpochResult) :
    (r.publish e result).Lifecycle ∧ (r.publish e result).worker = r.worker := by
  obtain ⟨next, hpublish⟩ := publish_eq r e result
  rw [hpublish]
  exact ⟨{ h with }, rfl⟩

theorem epochEnded_lifecycle {e : LiveEpoch E}
    (hworker : r.worker = .executing e) (result : EpochResult) :
    (r.epochEnded e result).Lifecycle := by
  obtain ⟨hpublish, hsame⟩ := publish_lifecycle h e result
  rw [hworker] at hsame
  have hunfinished : (r.publish e result).worker ≠ .finished := by
    rw [hsame]
    rintro ⟨⟩
  have hpaused : (r.publish e result).state ≠ .paused := by
    intro hpaused
    have hplace := hpublish.paused hpaused
    rw [hsame] at hplace
    exact hplace
  have hplace : ∀ worker : LivePc E, worker.isBetween = true →
      Lifecycle { r.publish e result with worker } := by
    intro worker hbetween
    refine hpublish.toWorker hunfinished ?_ (fun hstate => absurd hstate hpaused)
    rintro state outcome failure rfl
    cases hbetween
  unfold epochEnded
  dsimp only
  split
  next state outcome hafter => exact hpublish.endWith hunfinished (afterEpoch_terminal hafter) _ _
  · split
    · exact hplace .head rfl
    · exact hplace .refreshWait rfl

omit h in
theorem EpochFrame.lifecycle {e e' : LiveEpoch E} (hframe : EpochFrame r e t e') (h : r.Lifecycle)
    (hworker : r.worker = .executing e) : t.Lifecycle := by
  have hlive := h.not_terminal (by rw [hworker]; intro he; cases he)
  have hpaused : r.state ≠ .paused := by
    intro hpaused
    have hplace := h.paused hpaused
    rw [hworker] at hplace
    exact hplace
  obtain ⟨hrecord, -, -, -, -, hstate⟩ := hframe
  rw [hrecord]
  refine ⟨?_, ?_, nofun, ?_⟩
  · intro w hw
    obtain ⟨hstopping, hrequest⟩ := h.pending w hw
    refine ⟨?_, hrequest⟩
    rcases hstate with hstate | ⟨hnone, -⟩
    · rw [← hstate] at hstopping
      exact hstopping
    · have hpending := h.no_pending_of_none hnone
      rw [hpending] at hw
      cases hw
  · intro hterminal
    rcases hstate with hstate | ⟨-, hstate⟩
    · exact absurd (hstate ▸ hterminal) hlive
    · have hrunning : isTerminalLiveWalletWorkloadState .running = true := hstate ▸ hterminal
      cases hrunning
  · intro hstarting
    rcases hstate with hstate | ⟨-, hstate⟩
    · exact absurd (hstate.symm.trans hstarting) hpaused
    · exact absurd (hstate.symm.trans hstarting) (by decide)

omit h in
/-- A worker that reads requests has not finished. -/
theorem reading_unfinished (h : r.worker = .head ∨ r.worker = .pauseWait) :
    r.worker ≠ .finished := by
  intro hfinished
  rcases h with hworker | hworker
  all_goals
    rw [hworker] at hfinished
    cases hfinished

theorem step_lifecycle {a : LiveAction E} (hstep : r.step a = some t) : t.Lifecycle := by
  have hunfinished : ∀ {place : LivePc E}, r.worker = place → place ≠ .finished →
      r.worker ≠ .finished := fun hworker hplace => hworker ▸ hplace
  cases step_move hstep with
  | pause hworker hrequest =>
    refine ⟨?_, nofun, nofun, fun _ => hrequest⟩
    intro w hw
    have hrequests := (h.pending w hw).2
    rw [hrequest] at hrequests
    rcases hrequests with hrequest | hrequest | hrequest <;> cases hrequest
  | stop hworker _ | cancel hworker _ => exact h.endWith (reading_unfinished hworker) rfl _ _
  | cancelPaused hworker _ _ =>
    refine ⟨?_, ?_, ?_, fun _ => trivial⟩
    · intro w hw
      exact ⟨(h.pending w hw).1, .inr (.inl rfl)⟩
    · intro hterminal
      exact absurd hterminal (h.not_terminal (reading_unfinished (.inr hworker)))
    · rintro state outcome failure ⟨⟩
      rfl
  | fail hworker message =>
    refine h.endWith ?_ rfl _ _
    rcases hworker with ⟨hworker, -⟩ | hworker | hworker
    · exact reading_unfinished hworker
    all_goals exact hunfinished hworker nofun
  | failReconfigured hworker workload _ _ message =>
    have hnext : Lifecycle
        { r with workload, pendingWorkload := none, fresh := true } :=
      { h with pending := fun w hw => by cases hw }
    exact hnext.endWith (reading_unfinished hworker) rfl _ _
  | reconfigure hworker workload _ _ => exact ⟨nofun, nofun, nofun, nofun⟩
  | install hworker =>
    have hpaused : r.state ≠ .paused := by
      intro hpaused
      have hplace := h.paused hpaused
      rcases hworker with ⟨hworker | hworker, hrequest⟩ | hworker
      · rw [hworker] at hplace
        exact hplace
      · rw [hworker, hrequest] at hplace
        cases hplace
      · rw [hworker] at hplace
        exact hplace
    have hopen : r.worker ≠ .finished := by
      rcases hworker with ⟨hworker, -⟩ | hworker
      · exact reading_unfinished hworker
      · exact hunfinished hworker nofun
    refine ⟨h.pending, ?_, nofun, fun hstate => absurd hstate hpaused⟩
    exact fun hterminal => absurd hterminal (h.not_terminal hopen)
  | waiting hworker =>
    refine h.toWorker (hunfinished hworker nofun) nofun ?_
    intro hpaused
    have hplace := h.paused hpaused
    rw [hworker] at hplace
    exact hplace
  | apply e hworker input _ t happly =>
    obtain ⟨e', hframe⟩ := applyStep_frame happly
    exact hframe.lifecycle h hworker
  | epochEnded e result hworker _ => exact epochEnded_lifecycle h hworker result
  | refreshed hworker =>
    refine h.toWorker (hunfinished hworker nofun) nofun ?_
    intro hpaused
    have hplace := h.paused hpaused
    rw [hworker] at hplace
    exact hplace.elim
  | terminate state outcome failure hworker =>
    exact h.setTerminal (h.ending state outcome failure hworker) _ _
  | terminateFailed state outcome failure message _ => exact h.setTerminal rfl _ _
  | refused _ => exact h
  | pauseAccepted hopen _ | settleAccepted hopen _ => exact h.accept (.inl (h.no_pending hopen)) _
  | cancelAccepted hopen _ =>
    have hlogged : Lifecycle
        { r with cancelAccepted := r.cancelAccepted || !completed r.worker } :=
      { h with }
    exact hlogged.accept (.inl (h.no_pending hopen)) _
  | resumed hstate _ =>
    have hopen : r.Open := ⟨by rw [hstate]; decide, by rw [hstate]; decide⟩
    refine ⟨?_, nofun, h.ending, nofun⟩
    intro w hw
    have hw : r.pendingWorkload = some w := hw
    rw [h.no_pending hopen] at hw
    cases hw
  | startCancelled hstate _ =>
    have hopen : r.Open := ⟨by rw [hstate]; decide, by rw [hstate]; decide⟩
    refine ⟨?_, fun hterminal => absurd hterminal hopen.live, ?_, ?_⟩
    · intro w hw
      have hw : r.pendingWorkload = some w := hw
      rw [h.no_pending hopen] at hw
      cases hw
    · intro state outcome failure he
      exact h.ending state outcome failure (signal_ending he)
    · intro hpaused
      exact absurd (hstate.symm.trans hpaused) (by decide)
  | reconfiguredPaused updated walletCount revision _ _ _ => exact { h with }
  | reconfigureAccepted updated walletCount _ haccepted _ =>
    obtain ⟨hlive, hsettled⟩ := reconfigurationFailure_none haccepted
    rw [accept_eq]
    refine ⟨fun w _ => ⟨.inl rfl, .inl rfl⟩, nofun, ?_, nofun⟩
    intro state outcome failure he
    split_ifs at he
    · exact h.ending state outcome failure (signal_ending he)
    · exact h.ending state outcome failure he
  | shutdown hlive runFailed _ =>
    refine ⟨?_, nofun, h.ending, nofun⟩
    intro w hw
    refine ⟨.inl rfl, .inr ?_⟩
    cases runFailed with
    | true => exact .inr rfl
    | false => exact .inl rfl
  | stopService _ =>
    refine ⟨h.pending, fun hterminal => signal_finished (h.live hterminal), ?_,
      fun hpaused => signal_pausedAt (h.paused hpaused)⟩
    intro state outcome failure he
    exact h.ending state outcome failure (signal_ending he)

end Lifecycle

end LiveWalletWorkloadRecord

end Bbp.Simulator
