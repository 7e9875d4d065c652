import Bbp.Simulator.LiveBlockGeneration
import Bbp.Simulator.WalletAdmission

/-!
# Pausing and resuming live workloads

A paused worker sleeps until the request of its record is no longer a pause.  The
control calls look at the state instead.  A pause that is accepted while the worker has
not left its wait yet leaves the record with the state `stopping` and a worker that
sleeps on (`accepted_pause_is_lost`): it can neither be resumed nor stopped afterwards.

As long as no pause is accepted between the moment a worker has paused and the moment it
has left its wait, a sleeping worker belongs to a paused record, and a record that is
starting or stopping gets on by the steps of its worker alone
(`transitions_never_get_stuck`).
-/

namespace Bbp.Simulator

open Library BlockGenerationPc LiveBlockGenerationWorkloadRecord LiveWalletWorkloadRecord
open LiveWalletWorkloadRecord (isTerminalLiveWalletWorkloadState)

/-- The states in which no transition is in progress. -/
def LiveWalletWorkloadState.isSettled : LiveWalletWorkloadState → Bool
  | .starting | .stopping => false
  | _ => true

section BlockGeneration

namespace BlockGenerationPc

/-- The worker has set the state `paused` and has not left its wait. -/
def inPauseLoop : BlockGenerationPc → Bool
  | .pausing | .pauseWait => true
  | _ => false

/-- The worker is inside of a boundary. -/
def inBoundary : BlockGenerationPc → Bool
  | .publishing | .locking | .authorizing | .generating | .recording
  | .publishingBoundary | .synchronizing | .completing => true
  | _ => false

/-- How many steps the worker can take at most before it settles. -/
def rank : BlockGenerationPc → Nat
  | .ending .. | .finished => 0
  | .finalizing .. => 1
  | .caught _ => 2
  | .reconfigured => 3
  | .head | .pauseWait => 4
  | .pausing | .completing => 5
  | .synchronizing => 6
  | .publishingBoundary => 7
  | .recording => 8
  | .generating => 9
  | .authorizing => 10
  | .locking => 11
  | .publishing => 12

end BlockGenerationPc

theorem BlockGenerationPc.rank_le (worker : BlockGenerationPc) : worker.rank ≤ 12 := by
  cases worker <;> exact Nat.le_of_ble_eq_true rfl

namespace LiveBlockGenerationWorkloadRecord

/-- No pause is accepted while the worker is in its pause loop. -/
def pausesOutside (r : LiveBlockGenerationWorkloadRecord) (a : BlockGenerationAction) : Prop :=
  a = .pause → r.pauseStep = r ∨ r.worker.inPauseLoop = false

instance decidablePausesOutside
    (r : LiveBlockGenerationWorkloadRecord) (a : BlockGenerationAction) :
    Decidable (r.pausesOutside a) :=
  inferInstanceAs (Decidable (_ → _))

/-- What the worker's place says about the state and the request. -/
structure Steady (r : LiveBlockGenerationWorkloadRecord) : Prop where
  paused : r.worker.inPauseLoop = true → r.request = .pause → r.state = .paused
  stopping : r.state = .stopping → r.request ≠ .none
  boundary : r.worker.inBoundary = true → r.state = .running ∨ r.state = .stopping
  finished : r.worker = .finished → isTerminalLiveWalletWorkloadState r.state = true
  ending : ∀ state outcome failure, r.worker = .ending state outcome failure →
    isTerminalLiveWalletWorkloadState state = true
  finalizing : ∀ cancelled state outcome failure,
    r.worker = .finalizing cancelled state outcome failure →
      isTerminalLiveWalletWorkloadState state = true

variable {r t : LiveBlockGenerationWorkloadRecord} {a : BlockGenerationAction}

section

variable (h : r.Steady)

include h

theorem Steady.throw (e : BlockGenerationException) : (r.throw e).Steady := by
  refine ⟨?_, h.stopping, ?_, ?_, ?_, ?_⟩
  all_goals simp [LiveBlockGenerationWorkloadRecord.throw, inPauseLoop, inBoundary]

theorem Steady.endWith {state : LiveWalletWorkloadState}
    (hstate : isTerminalLiveWalletWorkloadState state = true)
    (outcome : String) (failure : Option String) : (r.endWith state outcome failure).Steady := by
  refine ⟨?_, h.stopping, ?_, ?_, ?_, ?_⟩
  all_goals simp [LiveBlockGenerationWorkloadRecord.endWith, inPauseLoop, inBoundary, hstate]

/-- The worker goes to a place that says nothing about the state. -/
theorem Steady.toPlace {worker : BlockGenerationPc}
    (hpaused : worker.inPauseLoop = true → r.worker.inPauseLoop = true)
    (hboundary : worker.inBoundary = true → r.worker.inBoundary = true) (hopen : 3 ≤ worker.rank) :
    Steady { r with worker } := by
  refine ⟨fun hplace => h.paused (hpaused hplace), h.stopping,
    fun hplace => h.boundary (hboundary hplace), ?_, ?_, ?_⟩
  · rintro rfl
    exact absurd hopen (by decide)
  · rintro state outcome failure rfl
    exact absurd hopen (by simp [rank])
  · rintro cancelled state outcome failure rfl
    exact absurd hopen (by simp [rank])

theorem Steady.admitAttempt : r.admitAttempt.Steady := by
  unfold LiveBlockGenerationWorkloadRecord.admitAttempt
  split
  · exact h.endWith rfl _ _
  split
  · have hshutdown : Steady { r with request := .shutdown, worker := .head } := by
      constructor <;> simp [inPauseLoop, inBoundary]
    exact hshutdown.endWith rfl _ _
  have hrunning : ∀ attempted worker, worker.inPauseLoop = false → 3 ≤ worker.rank →
      Steady { r with attempted, boundaryStopRequested := false, state := .running
                      worker := worker } := by
    intro attempted worker hplace hopen
    refine ⟨?_, by simp, by simp, ?_, ?_, ?_⟩
    · intro hloop
      rw [show worker.inPauseLoop = true from hloop] at hplace
      cases hplace
    · rintro rfl
      exact absurd hopen (by decide)
    · rintro state outcome failure rfl
      exact absurd hopen (by simp [rank])
    · rintro cancelled state outcome failure rfl
      exact absurd hopen (by simp [rank])
  dsimp only
  split
  · exact (hrunning r.attempted .head rfl (by decide)).throw _
  · split
    · exact hrunning _ .publishing rfl (by decide)
    · exact hrunning _ .locking rfl (by decide)

theorem Steady.dispatch : r.dispatch.Steady := by
  unfold LiveBlockGenerationWorkloadRecord.dispatch
  split
  · constructor <;> simp [inBoundary]
  iterate 4
    · exact h.endWith rfl _ _
  · unfold applyReconfiguration
    split
    · exact h.throw _
    split
    · exact h.throw _
    · constructor <;>
        simp [inPauseLoop, inBoundary]
  · exact h.admitAttempt

theorem Steady.work (hmove : WorkerMove r t) : t.Steady := by
  cases hmove with
  | look _ => exact Steady.dispatch { h with }
  | wake _ _ => exact h.dispatch
  | interrupt _ _ =>
    refine Steady.dispatch ⟨?_, by simp, h.boundary, h.finished, h.ending, h.finalizing⟩
    rintro _ ⟨⟩
  | attempt _ => exact h.admitAttempt
  | goOn hnext =>
    cases hworker : r.worker <;> rw [hworker] at hnext <;> cases hnext
    all_goals
      exact h.toPlace (by simp [hworker, inPauseLoop]) (by simp [hworker, inBoundary]) (by decide)
  | throw e _ => exact h.throw e
  | authorize hworker _ =>
    have hadmitted : Steady { r with boundaryMutationAdmitted := true } := { h with }
    exact hadmitted.toPlace (by simp [inPauseLoop]) (by simp [hworker, inBoundary]) (by decide)
  | record hworker =>
    have hcounted : Steady { r with generated := r.generated + 1 } := { h with }
    exact hcounted.toPlace (by simp [inPauseLoop]) (by simp [hworker, inBoundary]) (by decide)
  | complete _ =>
    have hcounted : Steady
        { r with completedBoundaries := r.completedBoundaries + 1 } := { h with }
    exact hcounted.toPlace (by simp [inPauseLoop]) (by simp [inBoundary]) (by decide)
  | handle _ unconfirmed cancelled hstate outcome failure =>
    refine ⟨?_, h.stopping, ?_, ?_, ?_, ?_⟩
    · simp [inPauseLoop]
    · simp [inBoundary]
    · simp
    · simp
    · rintro _ _ _ _ ⟨⟩
      exact hstate
  | @finalize cancelled _ _ _ hworker =>
    have hfinal : (r.finalizeOutstandingAttempt cancelled).Steady := by
      unfold finalizeOutstandingAttempt
      split_ifs <;> exact { h with }
    exact hfinal.endWith (h.finalizing _ _ _ _ hworker) _ _
  | terminate hworker =>
    have hstate := h.ending _ _ _ hworker
    refine ⟨?_, ?_, ?_, fun _ => hstate, ?_, ?_⟩
    · simp [setTerminal, inPauseLoop]
    · rintro rfl
      cases hstate
    · simp [setTerminal, inBoundary]
    all_goals simp [setTerminal]

theorem Steady.control (houtside : r.pausesOutside a) (hmove : ControlMove r a t) : t.Steady := by
  cases hmove with
  | refuse => exact h
  | accept _ hlive hrequested hpause hstill _ =>
    refine ⟨?_, fun _ => hrequested, by simp, ?_, h.ending, h.finalizing⟩
    · intro hplace hpaused
      rcases houtside (hpause hpaused) with hsame | hloop
      · have hstopping := congrArg LiveBlockGenerationWorkloadRecord.state hsame
        simp only [pauseStep, if_neg hlive, hstill (.inl hpaused), or_self, if_false] at hstopping
        exact absurd hstopping.symm (hstill (.inl hpaused)).2
      · rw [show r.worker.inPauseLoop = true from hplace] at hloop
        cases hloop
    · exact fun hworker => absurd (h.finished hworker) hlive
  | resume _ hpaused =>
    refine ⟨by simp, by simp, ?_, ?_, h.ending, h.finalizing⟩
    · intro hplace
      have hstate := h.boundary hplace
      rw [hpaused] at hstate
      rcases hstate with hstate | hstate <;> cases hstate
    · intro hfinished
      have hstate := h.finished hfinished
      rw [hpaused] at hstate
      cases hstate
  | cancelStart _ =>
    refine ⟨?_, by simp, h.boundary, h.finished, h.ending, h.finalizing⟩
    rintro _ ⟨⟩
  | reconfigure | stopService => exact { h with }

theorem step_steady (houtside : r.pausesOutside a)
    (hstep : blockGenerationMachine.step r a = some t) : t.Steady := by
  rcases blockGenerationMachine_move hstep with hmove | hmove
  · exact h.work hmove
  · exact h.control houtside hmove

end

theorem start_steady (workload : BlockGenerationWorkload) : Steady { workload } := by
  constructor <;> simp [inPauseLoop, inBoundary]

/-- A boundary is admitted into the state `running`, or the worker is about to end. -/
theorem admit_progress (hrank : 1 ≤ r.worker.rank) :
    r.admitAttempt.state.isSettled = true ∨ r.admitAttempt.worker.rank + 1 ≤ r.worker.rank := by
  unfold admitAttempt
  split
  · exact .inr hrank
  split
  · exact .inr hrank
  dsimp only
  split
  · exact .inl rfl
  · exact .inl rfl

theorem dispatch_progress (hrank : r.worker.rank = 4) :
    r.dispatch.state.isSettled = true ∨ r.dispatch.worker.rank + 1 ≤ r.worker.rank := by
  have hlower : ∀ {n : Nat}, (n + 1).ble 4 = true → n + 1 ≤ r.worker.rank :=
    fun h => hrank ▸ Nat.le_of_ble_eq_true h
  unfold dispatch
  split
  · exact .inl rfl
  iterate 4
    · exact .inr (hlower rfl)
  · unfold applyReconfiguration
    split
    · exact .inr (hlower rfl)
    · split
      all_goals exact .inr (hlower rfl)
  · exact admit_progress (by omega)

theorem workerStep_progress (h : r.Steady) (hopen : r.state.isSettled ≠ true)
    (hstep : r.workerStep a = some t) :
    t.state.isSettled = true ∨ t.worker.rank + 1 ≤ r.worker.rank := by
  cases workerStep_move hstep with
  | look hworker =>
    have hrank : r.worker.rank = 4 := by rw [hworker]; rfl
    exact @dispatch_progress { r with boundaryMutationAdmitted := false } hrank
  | wake hworker _ => exact dispatch_progress (by rw [hworker]; rfl)
  | interrupt hworker hrequest =>
    have hstate := h.paused (by rw [hworker]; rfl) hrequest
    rw [hstate] at hopen
    exact absurd rfl hopen
  | attempt hworker => exact admit_progress (by rw [hworker]; decide)
  | goOn hnext =>
    cases hworker : r.worker <;> rw [hworker] at hnext <;> cases hnext
    all_goals exact .inr (Nat.le_of_ble_eq_true rfl)
  | throw e hthrows =>
    cases hworker : r.worker <;> rw [hworker] at hthrows <;> cases hthrows
    all_goals exact .inr (Nat.le_of_ble_eq_true rfl)
  | @terminate state _ _ hworker =>
    refine .inl ?_
    have hstate := h.ending _ _ _ hworker
    unfold setTerminal
    cases state <;> first | rfl | cases hstate
  | authorize hworker _ | record hworker | complete hworker | handle hworker _ _ _ _ _
  | finalize hworker =>
    rw [hworker]
    exact .inr (Nat.le_of_ble_eq_true rfl)

/-- The worker of a record that has not settled is never blocked. -/
theorem worker_enabled (h : r.Steady) (hopen : r.state.isSettled ≠ true) :
    ∃ a t, a.isWorker = true ∧ blockGenerationMachine.step r a = some t := by
  have hstep : ∀ a, a.isWorker = true → (r.workerStep a).isSome = true →
      ∃ a t, a.isWorker = true ∧ blockGenerationMachine.step r a = some t := by
    intro a hown hworker
    obtain ⟨t, ht⟩ := Option.isSome_iff_exists.mp hworker
    exact ⟨a, t, hown, by simp only [blockGenerationMachine, if_pos hown, ht]⟩
  cases hworker : r.worker with
  | head => exact hstep .head rfl (by simp [workerStep, hworker])
  | pausing | reconfigured | publishing =>
    exact hstep (.written (.ok ())) rfl (by simp [workerStep, writtenStep, hworker])
  | pauseWait =>
    have hrequest : r.request ≠ .pause := by
      intro hpause
      have hstate := h.paused (by rw [hworker]; rfl) hpause
      rw [hstate] at hopen
      exact hopen rfl
    exact hstep .wake rfl (by simp [workerStep, hworker, wakeStep, hrequest])
  | locking | generating | publishingBoundary | synchronizing =>
    exact hstep (.call (.ok ())) rfl (by simp [workerStep, callStep, hworker])
  | authorizing => exact hstep .authorize rfl (by simp [workerStep, hworker])
  | recording => exact hstep .record rfl (by simp [workerStep, hworker])
  | completing => exact hstep .complete rfl (by simp [workerStep, hworker])
  | caught e => exact hstep .handle rfl (by simp [workerStep, hworker])
  | finalizing cancelled state outcome failure =>
    exact hstep .finalize rfl (by simp [workerStep, hworker])
  | ending state outcome failure => exact hstep .terminate rfl (by simp [workerStep, hworker])
  | finished =>
    have hstate := h.finished hworker
    cases hs : r.state <;> rw [hs] at hstate hopen <;>
      first | exact absurd rfl hopen | cases hstate

end LiveBlockGenerationWorkloadRecord

end BlockGeneration

section Wallet

variable {E : RandomEngine}

/-- The worker has set the state `paused` and has not left its wait. -/
def LivePc.inPauseLoop : LivePc E → Bool
  | .pausing | .pauseWait => true
  | _ => false

/-- The call has told that the execution has started, and has not thrown. -/
def ApplyPc.isStarted : ApplyPc E → Bool
  | .preparing | .loading _ _ | .sequential _ => true
  | .done (.returned _ _) => true
  | _ => false

/-- A place in front of an epoch, between epochs or in front of the end. -/
def LivePc.isQuiet : LivePc E → Bool
  | .pausing | .pauseWait | .finished => false
  | .executing e => !e.pc.isStarted
  | _ => true

/-- The steps of the worker outside of an epoch. -/
def LiveAction.isTurn : LiveAction E → Bool
  | .head | .written _ | .wake | .epochEnded | .refreshed | .terminate _ => true
  | _ => false

/-- The turns that are left after the worker has read a request. -/
def LiveWalletWorkloadRequest.readRank : LiveWalletWorkloadRequest → Nat
  | .pause => 0
  | .none => 2
  | .reconfigure => 3
  | _ => 1

/-- The turns that are left after an epoch under a request. -/
def LiveWalletWorkloadRequest.epochRank : LiveWalletWorkloadRequest → Nat
  | .none | .pause => 1
  | .reconfigure => 4
  | _ => 3

namespace LiveWalletWorkloadRecord

/-- How many turns the worker can take at most before it settles. -/
def rank (r : LiveWalletWorkloadRecord E) : Nat :=
  match r.worker with
  | .head | .pauseWait => r.request.readRank
  | .pausing | .refreshWait => r.request.readRank + 1
  | .reconfigured => r.request.epochRank + 1
  | .executing _ => r.request.epochRank
  | .ending .. | .finished => 0

/-- No pause is accepted while the worker is in its pause loop. -/
def pausesOutside (r : LiveWalletWorkloadRecord E) : LiveAction E → Prop
  | .pause => r.transitionFailure.isSome = true ∨ r.worker.inPauseLoop = false
  | _ => True

instance decidablePausesOutside (r : LiveWalletWorkloadRecord E) :
    (a : LiveAction E) → Decidable (r.pausesOutside a)
  | .pause => inferInstanceAs (Decidable (_ ∨ _))
  | .head | .written _ | .wake | .apply _ | .epochEnded | .refreshed | .terminate _
  | .resume | .stop _ | .cancelStart | .reconfigure _ _ | .shutdown _
  | .stopService => isTrue trivial

/-- What the worker's place says about the state and the request. -/
structure Steady (r : LiveWalletWorkloadRecord E) : Prop where
  lifecycle : r.Lifecycle
  paused : r.worker.inPauseLoop = true → r.request = .pause → r.state = .paused
  stopping : r.state = .stopping → r.request ≠ .none
  started : ∀ e, r.worker = .executing e → e.pc.isStarted = true →
    r.request = .none → r.state = .running
  finished : r.worker = .finished → isTerminalLiveWalletWorkloadState r.state = true

variable {r t : LiveWalletWorkloadRecord E} {a : LiveAction E}

theorem create_steady (id : String) (workload : AcceptedWorkload E) (walletCount : Nat) :
    (create id workload walletCount).Steady := by
  refine ⟨create_lifecycle id workload walletCount, ?_, ?_, ?_, ?_⟩
  · rintro ⟨⟩
  · rintro ⟨⟩
  · rintro e ⟨⟩
  · rintro ⟨⟩

/-- An epoch that has started in this step has marked the record as running. -/
theorem applyStep_started {e e' : LiveEpoch E} {input : ApplyInput}
    (h : r.applyStep e input = some t) (hworker : t.worker = .executing e')
    (hstarted : e'.pc.isStarted = true) :
    e.pc.isStarted = true ∨ (r.request = .none → t.state = .running) := by
  cases applyStep_move h with
  | threw | unfunded | funded =>
    cases hworker
    cases hstarted
  | started _ hmarked =>
    rcases hmarked with ⟨hrequest, -⟩ | ⟨-, hrunning⟩
    · exact .inr fun hnone => absurd hnone hrequest
    · exact .inr fun _ => hrunning
  | load hpc | loaded hpc | loop hpc | completed hpc | continued hpc | polled hpc
  | submitted hpc => exact .inl (by rw [hpc]; rfl)
  | yielded hpc | worked hpc =>
    rcases hpc with hpc | hpc
    all_goals exact .inl (by rw [hpc]; rfl)

/-- The worker is at a place that says nothing about the state. -/
theorem Steady.quiet (hlife : t.Lifecycle) (hstopping : t.state = .stopping → t.request ≠ .none)
    (hplace : t.worker.isQuiet = true) : t.Steady := by
  refine ⟨hlife, ?_, hstopping, ?_, ?_⟩
  · intro hloop
    unfold LivePc.inPauseLoop at hloop
    split at hloop
    next hworker =>
      rw [hworker] at hplace
      cases hplace
    next hworker =>
      rw [hworker] at hplace
      cases hplace
    next => cases hloop
  · intro e he hstarted
    rw [he, LivePc.isQuiet, hstarted] at hplace
    cases hplace
  · intro hfinished
    rw [hfinished] at hplace
    cases hplace

theorem signal_inPauseLoop (worker : LivePc E) :
    (signal worker).inPauseLoop = worker.inPauseLoop := by
  cases worker with
  | executing e =>
    simp only [signal]
    split
    · rfl
    · rfl
  | _ => rfl

/-- Signalling the stop source does not make a worker finish. -/
theorem finished_of_signalled {worker : LivePc E} {requestsStop : Bool}
    (h : (if requestsStop then signal worker else worker) = .finished) : worker = .finished := by
  split_ifs at h
  · refine signal_eq_of_not_executing h ?_
    rintro e ⟨⟩
  · exact h

variable {request : LiveWalletWorkloadRequest}

/-- A control call has left a request other than a pause, or a pause to be read. -/
theorem Steady.requested {requestsStop : Bool} (h : r.Steady)
    (hlife : (r.accept request requestsStop).Lifecycle)
    (hopen : isTerminalLiveWalletWorkloadState r.state ≠ true) (hrequest : request ≠ .none)
    (hpause : request = .pause → r.worker.inPauseLoop = false) :
    (r.accept request requestsStop).Steady := by
  rw [accept_eq] at hlife ⊢
  have hloop : (if requestsStop then signal r.worker else r.worker).inPauseLoop =
      r.worker.inPauseLoop := by
    split
    · exact signal_inPauseLoop r.worker
    · rfl
  refine ⟨hlife, ?_, fun _ => hrequest, ?_, ?_⟩
  · intro hplace hpaused
    have hplace : r.worker.inPauseLoop = true := hloop.symm.trans hplace
    rw [hpause hpaused] at hplace
    cases hplace
  · intro e _ _ hnone
    exact absurd hnone hrequest
  · intro hworker
    exact absurd (h.finished (finished_of_signalled hworker)) hopen

theorem epochEnded_worker (e : LiveEpoch E) (result : EpochResult) :
    (∃ state outcome failure,
        (r.epochEnded e result).worker = .ending state outcome failure) ∨
      (r.epochEnded e result).worker = .head ∧ (r.request = .pause ∨ r.request = .reconfigure) ∨
      (r.epochEnded e result).worker = .refreshWait ∧
        r.request ≠ .pause ∧ r.request ≠ .reconfigure ∧
        ∃ next, result = .returned .refreshBalances next := by
  have hpublish : (r.publish e result).request = r.request := by
    obtain ⟨next, hpublish⟩ := publish_eq r e result
    rw [hpublish]
  unfold epochEnded
  dsimp only
  split
  · exact .inl ⟨_, _, _, rfl⟩
  rename_i hafter
  rw [hpublish] at hafter ⊢
  split
  · rename_i hrequest
    exact .inr (.inl ⟨rfl, hrequest⟩)
  rename_i hrequest
  rw [not_or] at hrequest
  refine .inr (.inr ⟨rfl, hrequest.1, hrequest.2, ?_⟩)
  unfold afterEpoch at hafter
  split at hafter
  · rename_i ending next
    rw [if_neg (not_or.mpr hrequest)] at hafter
    split_ifs at hafter with _ hrefresh
    exact ⟨next, by rw [hrefresh]⟩
  · rw [if_neg (not_or.mpr hrequest)] at hafter
    split_ifs at hafter
  · cases hafter

theorem Steady.asked (hlife : t.Lifecycle) (hnone : t.request ≠ .none) (hpause : t.request ≠ .pause)
    (hfinished : t.worker = .finished → isTerminalLiveWalletWorkloadState t.state = true) :
    t.Steady :=
  ⟨hlife, fun _ hrequest => absurd hrequest hpause, fun _ => hnone,
    fun _ _ _ hrequest => absurd hrequest hnone, hfinished⟩

theorem Steady.over (hlife : t.Lifecycle) (hworker : t.worker = .finished)
    (hterminal : isTerminalLiveWalletWorkloadState t.state = true) : t.Steady := by
  refine ⟨hlife, ?_, ?_, ?_, fun _ => hterminal⟩
  · intro hloop
    rw [hworker] at hloop
    cases hloop
  · intro hstopping
    rw [hstopping] at hterminal
    cases hterminal
  · intro e he
    rw [hworker] at he
    cases he

theorem step_steady (h : r.Steady) (houtside : r.pausesOutside a) (hstep : r.step a = some t) :
    t.Steady := by
  have hlife := step_lifecycle h.lifecycle hstep
  cases step_move hstep with
  | pause hworker hrequest =>
    refine ⟨hlife, fun _ _ => rfl, ?_, ?_, ?_⟩
    · rintro ⟨⟩
    · rintro e ⟨⟩
    · rintro ⟨⟩
  | stop | cancel | fail | failReconfigured | install | refreshed =>
    exact .quiet hlife h.stopping rfl
  | cancelPaused | reconfigure => exact .quiet hlife nofun rfl
  | waiting hworker =>
    refine ⟨hlife, fun _ => h.paused (by rw [hworker]; rfl), h.stopping, ?_, ?_⟩
    · rintro e ⟨⟩
    · rintro ⟨⟩
  | apply e hworker input _ t happly =>
    obtain ⟨e', hframe⟩ := applyStep_frame happly
    obtain ⟨hrecord, -, -, -, -, hstate⟩ := hframe
    have hplace : t.worker = .executing e' := by rw [hrecord]
    have hrequest : t.request = r.request := by rw [hrecord]
    refine ⟨hlife, ?_, ?_, ?_, ?_⟩
    · intro hloop
      rw [hplace] at hloop
      cases hloop
    · intro hstopping
      rw [hrequest]
      rcases hstate with hsame | ⟨-, hrunning⟩
      · exact h.stopping (hsame.symm.trans hstopping)
      · rw [hrunning] at hstopping
        cases hstopping
    · intro e'' he hstarted hnone
      rw [hrequest] at hnone
      rcases applyStep_started happly he hstarted with hbefore | hmarked
      · rcases hstate with hsame | ⟨-, hrunning⟩
        · rw [hsame]
          exact h.started e hworker hbefore hnone
        · exact hrunning
      · exact hmarked hnone
    · intro hfinished
      rw [hplace] at hfinished
      cases hfinished
  | epochEnded e result hworker _ =>
    refine .quiet hlife ?_ ?_
    · rw [epochEnded_eq]
      exact h.stopping
    · rcases epochEnded_worker (r := r) e result with
        ⟨state, outcome, failure, hplace⟩ | ⟨hplace, -⟩ | ⟨hplace, -⟩
      all_goals
        rw [hplace]
        rfl
  | terminate state outcome failure hworker =>
    exact .over hlife rfl (h.lifecycle.ending state outcome failure hworker)
  | terminateFailed _ _ _ _ _ => exact .over hlife rfl rfl
  | refused _ => exact h
  | pauseAccepted hopen haction =>
    subst haction
    have hplace : r.worker.inPauseLoop = false := by
      rcases houtside with hrefused | hplace
      · have hnone : r.transitionFailure = none := by
          unfold transitionFailure
          rw [if_neg hopen.live, if_neg hopen.settled]
        rw [hnone] at hrefused
        cases hrefused
      · exact hplace
    exact h.requested hlife hopen.live (by decide) (fun _ => hplace)
  | settleAccepted hopen _ => exact h.requested hlife hopen.live (by decide) nofun
  | cancelAccepted hopen _ =>
    have hlogged : Steady
        { r with cancelAccepted := r.cancelAccepted || !completed r.worker } :=
      { h with lifecycle := { h.lifecycle with } }
    exact hlogged.requested hlife hopen.live (by decide) nofun
  | resumed hstate _ =>
    have hpausedAt := h.lifecycle.paused hstate
    refine ⟨hlife, ?_, ?_, ?_, ?_⟩
    · rintro _ ⟨⟩
    · rintro ⟨⟩
    · intro e he
      have he : r.worker = .executing e := he
      rw [he] at hpausedAt
      exact hpausedAt.elim
    · intro hfinished
      have hterminal := h.finished hfinished
      rw [hstate] at hterminal
      cases hterminal
  | startCancelled hstate _ =>
    refine .asked hlife nofun nofun fun hfinished => ?_
    refine h.finished (signal_eq_of_not_executing hfinished ?_)
    rintro e ⟨⟩
  | reconfiguredPaused updated walletCount revision _ _ _ => exact { h with lifecycle := hlife }
  | reconfigureAccepted updated walletCount _ haccepted _ =>
    obtain ⟨hlive, -⟩ := reconfigurationFailure_none haccepted
    rw [accept_eq] at hlife ⊢
    exact .asked hlife nofun nofun fun hworker =>
      absurd (h.finished (finished_of_signalled hworker)) hlive
  | shutdown hlive runFailed _ =>
    cases runFailed
    all_goals exact .asked hlife nofun nofun fun hworker => absurd (h.finished hworker) hlive
  | stopService _ =>
    refine ⟨hlife, ?_, h.stopping, ?_, ?_⟩
    · intro hloop
      exact h.paused ((signal_inPauseLoop r.worker).symm.trans hloop)
    · intro e he hstarted
      obtain ⟨e₀, c, s, hworker, hpc, hsignal⟩ | hsignal := signal_cases r.worker
      · exact h.started e₀ hworker (by rw [hpc]; rfl)
      · exact h.started e (hsignal.symm.trans he) hstarted
    · intro hfinished
      refine h.finished (signal_eq_of_not_executing hfinished ?_)
      rintro e ⟨⟩

theorem readRank_pos (h : request ≠ .pause) : 1 ≤ request.readRank := by
  cases request <;> first | decide | exact absurd rfl h

/-- A worker that reads a request has the rank of the request. -/
theorem rank_reading (hworker : r.worker = .head ∨ r.worker = .pauseWait) :
    r.rank = r.request.readRank := by
  unfold rank
  rcases hworker with hworker | hworker
  · rw [hworker]
  · rw [hworker]

/-- An epoch that has ended leaves fewer turns than it had. -/
theorem epochEnded_progress {e : LiveEpoch E} {result : EpochResult} (h : r.Steady)
    (hopen : r.state.isSettled ≠ true) (hworker : r.worker = .executing e)
    (hdone : e.pc = .done result) : (r.epochEnded e result).rank + 1 ≤ r.rank := by
  have hrank : r.rank = r.request.epochRank := by
    unfold rank
    rw [hworker]
  have hrequest : (r.epochEnded e result).request = r.request := by rw [epochEnded_eq]
  have hpositive : 1 ≤ r.request.epochRank := by
    cases r.request <;> decide
  rw [hrank]
  rcases epochEnded_worker (r := r) e result with
    ⟨state, outcome, failure, hplace⟩ | ⟨hplace, hnext⟩ | ⟨hplace, hpause, hother, next, rfl⟩
  · unfold rank
    rw [hplace]
    exact hpositive
  · rw [rank_reading (.inl hplace), hrequest]
    rcases hnext with hnext | hnext
    all_goals
      rw [hnext]
      decide
  · unfold rank
    rw [hplace, hrequest]
    dsimp only
    cases hkind : r.request with
    | none =>
      have hrunning := h.started e hworker (by rw [hdone]; rfl) hkind
      rw [hrunning] at hopen
      exact absurd rfl hopen
    | pause => exact absurd hkind hpause
    | reconfigure => exact absurd hkind hother
    | stopCancel | stopSettle | shutdown | runFailure => decide

theorem step_progress (h : r.Steady) (hopen : r.state.isSettled ≠ true) (hown : a.isWorker = true)
    (hstep : r.step a = some t) :
    t.state.isSettled = true ∨ t.rank + (if a.isTurn then 1 else 0) ≤ r.rank := by
  have hturn : ∀ {n m : Nat}, n + 1 ≤ m → n + (if a.isTurn then 1 else 0) ≤ m := by
    intro n m hlt
    split
    · exact hlt
    · omega
  have hcontrol : ∀ {P : Prop}, a.isWorker = false → P := by
    intro P hfalse
    rw [hown] at hfalse
    cases hfalse
  cases step_move hstep with
  | pause | terminateFailed => exact .inl rfl
  | stop hworker hrequest =>
    refine .inr (hturn ?_)
    rw [rank_reading hworker]
    refine readRank_pos ?_
    rcases hrequest with hrequest | hrequest <;> rw [hrequest] <;> decide
  | cancel hworker hrequest =>
    refine .inr (hturn ?_)
    rw [rank_reading hworker]
    refine readRank_pos ?_
    rw [hrequest]
    decide
  | cancelPaused hworker hrequest _ =>
    have hpaused := h.paused (by rw [hworker]; rfl) hrequest
    rw [hpaused] at hopen
    exact absurd rfl hopen
  | fail hworker _ =>
    refine .inr (hturn ?_)
    rcases hworker with ⟨hworker, hrequest⟩ | hworker | hworker
    · rw [rank_reading hworker]
      exact readRank_pos hrequest
    all_goals
      unfold rank
      rw [hworker]
      exact Nat.le_add_left 1 _
  | failReconfigured hworker _ hrequest _ _ | reconfigure hworker _ hrequest _ =>
    refine .inr (hturn ?_)
    rw [rank_reading hworker, hrequest]
    exact Nat.le_of_ble_eq_true rfl
  | install hworker =>
    refine .inr (hturn ?_)
    rcases hworker with ⟨hworker, hrequest⟩ | hworker
    · rw [rank_reading hworker]
      unfold rank install
      dsimp only
      rw [hrequest]
      decide
    · unfold rank install
      rw [hworker]
  | waiting hworker | refreshed hworker =>
    refine .inr (hturn ?_)
    unfold rank
    rw [hworker]
  | apply e hworker input haction t happly =>
    subst haction
    obtain ⟨e', hframe⟩ := applyStep_frame happly
    refine .inr ?_
    have hsame : t.rank = r.rank := by
      unfold rank
      rw [hframe.record, hworker]
    rw [hsame]
    exact le_refl _
  | epochEnded e result hworker hdone =>
    exact .inr (hturn (epochEnded_progress h hopen hworker hdone))
  | terminate state outcome failure hworker =>
    refine .inl ?_
    have hterminal := h.lifecycle.ending state outcome failure hworker
    show state.isSettled = true
    cases state <;> first | rfl | cases hterminal
  | refused haction => exact hcontrol haction
  | pauseAccepted _ haction | settleAccepted _ haction | cancelAccepted _ haction
  | resumed _ haction | startCancelled _ haction | reconfiguredPaused _ _ _ _ _ haction
  | reconfigureAccepted _ _ _ _ haction | shutdown _ _ haction | stopService haction =>
    exact hcontrol (by rw [haction]; rfl)

/-- The worker is inside of an epoch that has not ended. -/
def isExecuting (r : LiveWalletWorkloadRecord E) : Bool :=
  match r.worker with
  | .executing e =>
    match e.pc with
    | .done _ => false
    | _ => true
  | _ => false

/-- The worker of a record that has not settled executes, or can take a turn. -/
theorem turn_enabled (h : r.Steady) (hopen : r.state.isSettled ≠ true) :
    r.isExecuting = true ∨ ∃ a t, a.isTurn = true ∧ r.step a = some t := by
  have hstep : ∀ a, a.isTurn = true → (r.step a).isSome = true →
      ∃ a t, a.isTurn = true ∧ r.step a = some t := by
    intro a hturn hsome
    obtain ⟨t, ht⟩ := Option.isSome_iff_exists.mp hsome
    exact ⟨a, t, hturn, ht⟩
  cases hworker : r.worker with
  | head => exact .inr (hstep .head rfl (by simp [step, hworker]))
  | pausing | reconfigured => exact .inr (hstep (.written (.ok ())) rfl (by simp [step, hworker]))
  | pauseWait =>
    have hrequest : r.request ≠ .pause := by
      intro hpause
      have hstate := h.paused (by rw [hworker]; rfl) hpause
      rw [hstate] at hopen
      exact hopen rfl
    exact .inr (hstep .wake rfl (by simp [step, hworker, wakeStep, hrequest]))
  | executing e =>
    cases hpc : e.pc with
    | done result => exact .inr (hstep .epochEnded rfl (by simp [step, hworker, hpc]))
    | _ => exact .inl (by simp [isExecuting, hworker, hpc])
  | refreshWait => exact .inr (hstep .refreshed rfl (by simp [step, hworker]))
  | ending state outcome failure =>
    exact .inr (hstep (.terminate (.ok ())) rfl (by simp [step, hworker]))
  | finished =>
    have hstate := h.finished hworker
    cases hs : r.state <;> rw [hs] at hstate hopen <;>
      first | exact absurd rfl hopen | cases hstate

theorem rank_le (r : LiveWalletWorkloadRecord E) : r.rank ≤ 5 := by
  have hread : r.request.readRank ≤ 3 := by
    cases r.request <;> decide
  have hepoch : r.request.epochRank ≤ 4 := by
    cases r.request <;> decide
  unfold rank
  cases r.worker <;> dsimp only <;> omega

end LiveWalletWorkloadRecord

end Wallet

section Results

open LiveWalletWorkloadRegistry (fanoutFrom)

/-- A fan-out from the first of three wallets. -/
def firstWalletFanout : AcceptedWorkload countingEngine := ⟨fanoutFrom 1 3, 3, rfl⟩

/-- A wallet workload is paused and resumed, and paused again before it wakes up. -/
def repeatedPause : List (LiveAction countingEngine) :=
  [.pause, .head, .written (.ok ()), .resume, .pause]

/-- The same calls for a block generation workload. -/
def repeatedBlockPause : List BlockGenerationAction :=
  [.pause, .head, .written (.ok ()), .resume, .pause]

/--
The second pause leaves both workers asleep in a record that is stopping: no step of
the worker is enabled, and a resume or a stop is refused.
-/
theorem accepted_pause_is_lost :
    (∃ r, (liveWorkloadMachine countingEngine).run
        (.create "first" firstWalletFanout 3) repeatedPause = some r ∧
      r.worker = .pauseWait ∧ r.state = .stopping ∧
      (∀ a, a.isWorker = true → r.step a = none) ∧
      r.step .resume = some r ∧ r.step (.stop false) = some r) ∧
    ∃ r, blockGenerationMachine.run { workload := { count := 1 } } repeatedBlockPause = some r ∧
      r.worker = .pauseWait ∧ r.state = .stopping ∧
      (∀ a, a.isWorker = true → r.workerStep a = none) ∧
      r.controlStep .resume = some r ∧ r.controlStep (.stop false) = some r := by
  refine ⟨⟨_, rfl, rfl, rfl, ?_, rfl, rfl⟩, ⟨_, rfl, rfl, rfl, ?_, rfl, rfl⟩⟩
  · intro a ha
    cases a <;> first | rfl | cases ha
  · intro a _
    cases a <;> rfl

/-- A record that has been reached by accepted pauses outside of the pause loop. -/
theorem wallet_steady
    {E : RandomEngine} {id : String} {workload : AcceptedWorkload E} {walletCount : Nat}
    {actions : List (LiveAction E)} {r : LiveWalletWorkloadRecord E}
    (hrun : (liveWorkloadMachine E).run (.create id workload walletCount) actions = some r)
    (hmeets : (liveWorkloadMachine E).Meets pausesOutside
      (.create id workload walletCount) actions) :
    r.Steady :=
  (liveWorkloadMachine E).meets_preserves
    (fun _ _ _ hstep houtside h => step_steady h houtside hstep)
    hmeets hrun (create_steady id workload walletCount)

theorem block_steady {workload : BlockGenerationWorkload} {actions : List BlockGenerationAction}
    {r : LiveBlockGenerationWorkloadRecord}
    (hrun : blockGenerationMachine.run { workload } actions = some r)
    (hmeets : blockGenerationMachine.Meets
      pausesOutside { workload } actions) :
    r.Steady :=
  blockGenerationMachine.meets_preserves (fun _ _ _ hstep houtside h =>
      step_steady h houtside hstep)
    hmeets hrun (start_steady workload)

/-- The guard restricts nothing but pauses. -/
theorem pausesOutside_of_isWorker {E : RandomEngine} {a : LiveAction E}
    (h : a.isWorker = true) (r : LiveWalletWorkloadRecord E) : r.pausesOutside a := by
  cases a with
  | pause => cases h
  | _ => trivial

/--
In a run in which no pause is accepted inside of a pause loop, a sleeping worker belongs
to a paused record.  A record that is starting or stopping has a worker that executes or
can take a step, and the worker's own steps settle it: within six turns for a wallet
workload, within thirteen steps for a block generation workload.
-/
theorem transitions_never_get_stuck
    {E : RandomEngine} {id : String} {workload : AcceptedWorkload E} {walletCount : Nat}
    {actions : List (LiveAction E)} {r : LiveWalletWorkloadRecord E}
    {blockWorkload : BlockGenerationWorkload}
    {blockActions : List BlockGenerationAction} {b : LiveBlockGenerationWorkloadRecord}
    (hrun : (liveWorkloadMachine E).run (.create id workload walletCount) actions = some r)
    (hmeets : (liveWorkloadMachine E).Meets LiveWalletWorkloadRecord.pausesOutside
      (.create id workload walletCount) actions)
    (hblockRun :
      blockGenerationMachine.run { workload := blockWorkload } blockActions = some b)
    (hblockMeets : blockGenerationMachine.Meets
      LiveBlockGenerationWorkloadRecord.pausesOutside { workload := blockWorkload }
      blockActions) :
    ((r.worker = .pauseWait → r.request = .pause → r.state = .paused) ∧ (r.state.isSettled ≠ true →
        r.isExecuting = true ∨ ∃ a t, a.isTurn = true ∧ r.step a = some t) ∧
      ∀ more t, (liveWorkloadMachine E).run r more = some t →
        (∀ a, a ∈ more → a.isWorker = true) → 5 < more.countP LiveAction.isTurn →
        ∃ before u, before <+: more ∧
          (liveWorkloadMachine E).run r before = some u ∧ u.state.isSettled = true) ∧
    (b.worker = .pauseWait → b.request = .pause → b.state = .paused) ∧ (b.state.isSettled ≠ true →
        ∃ a t, a.isWorker = true ∧ blockGenerationMachine.step b a = some t) ∧
      ∀ more t, blockGenerationMachine.run b more = some t →
        (∀ a, a ∈ more → a.isWorker = true) → 12 < more.length →
        ∃ before u, before <+: more ∧
          blockGenerationMachine.run b before = some u ∧ u.state.isSettled = true := by
  have h := wallet_steady hrun hmeets
  have hb := block_steady hblockRun hblockMeets
  refine ⟨⟨?_, LiveWalletWorkloadRecord.turn_enabled h, ?_⟩, ?_,
    LiveBlockGenerationWorkloadRecord.worker_enabled hb, ?_⟩
  · intro hworker
    exact h.paused (by rw [hworker]; rfl)
  · intro more t hmore hown hlong
    refine (liveWorkloadMachine E).run_reaches_of_rank LiveWalletWorkloadRecord.Steady
      (fun u => u.state.isSettled = true) LiveWalletWorkloadRecord.rank
      LiveAction.isWorker LiveAction.isTurn ?_ hmore hown h
      (lt_of_le_of_lt r.rank_le hlong)
    intro s a u hstep ha hs hopen
    rcases LiveWalletWorkloadRecord.step_progress hs hopen ha hstep with hsettled | hrank
    · exact .inl hsettled
    · exact .inr ⟨LiveWalletWorkloadRecord.step_steady hs
        (pausesOutside_of_isWorker ha s) hstep, hrank⟩
  · intro hworker
    exact hb.paused (by rw [hworker]; rfl)
  · intro more t hmore hown hlong
    refine blockGenerationMachine.run_reaches_of_rank
      LiveBlockGenerationWorkloadRecord.Steady (fun u => u.state.isSettled = true)
      (fun u => u.worker.rank) BlockGenerationAction.isWorker (fun _ => true)
      ?_ hmore hown hb ?_
    · intro s a u hstep ha hs hopen
      have hworker : s.workerStep a = some u := by
        simpa only [blockGenerationMachine, if_pos ha] using hstep
      rcases LiveBlockGenerationWorkloadRecord.workerStep_progress hs hopen hworker with
        hsettled | hrank
      · exact .inl hsettled
      · exact .inr ⟨hs.work (LiveBlockGenerationWorkloadRecord.workerStep_move hworker), hrank⟩
    · rw [List.countP_true]
      exact lt_of_le_of_lt b.worker.rank_le hlong

/-- A workload of each kind is paused, resumed after it has woken up, and paused again. -/
theorem paused_twice_gets_on :
    ∃ r b,
      (liveWorkloadMachine countingEngine).run (.create "first" firstWalletFanout 3)
        [.pause, .head, .written (.ok ()), .resume, .wake, .pause] = some r ∧
      blockGenerationMachine.run { workload := { count := 1 } }
        [.pause, .head, .written (.ok ()), .resume, .wake, .pause] = some b ∧
      r.state = .stopping ∧ b.state = .stopping ∧
      (r.isExecuting = true ∨ ∃ a t, a.isTurn = true ∧ r.step a = some t) ∧
      ∃ a t, a.isWorker = true ∧ blockGenerationMachine.step b a = some t := by
  refine ⟨_, _, rfl, rfl, rfl, rfl, ?_, ?_⟩
  · exact (@transitions_never_get_stuck countingEngine "first" firstWalletFanout 3
      [.pause, .head, .written (.ok ()), .resume, .wake, .pause] _ { count := 1 } [] _
      rfl (by decide) rfl (by decide)).1.2.1 (by decide)
  · exact (@transitions_never_get_stuck countingEngine "first" firstWalletFanout 3
      [] _ { count := 1 } [.pause, .head, .written (.ok ()), .resume, .wake, .pause] _
      rfl (by decide) rfl (by decide)).2.2.1 (by decide)

end Results

end Bbp.Simulator
