import Bbp.Simulator.EpochCustody

/-!
# Every attempt of an epoch is accounted for exactly once

The custody invariant holds when an epoch starts and is kept by every step of
every thread, provided that no counter overflows.  When the call has ended, no
party holds anything any more, and what the invariant says of the log is what the
epoch promises: one outcome for each index, one settlement for each admitted one,
one rollback for each batch that was not admitted, and an empty ledger.
-/

namespace Bbp.Simulator

open Library ProducerPc List
open TransactionLoadBalanceReservations

variable {E : RandomEngine} {c : EpochConfig E}

namespace EpochState

section Guard

/-- The latency that an action records. -/
def latencyOf : EpochAction c → Option Nat
  | .producer (.record latency) => some latency
  | .producer (.drop (.record latency)) => some latency
  | .worker _ (.record latency) => some latency
  | .worker _ (.drop (.record latency)) => some latency
  | _ => none

/-- The planned counter of the workload takes the batch of the action. -/
def plannedFits : EpochAction c → Bool
  | .producer (.finish (.error _)) => false
  | _ => true

/-- No counter that the action moves is at its end. -/
structure NoOverflow (s : EpochState c) (a : EpochAction c) : Prop where
  revision : s.ledger.balanceRevision < 2 ^ 64 - 1
  index : s.transactionIndex < 2 ^ 64 - 1
  outcome : ∀ latency, latency ∈ latencyOf a → s.accounting.HasRoom latency
  planned : plannedFits a = true

instance (s : EpochState c) (a : EpochAction c) : Decidable (s.NoOverflow a) :=
  decidable_of_iff (s.ledger.balanceRevision < 2 ^ 64 - 1 ∧ s.transactionIndex < 2 ^ 64 - 1 ∧
      (∀ latency, latency ∈ latencyOf a → s.accounting.HasRoom latency) ∧
      plannedFits a = true)
    ⟨fun ⟨hr, hi, ho, hp⟩ => ⟨hr, hi, ho, hp⟩,
      fun h => ⟨h.revision, h.index, h.outcome, h.planned⟩⟩

end Guard

section Sound

/-- The custody invariant of a state. -/
abbrev Sound (attempted₀ : Nat) (s : EpochState c) : Prop :=
  Accounted c attempted₀ s.ledger s.planner s.queue s.accounting.attempted
    s.stopRequested s.producer s.transactionIndex s.workers s.history

variable {attempted₀ : Nat} {s t : EpochState c}

theorem start_sound {balances : List U64} {accounting : TransactionLoadSnapshot}
    (h : c.start balances accounting = .ok s) :
    s.Sound accounting.attempted ∧
      s.transactionIndex = c.nextTransactionIndex := by
  simp only [EpochConfig.start, BoundedWalletTransactionQueue.create] at h
  by_cases hcapacity : c.workload.queueCapacity = 0
  · simp [hcapacity] at h
  simp only [if_neg hcapacity] at h
  split_ifs at h
  split at h <;> cases h
  rename_i ledger hcreate
  obtain ⟨hbalanced, hfee, hmaximum⟩ := create_balanced (slot_map_val_le balances) hcreate
  have hempty : ledger.reservations = [] := by
    simp only [TransactionLoadBalanceReservations.create] at hcreate
    split_ifs at hcreate
    cases hcreate
    rfl
  have hnothing : ∀ g : WorkerPc → Nat, g .popping = 0 →
      held g (fun _ : Fin c.workload.concurrency => WorkerPc.popping) = 0 :=
    fun g hg => held_eq_zero (fun _ => hg)
  refine ⟨?_, rfl⟩
  refine
    { recorded := ?_, settled := ?_, keys := ?_, started := le_rfl
      admittedNodup := nodup_nil, admittedBound := by simp
      rolledBack := rfl, counted := rfl, noErrors := by simp
      balanced := hbalanced, fee := hfee, maximum := hmaximum
      advanced := Advanced.refl _, inAdmission := trivial, capacity := rfl
      fits := ?_, openQueue := ?_
      cancelledQueue := by simp
      exited := by simp
      shutQueue := by simp [shut]
      joinedQueue := by simp [joined] }
  · intro f
    simp [unrecordedTotal, indexesOf, unrecorded, ahead, hnothing (WorkerPc.unrecorded f) rfl]
  · intro f
    simp [unsettledTotal, indexesOf, unsettled, hnothing (WorkerPc.unsettled f) rfl]
  · intro f
    simp [unsettledTotal, indexesOf, unsettled, staged, hempty, hnothing (WorkerPc.unsettled f) rfl]
  · simp [droppedTotal, dropped, hnothing WorkerPc.dropped rfl]
  · intro _
    simp [droppedTotal, dropped, hnothing WorkerPc.dropped rfl]

/-- Outside of an admission nothing is asked of the ledger. -/
theorem inAdmission_of_free
    (h : s.ledgerHeld = false) (ledger : TransactionLoadBalanceReservations) :
    InAdmission E ledger s.transactionIndex s.producer := by
  simp only [ledgerHeld] at h
  split at h
  · cases h
  · cases h
  rename_i hadmitting hanswered
  cases hpc : s.producer with
  | admitting plans indexes => exact absurd hpc (hadmitting plans indexes)
  | answered plans indexes tasks answer => exact absurd hpc (hanswered plans indexes tasks answer)
  | _ => trivial

/-- Settling a reservation that is there ends it and logs it once. -/
theorem settleTask_spec {i : Nat} (actual : Option U64) (release : Bool)
    (notified : Except String Unit) (hbalanced : s.ledger.Balanced)
    (hi : i ∈ s.ledger.reservations.map Prod.fst)
    (hrevision : s.ledger.balanceRevision < 2 ^ 64 - 1)
    (herrors : LedgerError.settledMoreThanOnce ∉ s.history.ledgerErrors ∧
      LedgerError.reservationBound ∉ s.history.ledgerErrors) :
    ∃ ledger infrastructureError ledgerErrors,
      s.settleTask i actual release notified =
        { s with
          ledger, infrastructureError
          history :=
            { s.history with
              settled := s.history.settled ++ [i], ledgerErrors } } ∧
      Keeps s.ledger ledger ∧
      (∀ f, tally f (ledger.reservations.map Prod.fst) + tally f (s.history.settled ++ [i]) =
        tally f (s.ledger.reservations.map Prod.fst) + tally f s.history.settled) ∧
      LedgerError.settledMoreThanOnce ∉ ledgerErrors ∧
      LedgerError.reservationBound ∉ ledgerErrors := by
  have hword : ∀ balance, actual.map Fin.val = some balance → balance ≤ 2 ^ 64 - 1 := by
    intro balance hbalance
    obtain ⟨word, _, rfl⟩ := Option.map_eq_some_iff.mp hbalance
    have hlt := word.isLt
    omega
  rcases settle_cases i (actual.map Fin.val) release (some fun _ => notified) hbalanced hword with
    ⟨hnone, _⟩ | ⟨r, hlookup, ⟨hmax, _⟩ | ⟨available, result, hrun, hafter, hresult⟩⟩
  · have hsome := lookup_isSome_iff_mem_keys.mpr hi
    rw [hnone] at hsome
    cases hsome
  · omega
  · have hkeeps : Keeps s.ledger (s.ledger.settled i r available) := ⟨hafter, rfl, rfl⟩
    have hkeys : ∀ f, tally f ((s.ledger.settled i r available).reservations.map Prod.fst) +
        tally f (s.history.settled ++ [i]) =
          tally f (s.ledger.reservations.map Prod.fst) + tally f s.history.settled := by
      intro f
      have herased := tally_keys_eraseKey f hbalanced.keysNodup hlookup
      simp only [TransactionLoadBalanceReservations.settled, tally_append, tally_cons, tally_nil]
      omega
    simp only [settleTask, hrun]
    rcases hresult with rfl | rfl | ⟨message, rfl⟩
    · exact ⟨_, _, _, rfl, hkeeps, hkeys, herrors⟩
    all_goals
      refine ⟨_, _, _, rfl, hkeeps, hkeys, ?_⟩
      simpa [logLedgerError] using herrors

/-- With room left, recording an outcome counts it and logs it once. -/
theorem recordOutcome_spec {latency : Nat} (hroom : s.accounting.HasRoom latency) (i : Nat)
    (outcome : TransactionLoadOutcome) :
    ∃ accounting,
      s.recordOutcome i outcome latency =
        .ok { s with
              accounting
              history :=
                { s.history with outcomes := s.history.outcomes ++ [i] } } ∧
      ∀ attempted₀, s.accounting.attempted = attempted₀ + s.history.outcomes.length →
        accounting.attempted = attempted₀ + (s.history.outcomes ++ [i]).length := by
  obtain ⟨accounting, hrecord, hattempted⟩ :=
    TransactionLoadSnapshot.recordOutcome_of_room hroom outcome
  refine ⟨accounting, ?_, ?_⟩
  · simp only [recordOutcome, hrecord]
  · intro attempted₀ hcounted
    rw [hattempted, hcounted, length_append, length_singleton, Nat.add_assoc]

end Sound

section Drops

variable {attempted₀ : Nat} {s t : EpochState c}

variable {cursor cursor' : DropCursor} {input : DropInput}

/-- A step of `record_dropped_tasks` settles its first task or records it. -/
theorem dropStep_cases (h : s.dropStep cursor input = some (t, cursor')) :
    (∃ task rest notified,
      cursor = { tasks := task :: rest, headSettled := false } ∧
      cursor' = { tasks := task :: rest, headSettled := true } ∧
      input = .settle notified ∧ s.ledgerHeld = false ∧
      t = s.settleTask task.transactionIndex none true notified) ∨
    ∃ task rest latency, cursor = { tasks := task :: rest, headSettled := true } ∧
      cursor' = { tasks := rest, headSettled := false } ∧
      input = .record latency ∧
      (s.recordOutcome task.transactionIndex .dropped latency = .ok t ∨
        ∃ e, s.recordOutcome task.transactionIndex .dropped latency = .error e ∧
          t = s.recordInfrastructureError (.accounting e)) := by
  obtain ⟨tasks, headSettled⟩ := cursor
  match tasks, headSettled, input with
  | [], _, _ => simp [dropStep] at h
  | task :: rest, false, .record latency => simp [dropStep] at h
  | task :: rest, true, .settle notified => simp [dropStep] at h
  | task :: rest, false, .settle notified =>
    simp only [dropStep] at h
    split at h <;> cases h
    rename_i hfree
    exact .inl ⟨task, rest, notified, rfl, rfl, rfl, Bool.eq_false_of_not_eq_true hfree, rfl⟩
  | task :: rest, true, .record latency =>
    simp only [dropStep] at h
    split at h
    · rename_i s' hrecord
      cases h
      exact .inr ⟨task, rest, latency, rfl, rfl, rfl, .inl hrecord⟩
    · rename_i e hrecord
      cases h
      exact .inr ⟨task, rest, latency, rfl, rfl, rfl, .inr ⟨e, hrecord, rfl⟩⟩

variable (hs : s.Sound attempted₀)

include hs

/-- A task that some party has to settle has a reservation. -/
theorem mem_keys_of_unsettled {i : Nat}
    (h : 0 < unsettledTotal (only i) s.queue s.producer s.workers) :
    i ∈ s.ledger.reservations.map Prod.fst := by
  apply mem_of_tally_only_pos
  rw [hs.keys]
  omega

/-- The producer works on the tasks it has dropped. -/
theorem producerDrop_sound {next : ProducerNext}
    (hroom : s.NoOverflow (.producer (.drop input))) (hpc : s.producer = .dropping cursor next)
    (h : s.dropStep cursor input = some (t, cursor')) :
    Sound attempted₀ { t with producer := .dropping cursor' next } := by
  have hold := hs
  simp only [Sound, hpc] at hold
  have hshape (cursor cursor' : DropCursor) :
      SameShape (.dropping cursor next) (.dropping cursor' next) := by
    cases next <;> exact ⟨fun _ => rfl, rfl, rfl, rfl, rfl⟩
  rcases dropStep_cases h with
    ⟨task, rest, notified, rfl, rfl, rfl, hfree, rfl⟩ |
    ⟨task, rest, latency, rfl, rfl, rfl, hrecord⟩
  · have hmem : task.transactionIndex ∈ s.ledger.reservations.map Prod.fst := by
      apply mem_keys_of_unsettled hs
      simp only [hpc, unsettledTotal, unsettled,
        DropCursor.unsettled, indexesOf, Bool.false_eq_true, if_false,
        map_cons, tally_cons, only_self]
      omega
    obtain ⟨ledger, infra, errors, hsettle, hkeeps, hkeys, herrors⟩ :=
      settleTask_spec none true notified hs.balanced hmem hroom.revision hs.noErrors
    rw [hsettle]
    refine hold.transfer hs.counted hkeeps hkeys herrors trivial (hshape _ _) (fun _ => rfl) ?_
      le_rfl (fun _ => .inl) (fun _ => rfl)
    intro f
    simp only [unsettledTotal, unsettled, DropCursor.unsettled,
      indexesOf, Bool.false_eq_true, if_false, if_true, tail_cons,
      map_cons, tally_append, tally_cons, tally_nil]
    omega
  · obtain ⟨accounting, hok, hcounted⟩ :=
      recordOutcome_spec (hroom.outcome latency rfl) task.transactionIndex .dropped
    rcases hrecord with hrecord | ⟨e, hrecord, _⟩
    · rw [hok] at hrecord
      cases hrecord
      refine hold.transfer (hcounted _ hs.counted) ⟨hs.balanced, rfl, rfl⟩ (fun _ => rfl)
        hs.noErrors trivial (hshape _ _) ?_ (fun _ => rfl) ?_ (fun _ => .inl) (fun _ => rfl)
      · intro f
        simp only [unrecordedTotal, unrecorded, indexesOf, map_cons, tally_append, tally_cons,
          tally_nil]
        omega
      · simp only [droppedTotal, dropped, length_cons]
        omega
    · rw [hok] at hrecord
      cases hrecord

/-- A task that a worker has to settle has a reservation. -/
theorem mem_keys_of_worker {i : Nat} (w : Fin c.workload.concurrency)
    (h : 0 < (s.workers w).unsettled (only i)) : i ∈ s.ledger.reservations.map Prod.fst := by
  apply mem_keys_of_unsettled hs
  have hle := le_held (WorkerPc.unsettled (only i)) s.workers w
  simp only [unsettledTotal]
  omega

/-- A worker works on the tasks it has dropped. -/
theorem workerDrop_sound {w : Fin c.workload.concurrency} {next : WorkerNext}
    (hroom : s.NoOverflow (.worker w (.drop input)))
    (hpc : s.workers w = .dropping cursor next) (h : s.dropStep cursor input = some (t, cursor')) :
    Sound attempted₀ (t.setWorker w (.dropping cursor' next)) := by
  rcases dropStep_cases h with
    ⟨task, rest, notified, rfl, rfl, rfl, hfree, rfl⟩ |
    ⟨task, rest, latency, rfl, rfl, rfl, hrecord⟩
  · have hmem : task.transactionIndex ∈ s.ledger.reservations.map Prod.fst := by
      apply mem_keys_of_worker hs w
      rw [hpc]
      simp only [WorkerPc.unsettled, DropCursor.unsettled, indexesOf,
        Bool.false_eq_true, if_false, map_cons, tally_cons, only_self]
      omega
    obtain ⟨ledger, infra, errors, hsettle, hkeeps, hkeys, herrors⟩ :=
      settleTask_spec none true notified hs.balanced hmem hroom.revision hs.noErrors
    rw [hsettle]
    refine hs.handOver hs.counted hkeeps hkeys herrors (inAdmission_of_free hfree _) hpc (by simp)
      (fun _ => rfl) ?_ le_rfl (by simp)
    intro f
    simp only [WorkerPc.unsettled, DropCursor.unsettled, indexesOf,
      Bool.false_eq_true, if_false, if_true, tail_cons, map_cons,
      tally_append, tally_cons, tally_nil]
    omega
  · obtain ⟨accounting, hok, hcounted⟩ :=
      recordOutcome_spec (hroom.outcome latency rfl) task.transactionIndex .dropped
    rcases hrecord with hrecord | ⟨e, hrecord, _⟩
    · rw [hok] at hrecord
      cases hrecord
      refine hs.handOver (hcounted _ hs.counted) ⟨hs.balanced, rfl, rfl⟩ (fun _ => rfl)
        hs.noErrors hs.inAdmission hpc (by simp) ?_ (fun _ => rfl) ?_ (by simp)
      · intro f
        simp only [WorkerPc.unrecorded, indexesOf, map_cons, tally_append, tally_cons, tally_nil]
        omega
      · simp only [WorkerPc.dropped, length_cons]
        omega
    · rw [hok] at hrecord
      cases hrecord

end Drops

section Workers

variable {attempted₀ : Nat} {s t : EpochState c} {w : Fin c.workload.concurrency}

variable (hs : s.Sound attempted₀)

include hs

/-- Popping takes a task, or ends the worker for a reason. -/
theorem pop_sound (hpc : s.workers w = .popping)
    (h : s.workerStep w .pop = some t) : t.Sound attempted₀ := by
  simp only [workerStep, hpc, BoundedWalletTransactionQueue.pop] at h
  have hexit : (s.stopRequested = true ∨ s.queue.closed = true ∧ s.queue.tasks = []) →
      Sound attempted₀ (s.setWorker w .exited) := by
    intro hreason
    exact .moveWorker hs hpc nofun (fun _ => rfl) (fun _ => rfl) rfl (fun _ => hreason)
  by_cases hend : s.stopRequested = true ∨ s.queue.cancelled = true
  · simp only [if_pos hend] at h
    cases h
    rcases hend with hstop | hcancelled
    · exact hexit (.inl hstop)
    · exact hexit (.inr (hs.cancelledQueue hcancelled))
  simp only [if_neg hend] at h
  cases htasks : s.queue.tasks with
  | nil =>
    simp only [htasks] at h
    cases hclosed : s.queue.closed with
    | false => simp [hclosed] at h
    | true =>
      simp only [hclosed, if_true] at h
      cases h
      exact hexit (.inr ⟨hclosed, htasks⟩)
  | cons task rest =>
    simp only [htasks] at h
    cases h
    exact hs.popTask hpc htasks

/-- Stopping the load only sets flags. -/
theorem stopLoad_sound : s.stopLoad.Sound attempted₀ := .requestStop hs

variable {task : WalletTransactionLoadTask}

theorem submit_sound {result : SubmissionResult} {read : BalanceRead}
    (hpc : s.workers w = .working task) (h : s.submitStep w task result read = some t) :
    t.Sound attempted₀ := by
  have hmove : ∀ u : EpochState c, u.Sound attempted₀ →
      u.workers w = .working task → ∀ a : Submission,
      Sound attempted₀ (u.setWorker w (.settling task a)) := by
    intro u hu hw a
    exact .moveWorker hu hw nofun (fun _ => rfl) (fun _ => rfl) rfl nofun
  simp only [submitStep] at h
  split at h <;> cases h
  split
  · exact hmove s.stopLoad (stopLoad_sound hs) hpc _
  · exact hmove s hs hpc _

theorem settle_sound {a : Submission} {notified : Except String Unit}
    (hroom : s.NoOverflow (.worker w (.settle notified))) (hpc : s.workers w = .settling task a)
    (h : s.workerStep w (.settle notified) = some t) : t.Sound attempted₀ := by
  simp only [workerStep, hpc] at h
  split at h
  · cases h
  rename_i hheld
  have hfree : s.ledgerHeld = false := Bool.eq_false_of_not_eq_true hheld
  have hmem : task.transactionIndex ∈ s.ledger.reservations.map Prod.fst := by
    apply mem_keys_of_worker hs w
    simp [hpc, WorkerPc.unsettled]
  obtain ⟨ledger, infra, errors, hsettle, hkeeps, hkeys, herrors⟩ :=
    settleTask_spec a.actualAvailableBalance
      (!a.submitted && a.releaseIfBalanceUnavailable) notified hs.balanced hmem
      hroom.revision hs.noErrors
  rw [hsettle] at h
  cases h
  split
  all_goals
    refine hs.handOver hs.counted hkeeps hkeys herrors (inAdmission_of_free hfree _) hpc (by simp)
      (fun _ => rfl) ?_ le_rfl (by simp)
    intro f
    simp [WorkerPc.unsettled]

theorem record_sound {a : Submission} {latency : Nat}
    (hroom : s.NoOverflow (.worker w (.record latency))) (hpc : s.workers w = .recording task a)
    (h : s.workerStep w (.record latency) = some t) : t.Sound attempted₀ := by
  obtain ⟨accounting, hok, hcounted⟩ :=
    recordOutcome_spec (hroom.outcome latency rfl) task.transactionIndex a.outcome
  simp only [workerStep, hpc, hok] at h
  cases h
  split
  all_goals
    refine hs.handOver (hcounted _ hs.counted) ⟨hs.balanced, rfl, rfl⟩ (fun _ => rfl) hs.noErrors
      hs.inAdmission hpc (by simp) ?_ (fun _ => rfl) le_rfl (by simp)
    intro f
    simp [WorkerPc.unrecorded]

omit hs in
/-- A failed observation is not an attempt. -/
theorem recordObservationError_attempted (a : TransactionLoadSnapshot) :
    a.recordObservationError.2.attempted = a.attempted := by
  simp only [TransactionLoadSnapshot.recordObservationError]
  split
  · rfl
  · split
    · rfl
    · rfl

theorem observe_sound {result : ObservationResult} (hpc : s.workers w = .observing)
    (h : s.observeStep w result = some t) : t.Sound attempted₀ := by
  have hmove : ∀ u : EpochState c, u.Sound attempted₀ → u.workers w = .observing → ∀ pc : WorkerPc,
      pc = .popping ∨ pc = .cancelling .pop →
      Sound attempted₀ (u.setWorker w pc) := by
    rintro u hu hw pc (rfl | rfl)
    all_goals exact .moveWorker hu hw nofun (fun _ => rfl) (fun _ => rfl) rfl nofun
  have hcounted : Sound attempted₀
      { s with accounting := s.accounting.recordObservationError.2 } := by
    simp only [Sound, recordObservationError_attempted]
    exact hs
  cases result with
  | visible =>
    cases h
    exact hmove s hs hpc _ (.inl rfl)
  | observationError =>
    simp only [observeStep] at h
    split at h
    all_goals
      cases h
      exact hmove _ hcounted hpc _ (.inl rfl)
  | simulationCancelled =>
    simp only [observeStep] at h
    split at h
    · split at h
      all_goals
        cases h
        exact hmove _ (stopLoad_sound hcounted) hpc _ (.inr rfl)
    · cases h
  | failed message =>
    simp only [observeStep] at h
    cases h
    split
    all_goals exact hmove _ hcounted hpc _ (.inl rfl)

theorem workerStep_sound {input : WorkerInput}
    (hroom : s.NoOverflow (.worker w input)) (h : s.workerStep w input = some t) :
    t.Sound attempted₀ := by
  have hstep := h
  unfold workerStep at h
  split at h
  next hpc => exact pop_sound hs hpc hstep
  next hpc => exact submit_sound hs hpc h
  next hpc => exact settle_sound hs hroom hpc hstep
  next hpc =>
    cases h
    exact .cancelQueue hs hpc
  next hpc =>
    split at h <;> cases h
    rename_i u cursor' hdrop
    exact workerDrop_sound hs hroom hpc hdrop
  next headSettled next hpc =>
    cases h
    refine .moveWorker hs hpc nofun ?_ ?_ ?_ ?_
    · intro f
      cases next with
      | record task a => simp [WorkerNext.pc, WorkerPc.unrecorded, indexesOf, WorkerNext.unrecorded]
      | pop => rfl
    · intro f
      cases headSettled with
      | false => cases next <;> rfl
      | true => cases next <;> rfl
    · cases next <;> rfl
    · intro hexit
      cases next <;> cases hexit
  next hpc => exact record_sound hs hroom hpc hstep
  next hpc => exact observe_sound hs hpc h
  next => cases h

end Workers

section Producer

variable {attempted₀ : Nat} {s t : EpochState c}

variable (hs : s.Sound attempted₀)

include hs

/-- An idle producer goes to another place of its loop. -/
theorem loop_sound (hidle : s.producer.idle = true)
    (pc : ProducerPc) (hidle' : pc.idle = true) (hloop : pc.shut = false)
    (hjoined : pc.joined = false) :
    Accounted c attempted₀ s.ledger s.planner s.queue s.accounting.attempted
      s.stopRequested pc s.transactionIndex s.workers s.history := by
  refine .moveProducer hs hidle hidle' ⟨hs.balanced, rfl, rfl⟩ rfl hs.advanced ?_ ?_
  · intro hshut
    rw [hloop] at hshut
    cases hshut
  · intro hj
    rw [hjoined] at hj
    cases hj

theorem throwFromProducer_sound (hidle : s.producer.idle = true)
    (e : EpochException) : Sound attempted₀ (s.throwFromProducer e) :=
  loop_sound hs hidle _ rfl rfl rfl

theorem yieldProducer_sound (hidle : s.producer.idle = true)
    (settleRequested : Bool) : Sound attempted₀ (s.yieldProducer settleRequested) := by
  simp only [yieldProducer]
  split
  · exact .takeQueue hs hidle s.queue.cancelled .finish (by simp)
  · exact loop_sound hs hidle _ rfl rfl rfl

theorem headStep_sound (hpc : s.producer = .head) (expired yieldRequested settleRequested : Bool) :
    Sound attempted₀ (s.headStep expired yieldRequested settleRequested) := by
  have hidle : s.producer.idle = true := by
    rw [hpc]
    rfl
  simp only [headStep]
  split
  · exact loop_sound hs hidle _ rfl rfl rfl
  split
  · exact throwFromProducer_sound hs hidle _
  split
  · exact loop_sound hs hidle _ rfl rfl rfl
  split
  · exact yieldProducer_sound hs hidle _
  · split
    all_goals exact loop_sound hs hidle _ rfl rfl rfl

theorem scheduleStep_sound {answer : ScheduleAnswer} (hpc : s.producer = .scheduling)
    (h : s.scheduleStep answer = some t) : t.Sound attempted₀ := by
  have hidle : s.producer.idle = true := by
    rw [hpc]
    rfl
  cases answer with
  | ready =>
    cases h
    exact loop_sound hs hidle _ rfl rfl rfl
  | expired =>
    simp only [scheduleStep] at h
    split at h <;> cases h
    exact loop_sound hs hidle _ rfl rfl rfl
  | yielded settleRequested =>
    cases h
    exact yieldProducer_sound hs hidle _
  | simulationCancelled =>
    simp only [scheduleStep] at h
    split at h <;> cases h
    exact throwFromProducer_sound hs hidle _
  | failed message =>
    cases h
    exact throwFromProducer_sound hs hidle _

omit hs in
/-- The planner of the epoch keeps what its constructor checked. -/
theorem planner_of_advanced {p : LoadPlannerState E} (h : Advanced c.planner.val p) :
    p.Accepted ∧ p.workload = c.workload ∧ p.batchSize = c.planner.val.batchSize := by
  obtain ⟨rng, cursor, rfl⟩ := h
  exact ⟨c.planner.property.advance rng cursor, rfl, rfl⟩

omit hs in
theorem advanced_trans {p q r : LoadPlannerState E} (hpq : Advanced p q) (hqr : Advanced q r) :
    Advanced p r := by
  obtain ⟨rng, cursor, rfl⟩ := hpq
  obtain ⟨rng', cursor', rfl⟩ := hqr
  exact ⟨rng', cursor', rfl⟩

/-- Outside of an admission the ledger always has room for one more batch. -/
theorem room_for_batch (hidle : s.producer.idle = true) :
    s.ledger.reservations.length ≤
      c.workload.queueCapacity + c.workload.concurrency := by
  have hnothing := nothing_of_idle hidle
  have hkeys := hs.keys each
  have hfits := hs.fits
  have hcapacity := hs.capacity
  have hworkers := held_le_add WorkerPc.unsettled_each_le s.workers
  simp only [unsettledTotal, hnothing.unsettled, hnothing.staged, tally_each,
    indexesOf, length_map] at hkeys
  simp only [droppedTotal, hnothing.dropped] at hfits
  omega

theorem planStep_sound {fuel : Nat}
    (hroom : s.NoOverflow (.producer (.plan fuel))) (hpc : s.producer = .planning)
    (h : s.planStep fuel = some t) : t.Sound attempted₀ := by
  have hidle : s.producer.idle = true := by
    rw [hpc]
    rfl
  have hindex := hroom.index
  have hfirst : wrapAdd s.transactionIndex 1 = s.transactionIndex + 1 := wrapAdd_of_le (by omega)
  obtain ⟨haccepted, hworkload, hbatch⟩ := planner_of_advanced hs.advanced
  have hfee : effectiveWalletTransactionFeeReserveSatoshis s.planner.workload =
      s.ledger.feeReserveSatoshis := by
    rw [hworkload, hs.fee]
  simp only [planStep, hfirst] at h
  split at h
  · cases h
    exact throwFromProducer_sound (s := s.logLedgerError .invalidAttemptRange)
      (.logError hs ⟨by simp, by simp⟩) hidle _
  obtain ⟨p', hstep, ⟨e, hrun, hkind⟩ | hrun | ⟨plans, staged, l', hrun, hplanned⟩⟩ :=
    planAndStage_cases fuel (s.transactionIndex + 1) s.remainingAttempts hs.balanced haccepted hfee
  · have hadvanced := advanced_trans hs.advanced hstep
    have hallowed : e ≠ .settledMoreThanOnce ∧ e ≠ .reservationBound := by
      refine ⟨?_, ?_⟩
      · rintro rfl
        exact hkind
      · rintro rfl
        have hfull : s.ledger.maximumReservations <
            s.ledger.reservations.length + s.planner.batchSize := hkind
        have hlength := room_for_batch hs hidle
        have hmaximum := hs.maximum
        omega
    have hplanner : Sound attempted₀ { s with planner := p' } := { hs with advanced := hadvanced }
    rw [hrun] at h
    split at h
    · cases h
    · rename_i heq
      cases heq
      cases h
      exact throwFromProducer_sound (s := logLedgerError { s with planner := p' } e)
        (.logError hplanner hallowed) hidle _
    all_goals
      rename_i heq
      cases heq
  · have hadvanced := advanced_trans hs.advanced hstep
    rw [hrun] at h
    cases h
    exact .moveProducer hs hidle rfl ⟨hs.balanced, rfl, rfl⟩ rfl hadvanced nofun nofun
  · have hadvanced := advanced_trans hs.advanced hstep
    rw [hrun] at h
    cases h
    exact .stage hs hidle hplanned hadvanced

omit hs in
theorem indexesOf_tasksOf (plans : List WalletTransactionPlanEntry) :
    indexesOf (s.tasksOf plans) =
      range' (s.transactionIndex + 1) plans.length := by
  apply ext_getElem
  · simp [indexesOf, tasksOf]
  · intro i _ _
    simp only [indexesOf, tasksOf, getElem_map, getElem_mapIdx, getElem_range']
    omega

omit hs in
/-- The queue answers a push in one of four ways. -/
theorem tryPushBatch_cases
    (q : BoundedWalletTransactionQueue) (tasks : List WalletTransactionLoadTask)
    (beforePublish : Except String Unit) :
    (∃ answer, q.tryPushBatch tasks beforePublish = (answer, q) ∧ answer ≠ .ok true) ∨
    ∃ maximumSize,
      q.tryPushBatch tasks beforePublish =
        (.ok true, { q with tasks := q.tasks ++ tasks, maximumSize }) ∧
      q.closed = false ∧ q.tasks.length + tasks.length ≤ q.capacity := by
  simp only [BoundedWalletTransactionQueue.tryPushBatch]
  split
  · exact .inl ⟨_, rfl, by simp⟩
  rename_i hopen
  split
  · exact .inl ⟨_, rfl, by simp⟩
  rename_i hroom
  cases beforePublish with
  | error message => exact .inl ⟨_, rfl, by simp⟩
  | ok => exact .inr ⟨_, rfl, Bool.eq_false_of_not_eq_true hopen, by omega⟩

variable {plans : List WalletTransactionPlanEntry}

theorem pushStep_sound {indexes : List Nat} (hpc : s.producer = .admitting plans indexes)
    (prepared beforePublish : Except String Unit) :
    Sound attempted₀ (s.pushStep plans indexes prepared beforePublish) := by
  have hold := hs
  simp only [Sound, hpc] at hold
  have hstaging : Staging E s.ledger s.transactionIndex plans indexes := hold.inAdmission
  have htasks : indexesOf (s.tasksOf plans) = indexes := by
    rw [indexesOf_tasksOf, hstaging.indexes]
  have hrefused : ∀ answer : Except String Bool, answer ≠ .ok true →
      Accounted c attempted₀ s.ledger s.planner s.queue s.accounting.attempted
        s.stopRequested (.answered plans indexes (s.tasksOf plans) answer)
        s.transactionIndex s.workers
        (logAnswer s.history indexes (s.tasksOf plans) answer) := by
    intro answer hanswer
    match answer, hanswer with
    | .error message, hne => exact hold.pushRefused htasks hne
    | .ok false, hne => exact hold.pushRefused htasks hne
    | .ok true, hne => exact absurd rfl hne
  cases prepared with
  | error message => exact hrefused _ (by simp)
  | ok =>
    rcases tryPushBatch_cases s.queue (s.tasksOf plans) beforePublish with
      ⟨answer, hpush, hanswer⟩ | ⟨maximumSize, hpush, hopen, hroom⟩
    · simp only [pushStep, pushAnswer, hpush, Sound]
      exact hrefused answer hanswer
    · simp only [pushStep, pushAnswer, hpush, Sound]
      exact hold.pushAdmitted htasks hopen hroom

theorem finishStep_sound {indexes : List Nat} {tasks : List WalletTransactionLoadTask}
    {answer : Except String Bool} (hpc : s.producer = .answered plans indexes tasks answer) :
    Sound attempted₀ (s.finishStep plans indexes tasks answer (.ok ())) := by
  have hold := hs
  simp only [Sound, hpc] at hold
  obtain ⟨⟨p, base, staged, remaining, hplanned, hbase, rfl⟩, htasks⟩ := hold.inAdmission
  obtain ⟨l', hroll, _⟩ := rollBack_adds hplanned.adds hplanned.balanced
  rcases finishAdmission_cases hplanned.adds hplanned.balanced plans answer with
    ⟨rfl, hfinish⟩ | ⟨rfl, hfinish⟩ | ⟨message, rfl, hfinish⟩
  · simp only [finishStep, hfinish, Sound, Bool.false_eq_true, if_false, if_true]
    exact hold.finishAdmitted
  · simp only [finishStep, hfinish, hroll, Sound, Bool.false_eq_true, if_false, if_true]
    have hrolled := Accounted.rollBack s.ledger.maximumSize hold (by simp) hplanned hbase
    refine hrolled.handOut rfl ?_
    rw [htasks, hplanned.keys]
  · simp only [finishStep, hfinish, hroll]
    have hrolled := Accounted.rollBack s.ledger.maximumSize hold (by simp) hplanned hbase
    exact hrolled.logError ⟨by simp, by simp⟩

theorem waitStep_sound {observed : Nat} (hpc : s.producer = .waiting observed)
    (h : s.waitStep observed = some t) : t.Sound attempted₀ := by
  have hidle : s.producer.idle = true := by
    rw [hpc]
    rfl
  simp only [waitStep] at h
  split at h
  · cases h
    exact loop_sound hs hidle _ rfl rfl rfl
  split at h
  · split at h
    · cases h
      exact throwFromProducer_sound hs hidle _
    split at h
    all_goals
      cases h
      exact loop_sound hs hidle _ rfl rfl rfl
  · cases h

theorem refreshStep_sound {read : BalancesRead} (hpc : s.producer = .refreshing)
    (h : s.refreshStep read = some t) : t.Sound attempted₀ := by
  have hidle : s.producer.idle = true := by
    rw [hpc]
    rfl
  cases read with
  | simulationCancelled =>
    simp only [refreshStep] at h
    split at h <;> cases h
    exact throwFromProducer_sound hs hidle _
  | failed message =>
    cases h
    exact throwFromProducer_sound hs hidle _
  | values balances =>
    obtain ⟨hkeeps, _⟩ := refreshAvailableBalances_safe
      (balances.map Fin.val) hs.balanced (slot_map_val_le balances)
    obtain ⟨hreservations, herrors⟩ := refreshAvailableBalances_frame
      (l := s.ledger) (balances.map Fin.val)
    have hmove : ∀ pc : ProducerPc, pc.idle = true → pc.shut = false → pc.joined = false →
        Accounted c attempted₀ (s.ledger.refreshAvailableBalances (balances.map Fin.val)).2
          s.planner s.queue s.accounting.attempted s.stopRequested pc
          s.transactionIndex s.workers s.history := by
      intro pc hpcIdle hloop hjoined
      refine .moveProducer hs hidle hpcIdle hkeeps hreservations hs.advanced ?_ ?_
      · intro hshut
        rw [hloop] at hshut
        cases hshut
      · intro hj
        rw [hjoined] at hj
        cases hj
    simp only [refreshStep] at h
    split_ifs at h
    split at h
    · rename_i e ledger hrefresh
      cases h
      rw [hrefresh] at hmove herrors
      have hkind : e ≠ .settledMoreThanOnce ∧ e ≠ .reservationBound := by
        rcases herrors e rfl with rfl | rfl | rfl
        all_goals exact ⟨by simp, by simp⟩
      exact (hmove .finishing rfl rfl rfl).logError hkind
    · rename_i changed ledger hrefresh
      cases h
      rw [hrefresh] at hmove
      exact hmove .head rfl rfl rfl

theorem shutStep_sound (hpc : s.producer = .finishing) : Sound attempted₀ s.shutStep := by
  have hidle : s.producer.idle = true := by
    rw [hpc]
    rfl
  simp only [shutStep]
  split
  · exact .takeQueue (.requestStop hs) hidle true .join (by simp)
  have hmoved := loop_sound hs hidle .finishing rfl rfl rfl
  refine
    { hmoved with
      openQueue := ?_, cancelledQueue := ?_, exited := ?_
      shutQueue := fun _ => rfl }
  · intro hopen
    cases hopen
  · intro hcancelled
    exact ⟨rfl, (hs.cancelledQueue hcancelled).2⟩
  · intro w hw
    rcases hs.exited w hw with hstop | ⟨_, hempty⟩
    · exact .inl hstop
    · exact .inr ⟨rfl, hempty⟩

theorem joinStep_sound (hpc : s.producer = .joining)
    (hexited : ∀ w, s.workers w = .exited) : Sound attempted₀ s.joinStep := by
  have hidle : s.producer.idle = true := by
    rw [hpc]
    rfl
  have hclosed : s.queue.closed = true := by
    apply hs.shutQueue
    rw [hpc]
    rfl
  simp only [joinStep]
  split
  · exact .takeQueue hs hidle true .conclude (fun _ => hexited)
  rename_i hrunning
  have hempty : s.queue.tasks = [] := by
    rcases hs.exited ⟨0, c.concurrencyPositive⟩ (hexited _) with hstop | ⟨_, hempty⟩
    · simp [hstop] at hrunning
    · exact hempty
  exact .moveProducer hs hidle rfl ⟨hs.balanced, rfl, rfl⟩ rfl
    hs.advanced (fun _ => hclosed) (fun _ => ⟨hempty, hexited⟩)

theorem backpressure_sound {task : WalletTransactionLoadTask}
    {rest : List WalletTransactionLoadTask} {count latency : Nat}
    (hroom : s.NoOverflow (.producer (.record latency)))
    (hpc : s.producer = .backpressured (task :: rest) count)
    (h : s.producerStep (.record latency) = some t) : t.Sound attempted₀ := by
  have hold := hs
  simp only [Sound, hpc] at hold
  obtain ⟨accounting, hok, hcounted⟩ :=
    recordOutcome_spec (hroom.outcome latency rfl) task.transactionIndex .backpressured
  simp only [producerStep, hpc, hok] at h
  cases h
  refine hold.transfer (hcounted _ hs.counted) ⟨hs.balanced, rfl, rfl⟩ (fun _ => rfl) hs.noErrors
    trivial ⟨fun _ => rfl, rfl, rfl, rfl, rfl⟩ ?_ (fun _ => rfl) le_rfl (fun _ => .inl)
    (fun _ => rfl)
  intro f
  simp only [unrecordedTotal, unrecorded, indexesOf, map_cons, tally_append, tally_cons, tally_nil]
  omega

theorem producerStep_sound {input : ProducerInput}
    (hroom : s.NoOverflow (.producer input)) (h : s.producerStep input = some t) :
    t.Sound attempted₀ := by
  have hstep := h
  unfold producerStep at h
  split at h
  next hpc =>
    cases h
    exact headStep_sound hs hpc _ _ _
  next hpc => exact scheduleStep_sound hs hpc h
  next hpc => exact planStep_sound hs hroom hpc h
  next hpc =>
    cases h
    exact pushStep_sound hs hpc _ _
  next planned hpc =>
    cases h
    cases planned with
    | ok => exact finishStep_sound hs hpc
    | error message => exact absurd hroom.planned (by simp [plannedFits])
  next hpc => exact waitStep_sound hs hpc h
  next hpc => exact refreshStep_sound hs hpc h
  next hpc => exact backpressure_sound hs hroom hpc hstep
  next hpc =>
    cases h
    have hold := hs
    simp only [Sound, hpc] at hold
    exact hold.advance
  next hpc =>
    split at h <;> cases h
    rename_i u cursor' hdrop
    exact producerDrop_sound hs hroom hpc hdrop
  next hpc =>
    cases h
    have hold := hs
    simp only [Sound, hpc] at hold
    exact hold.leaveDrop
  next hpc =>
    cases h
    exact shutStep_sound hs hpc
  next hpc =>
    split at h <;> cases h
    rename_i hexited
    exact joinStep_sound hs hpc hexited
  next hpc =>
    cases h
    have hold := hs
    simp only [Sound, hpc] at hold
    exact { hold with }
  next => cases h

end Producer

section Runs

variable {attempted₀ : Nat} {s t : EpochState c}

variable (a : TransactionLoadSnapshot)

/-- Seeing a transaction on the nodes is not an attempt. -/
theorem recordPropagated_attempted (confirmed : Bool) :
    (a.recordPropagated confirmed).2.attempted = a.attempted := by
  simp only [TransactionLoadSnapshot.recordPropagated]
  split
  · rfl
  split
  · rfl
  split
  · rfl
  split
  · split
    · rfl
    · rfl
  · rfl

theorem recordConfirmed_attempted :
    a.recordConfirmed.2.attempted = a.attempted := by
  simp only [TransactionLoadSnapshot.recordConfirmed]
  split
  · rfl
  split
  · rfl
  · split
    · rfl
    · rfl

theorem step_sound {a : EpochAction c} (h : s.step a = some t) (hroom : s.NoOverflow a)
    (hs : s.Sound attempted₀) : t.Sound attempted₀ := by
  cases a with
  | requestStop =>
    cases h
    exact .requestStop hs
  | propagated confirmed =>
    cases h
    simp only [Sound, recordPropagated_attempted]
    exact hs
  | confirmed =>
    cases h
    simp only [Sound, recordConfirmed_attempted]
    exact hs
  | producer input => exact producerStep_sound hs hroom h
  | worker w input => exact workerStep_sound hs hroom h

theorem run_sound {balances : List U64} {accounting : TransactionLoadSnapshot}
    {actions : List (EpochAction c)} (hstart : c.start balances accounting = .ok s)
    (hroom : (epochMachine c).Meets NoOverflow s actions)
    (hrun : (epochMachine c).run s actions = some t) : t.Sound accounting.attempted :=
  (epochMachine c).meets_preserves (fun _ _ _ hstep hguard hs =>
    step_sound hstep hguard hs) hroom hrun (start_sound hstart).1

/-- Once the call has ended no party holds anything. -/
theorem unheld_of_done {result : EpochResult}
    (hs : s.Sound attempted₀) (hdone : s.producer = .done result) (f : Nat → Nat) :
    unrecordedTotal f s.queue s.producer s.workers = 0 ∧
    unsettledTotal f s.queue s.producer s.workers = 0 := by
  have hjoined : s.producer.joined = true := by
    rw [hdone]
    rfl
  obtain ⟨hempty, hexited⟩ := hs.joinedQueue hjoined
  have hunrecorded : held (WorkerPc.unrecorded f) s.workers = 0 :=
    held_eq_zero (fun w => by rw [hexited w]; rfl)
  have hunsettled : held (WorkerPc.unsettled f) s.workers = 0 :=
    held_eq_zero (fun w => by rw [hexited w]; rfl)
  simp [unrecordedTotal, unsettledTotal, hempty, hunrecorded, hunsettled, hdone,
    indexesOf, unrecorded, unsettled]

/--
In every run without overflow, when the call has ended: every index by which the
producer advanced has exactly one outcome and no other index has any, every
admitted index was settled exactly once and no other was settled, every refused or
throwing batch was rolled back once, the ledger is empty, the attempts grew by the
number of indexes, and neither of the two bookkeeping errors was ever thrown.
-/
theorem epoch_accounts_exactly_once {balances : List U64} {accounting : TransactionLoadSnapshot}
    {s t : EpochState c} {actions : List (EpochAction c)} {result : EpochResult}
    (hstart : c.start balances accounting = .ok s)
    (hroom : (epochMachine c).Meets NoOverflow s actions)
    (hrun : (epochMachine c).run s actions = some t) (hdone : t.producer = .done result) :
    (∀ i, t.history.outcomes.count i =
      if c.nextTransactionIndex < i ∧ i ≤ t.transactionIndex then 1 else 0) ∧
    (∀ i, t.history.settled.count i = if i ∈ t.history.admitted then 1 else 0) ∧
    t.history.rolledBack = t.history.refused ∧
    t.ledger.reservations = [] ∧
    t.accounting.attempted = accounting.attempted + (t.transactionIndex - c.nextTransactionIndex) ∧
    LedgerError.settledMoreThanOnce ∉ t.history.ledgerErrors ∧
    LedgerError.reservationBound ∉ t.history.ledgerErrors := by
  have hs := run_sound hstart hroom hrun
  have hnothing := fun f => unheld_of_done hs hdone f
  have hidle := @ProducerPc.nothing_of_idle t.producer (by rw [hdone]; rfl)
  have hstarted := hs.started
  have houtcomes : ∀ f, tally f t.history.outcomes =
      tally f (List.range' (c.nextTransactionIndex + 1)
        (t.transactionIndex - c.nextTransactionIndex)) := by
    intro f
    have hrecorded := hs.recorded f
    rw [(hnothing f).1, hidle.ahead] at hrecorded
    exact hrecorded
  refine ⟨?_, ?_, ?_, ?_, ?_, hs.noErrors⟩
  · intro i
    have hcount := houtcomes (only i)
    rw [tally_only, tally_only] at hcount
    rw [hcount]
    by_cases hi : c.nextTransactionIndex < i ∧ i ≤ t.transactionIndex
    · rw [if_pos hi]
      apply List.count_eq_one_of_mem List.nodup_range'
      apply List.mem_range'_1.mpr
      omega
    · rw [if_neg hi]
      apply List.count_eq_zero.mpr
      intro hmem
      have hbounds := List.mem_range'_1.mp hmem
      omega
  · intro i
    have hcount := hs.settled (only i)
    rw [(hnothing (only i)).2, tally_only, tally_only] at hcount
    simp only [Nat.add_zero] at hcount
    rw [hcount]
    by_cases hi : i ∈ t.history.admitted
    · rw [if_pos hi]
      exact List.count_eq_one_of_mem hs.admittedNodup hi
    · rw [if_neg hi]
      exact List.count_eq_zero.mpr hi
  · have hrolled := hs.rolledBack
    rw [hidle.refusing, List.append_nil] at hrolled
    exact hrolled.symm
  · have hkeys := hs.keys each
    rw [(hnothing each).2, hidle.staged, tally_each, List.length_map] at hkeys
    exact List.length_eq_zero_iff.mp hkeys
  · have hlength := houtcomes each
    have hcounted := hs.counted
    rw [tally_each, tally_each, List.length_range'] at hlength
    omega

/-- One batch of two: one task is submitted, the other one settled. -/
def fanoutEpoch : EpochConfig countingEngine where
  planner := fanoutPlanner
  attemptLimit := some 2
  nextTransactionIndex := 0
  concurrencyPositive := by decide

def fanoutActions : List (EpochAction fanoutEpoch) :=
  let w : Fin fanoutEpoch.workload.concurrency := ⟨0, by decide⟩
  [.producer (.head false false false), .producer (.plan 0),
    .producer (.push (.ok ()) (.ok ())), .worker w .pop,
    .producer (.finish (.ok ())), .worker w (.submit .submitted .failed),
    .worker w (.settle (.ok ())), .worker w (.record 5),
    .worker w (.observe .visible), .producer (.head false false false),
    .producer .shut, .worker w .pop, .worker w (.submit .settleRequested .failed),
    .worker w (.settle (.ok ())), .worker w (.record 7), .worker w .pop,
    .producer .join, .producer .conclude]

theorem epoch_accounts_fanout :
    ∃ s t,
      fanoutEpoch.start [20, 0, 0] {} = .ok s ∧
      (epochMachine fanoutEpoch).run s fanoutActions = some t ∧
      t.producer = .done (.returned .completed 2) ∧
      t.history.outcomes.count 2 = 1 ∧ t.ledger.reservations = [] := by
  have h := @epoch_accounts_exactly_once _ fanoutEpoch [20, 0, 0] {} _ _
    fanoutActions _ rfl (by decide) rfl rfl
  exact ⟨_, _, rfl, rfl, rfl, h.1 2, h.2.2.2.1⟩

end Runs

end EpochState

end Bbp.Simulator
