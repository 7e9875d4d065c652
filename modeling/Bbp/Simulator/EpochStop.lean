import Bbp.Simulator.EpochAccounting

/-!
# How a stopped epoch ends

A worker that observes a stop request cancels the shared queue itself.  If the
producer has passed its last check of the stop token by then, it still pushes its
batch, the closed queue throws, and the call ends with that exception instead of
the cancellation: `stopped_epoch_fails` is such a run.

`Undisturbed` lists what the surroundings have to grant besides: answers without
failures and counters with room.  Together with the condition that no batch is pushed
to a closed queue it makes every call end normally or as a cancellation.
-/

namespace Bbp.Simulator

open Library
open TransactionLoadBalanceReservations

variable {E : RandomEngine} {c : EpochConfig E}

namespace EpochState

section Conditions

/-- The label reports no failure from outside. -/
def answersWithoutFailure : EpochAction c → Bool
  | .producer (.schedule (.failed _)) => false
  | .producer (.push (.error _) _) => false
  | .producer (.push _ (.error _)) => false
  | .producer (.refresh (.failed _)) => false
  | .producer (.drop (.settle (.error _))) => false
  | .worker _ (.settle (.error _)) => false
  | .worker _ (.drop (.settle (.error _))) => false
  | .worker _ (.observe (.failed _)) => false
  | _ => true

/-- A balance that is read for a settlement covers what stays reserved. -/
def reconciles (s : EpochState c) : EpochAction c → Bool
  | .worker w (.settle _) =>
    match s.workers w with
    | .settling task a =>
      match s.ledger.reservations.lookup task.transactionIndex,
          a.actualAvailableBalance with
      | some r, some balance =>
        decide (slot s.ledger.reservedBySender r.senderIndex -
          r.amountSatoshis ≤ balance.val)
      | _, _ => true
    | _ => true
  | _ => true

/-- No batch is pushed to a queue that has been closed. -/
def pushesToOpenQueue (s : EpochState c) : EpochAction c → Bool
  | .producer (.push _ _) => !s.queue.closed
  | _ => true

/-- No counter overflows, and nothing fails outside of the epoch. -/
structure Undisturbed (s : EpochState c) (a : EpochAction c) : Prop where
  noOverflow : s.NoOverflow a
  batchIndex : s.transactionIndex + c.planner.val.batchSize < 2 ^ 64 - 1
  accountingRevision : s.accounting.revision < 2 ^ 64 - 1
  observationErrors : s.accounting.observationErrors < 2 ^ 64 - 1
  answers : answersWithoutFailure a = true
  reconciles : s.reconciles a = true

instance (s : EpochState c) (a : EpochAction c) : Decidable (s.Undisturbed a) :=
  decidable_of_iff (s.NoOverflow a ∧ s.transactionIndex + c.planner.val.batchSize < 2 ^ 64 - 1 ∧
      s.accounting.revision < 2 ^ 64 - 1 ∧
      s.accounting.observationErrors < 2 ^ 64 - 1 ∧
      answersWithoutFailure a = true ∧ s.reconciles a = true)
    ⟨fun ⟨ho, hb, hr, he, ha, hc⟩ => ⟨ho, hb, hr, he, ha, hc⟩,
      fun h => ⟨h.noOverflow, h.batchIndex, h.accountingRevision,
        h.observationErrors, h.answers, h.reconciles⟩⟩

/-- A fan-out reaches its limit from this index by whole batches. -/
def LeavesWholeBatches (c : EpochConfig E) (index : Nat) : Prop :=
  c.workload.strategy = .equalFanout → ∀ limit, c.attemptLimit = some limit →
      ∃ batches, index + batches * c.planner.val.batchSize = limit

/-- The wallets, fees and limit of an epoch, as its validation leaves them. -/
structure Validated (c : EpochConfig E) (walletCount : Nat) : Prop where
  covers : ∀ sender, sender ∈ c.planner.val.senders → sender < walletCount
  fees : c.workload.strategy = .equalFanout →
    effectiveWalletTransactionFeeReserveSatoshis c.workload ≤
      (2 ^ 64 - 1) / c.planner.val.receivers.length
  wholeBatches : LeavesWholeBatches c c.nextTransactionIndex

end Conditions

section Failing

/-- The fan-out of `fanoutEpoch` without a limit. -/
def continuousEpoch : EpochConfig countingEngine where
  planner := fanoutPlanner
  attemptLimit := none
  nextTransactionIndex := 0
  concurrencyPositive := fanoutEpoch.concurrencyPositive

/--
The worker sees the stop request, cancels the queue and drops its tasks while the
producer is between its check of the stop token and its next batch.
-/
def stoppedActions : List (EpochAction continuousEpoch) :=
  let w : Fin continuousEpoch.workload.concurrency := ⟨0, by decide⟩
  [.producer (.head false false false), .producer (.plan 0),
    .producer (.push (.ok ()) (.ok ())), .producer (.finish (.ok ())),
    .worker w .pop, .producer (.head false false false), .requestStop,
    .worker w (.submit (.simulationCancelled false) .failed),
    .worker w (.settle (.ok ())), .worker w .cancelQueue,
    .worker w (.drop (.settle (.ok ()))), .worker w (.drop (.record 0)),
    .producer (.plan 0), .producer (.push (.ok ()) (.ok ())),
    .producer (.finish (.ok ())), .producer .shut, .producer .leaveDrop,
    .worker w .leaveDrop, .worker w (.record 0), .worker w .pop,
    .producer .join, .producer .leaveDrop, .producer .conclude]

/-- An undisturbed, stopped epoch that ends with the exception of the queue. -/
theorem stopped_epoch_fails :
    ∃ s t,
      continuousEpoch.start [100, 0, 0] {} = .ok s ∧
      (epochMachine continuousEpoch).Meets Undisturbed s stoppedActions ∧
      (epochMachine continuousEpoch).run s stoppedActions = some t ∧
      t.stopRequested = true ∧
      t.producer = .done (.threw (.error (.ledger
        (.callback BoundedWalletTransactionQueue.closedMessage)))) ∧
      ∀ request, afterEpoch continuousEpoch.workload false request
        (.threw (.error (.ledger
          (.callback BoundedWalletTransactionQueue.closedMessage)))) =
        .terminal .failed "failed" :=
  ⟨_, _, rfl, by decide, rfl, rfl, rfl, fun _ => rfl⟩

end Failing

section Calm

/-- The call ends normally or as a cancellation. -/
def EndsWithoutFailure (result : EpochResult) : Prop :=
  (∃ ending next, result = .returned ending next) ∨ result = .threw .simulationCancelled

/-- What holds at a place of the producer as long as nothing has gone wrong. -/
def CalmAt (s : EpochState c) : ProducerPc → Prop
  | .scheduling | .planning => c.attemptLimit.any (fun limit => limit ≤ s.transactionIndex) = false
  | .admitting plans _ => LeavesWholeBatches c (s.transactionIndex + plans.length)
  | .answered plans _ _ answer =>
    LeavesWholeBatches c (s.transactionIndex + plans.length) ∧ ∃ admitted, answer = .ok admitted
  | .backpressured _ count => LeavesWholeBatches c (s.transactionIndex + count)
  | .refreshing => s.ledger.reservations = []
  | .done result => EndsWithoutFailure result
  | _ => True

/-- Nothing has gone wrong so far. -/
structure Calm (walletCount : Nat) (s : EpochState c) : Prop where
  producerError : s.producerError = none ∨ s.producerError = some .simulationCancelled
  infrastructure : s.infrastructureError = none
  wallets : s.ledger.availableBalances.length = walletCount
  wholeBatches : LeavesWholeBatches c s.transactionIndex
  place : s.CalmAt s.producer

variable {walletCount attempted₀ : Nat} {s t : EpochState c}

theorem Calm.toPlace (h : s.Calm walletCount) (hindex : t.transactionIndex = s.transactionIndex)
    (herror : t.producerError = s.producerError ∨ t.producerError = some .simulationCancelled)
    (hinfrastructure : t.infrastructureError = s.infrastructureError)
    (hwallets : t.ledger.availableBalances.length = s.ledger.availableBalances.length)
    (hplace : t.CalmAt t.producer) : t.Calm walletCount := by
  refine ⟨?_, hinfrastructure.trans h.infrastructure, hwallets.trans h.wallets, ?_, hplace⟩
  · rcases herror with heq | heq
    · rw [heq]
      exact h.producerError
    · exact .inr heq
  · rw [hindex]
    exact h.wholeBatches

/-- A step of a worker that leaves the producer where it is. -/
theorem Calm.ofWorker (h : s.Calm walletCount) (hproducer : t.producer = s.producer)
    (hindex : t.transactionIndex = s.transactionIndex) (herror : t.producerError = s.producerError)
    (hinfrastructure : t.infrastructureError = s.infrastructureError)
    (hwallets : t.ledger.availableBalances.length = s.ledger.availableBalances.length)
    (hempty : s.ledger.reservations = [] → t.ledger.reservations = []) : t.Calm walletCount := by
  refine h.toPlace hindex (.inl herror) hinfrastructure hwallets ?_
  have hplace := h.place
  rw [hproducer]
  cases hpc : s.producer with
  | refreshing =>
    rw [hpc] at hplace
    exact hempty hplace
  | _ =>
    simp only [hpc, CalmAt] at hplace
    simp only [CalmAt, hindex, hplace, and_self]

/-- Settling a task that has a reservation, with nothing going wrong outside. -/
theorem settleTask_calm {i : Nat} (actual : Option U64) (release : Bool)
    (hbalanced : s.ledger.Balanced) (hi : i ∈ s.ledger.reservations.map Prod.fst)
    (hrevision : s.ledger.balanceRevision < 2 ^ 64 - 1)
    (hactual : ∀ r balance, s.ledger.reservations.lookup i = some r →
      actual = some balance →
        slot s.ledger.reservedBySender r.senderIndex - r.amountSatoshis ≤
          balance.val) :
    ∃ ledger history,
      s.settleTask i actual release (.ok ()) = { s with ledger, history } ∧
      ledger.availableBalances.length = s.ledger.availableBalances.length ∧
      (s.ledger.reservations = [] → ledger.reservations = []) := by
  obtain ⟨r, hlookup⟩ := Option.isSome_iff_exists.mp (lookup_isSome_iff_mem_keys.mpr hi)
  have hword : ∀ balance, actual.map Fin.val = some balance → balance ≤ 2 ^ 64 - 1 := by
    intro balance hbalance
    obtain ⟨word, _, rfl⟩ := Option.map_eq_some_iff.mp hbalance
    omega
  have hok := settle_ok (actual.map Fin.val) release hbalanced hlookup hrevision (by
      intro balance hbalance
      obtain ⟨word, hread, rfl⟩ := Option.map_eq_some_iff.mp hbalance
      exact hactual r word hlookup hread)
  rcases settle_cases i (actual.map Fin.val) release (some fun _ => .ok ()) hbalanced hword with
    ⟨hnone, _⟩ | ⟨r', _, ⟨hmax, _⟩ | ⟨available, result, hrun, _, _⟩⟩
  · rw [hlookup] at hnone
    cases hnone
  · omega
  · rw [hrun] at hok
    cases hok
    refine ⟨s.ledger.settled i r' available,
      { s.history with settled := s.history.settled ++ [i] }, ?_, ?_, ?_⟩
    · simp only [settleTask, hrun]
    · simp [settled]
    · intro hempty
      simp [settled, hempty, eraseKey]

/-- One step of `record_dropped_tasks` with nothing going wrong outside. -/
theorem dropStep_calm {cursor cursor' : DropCursor} {input : DropInput} {a : EpochAction c}
    (hs : s.Sound attempted₀)
    (hheld : ∀ task rest,
      cursor = { tasks := task :: rest, headSettled := false } →
        task.transactionIndex ∈ s.ledger.reservations.map Prod.fst)
    (hroom : s.Undisturbed a) (ha : a = .producer (.drop input) ∨ ∃ w, a = .worker w (.drop input))
    (h : s.dropStep cursor input = some (t, cursor')) :
    ∃ ledger history accounting, t = { s with ledger, history, accounting } ∧
      ledger.availableBalances.length = s.ledger.availableBalances.length ∧
      (s.ledger.reservations = [] → ledger.reservations = []) := by
  rcases dropStep_cases h with
    ⟨task, rest, notified, rfl, rfl, rfl, -, rfl⟩ | ⟨task, rest, latency, rfl, rfl, rfl, hrecord⟩
  · have hanswers := hroom.answers
    cases notified with
    | error message => rcases ha with rfl | ⟨w, rfl⟩ <;> cases hanswers
    | ok =>
      obtain ⟨ledger, history, hsettle, hwallets, hempty⟩ := settleTask_calm none true hs.balanced
        (hheld task rest rfl) hroom.noOverflow.revision (by simp)
      exact ⟨ledger, history, s.accounting, hsettle, hwallets, hempty⟩
  · have hlatency : latency ∈ latencyOf a := by rcases ha with rfl | ⟨w, rfl⟩ <;> rfl
    obtain ⟨accounting, hok, _⟩ := recordOutcome_spec (hroom.noOverflow.outcome latency hlatency)
      task.transactionIndex .dropped
    rw [hok] at hrecord
    rcases hrecord with hrecord | ⟨_, hrecord, _⟩
    · cases hrecord
      exact ⟨s.ledger, _, accounting, rfl, rfl, id⟩
    · cases hrecord

/-- Observing goes wrong only outside. -/
theorem recordObservationError_ok {a : TransactionLoadSnapshot}
    (hrevision : a.revision < 2 ^ 64 - 1) (herrors : a.observationErrors < 2 ^ 64 - 1) :
    a.recordObservationError.1 = .ok () := by
  simp only [TransactionLoadSnapshot.recordObservationError]
  rw [if_neg (by omega), if_neg (by omega)]

section

variable (hc : s.Calm walletCount)

include hc

variable {w : Fin c.workload.concurrency}

theorem observeStep_calm {result : ObservationResult}
    (hroom : s.Undisturbed (.worker w (.observe result))) (h : s.observeStep w result = some t) :
    t.Calm walletCount := by
  have hok := recordObservationError_ok hroom.accountingRevision hroom.observationErrors
  cases result with
  | visible =>
    cases h
    exact hc.ofWorker rfl rfl rfl rfl rfl id
  | observationError =>
    simp only [observeStep, hok] at h
    cases h
    exact hc.ofWorker rfl rfl rfl rfl rfl id
  | simulationCancelled =>
    simp only [observeStep, hok] at h
    split at h <;> cases h
    exact hc.ofWorker rfl rfl rfl rfl rfl id
  | failed message => exact absurd hroom.answers (by simp [answersWithoutFailure])

omit hc in
theorem workerStep_calm {input : WorkerInput} (hs : s.Sound attempted₀) (hc : s.Calm walletCount)
    (hroom : s.Undisturbed (.worker w input)) (h : s.workerStep w input = some t) :
    t.Calm walletCount := by
  unfold workerStep at h
  split at h
  next =>
    split at h
    · cases h
    all_goals
      cases h
      exact hc.ofWorker rfl rfl rfl rfl rfl id
  next =>
    unfold submitStep at h
    dsimp only at h
    split at h <;> cases h
    split
    all_goals exact hc.ofWorker rfl rfl rfl rfl rfl id
  next task a notified hpc =>
    cases notified with
    | error message => exact absurd hroom.answers (by simp [answersWithoutFailure])
    | ok =>
      have hmem : task.transactionIndex ∈ s.ledger.reservations.map Prod.fst := by
        apply mem_keys_of_worker hs w
        simp [hpc, WorkerPc.unsettled]
      have hreconciles := hroom.reconciles
      obtain ⟨ledger, history, hsettle, hwallets, hempty⟩ :=
        settleTask_calm a.actualAvailableBalance
          (!a.submitted && a.releaseIfBalanceUnavailable) hs.balanced hmem
          hroom.noOverflow.revision (by
            intro r balance hlookup hread
            simp only [reconciles, hpc, hlookup, hread] at hreconciles
            exact of_decide_eq_true hreconciles)
      simp only [hsettle] at h
      split at h <;> cases h
      exact hc.ofWorker rfl rfl rfl rfl hwallets hempty
  next =>
    cases h
    exact hc.ofWorker rfl rfl rfl rfl rfl id
  next hpc =>
    split at h <;> cases h
    rename_i u cursor' hdrop
    obtain ⟨ledger, history, accounting, rfl, hwallets, hempty⟩ :=
      dropStep_calm hs (by
        rintro task rest rfl
        apply mem_keys_of_worker hs w
        simp only [hpc, WorkerPc.unsettled, DropCursor.unsettled, indexesOf,
          Bool.false_eq_true, if_false, List.map_cons, tally_cons, only_self]
        omega) hroom (.inr ⟨w, rfl⟩) hdrop
    exact hc.ofWorker rfl rfl rfl rfl hwallets hempty
  next =>
    cases h
    exact hc.ofWorker rfl rfl rfl rfl rfl id
  next task a latency _ =>
    obtain ⟨accounting, hok, _⟩ := recordOutcome_spec
      (hroom.noOverflow.outcome latency rfl) task.transactionIndex a.outcome
    rw [hok] at h
    cases h
    exact hc.ofWorker rfl rfl rfl rfl rfl id
  next => exact observeStep_calm hc hroom h
  next => cases h

theorem yieldProducer_calm (settleRequested : Bool) :
    Calm walletCount (s.yieldProducer settleRequested) := by
  simp only [yieldProducer]
  split
  all_goals exact hc.toPlace rfl (.inl rfl) rfl rfl trivial

theorem headStep_calm (expired yieldRequested settleRequested : Bool) :
    Calm walletCount (s.headStep expired yieldRequested settleRequested) := by
  simp only [headStep]
  split
  · exact hc.toPlace rfl (.inl rfl) rfl rfl trivial
  rename_i hlimit
  have hbelow := Bool.eq_false_of_not_eq_true hlimit
  split
  · exact hc.toPlace rfl (.inr rfl) rfl rfl trivial
  split
  · exact hc.toPlace rfl (.inl rfl) rfl rfl trivial
  split
  · exact yieldProducer_calm hc _
  · split
    all_goals exact hc.toPlace rfl (.inl rfl) rfl rfl hbelow

theorem scheduleStep_calm {answer : ScheduleAnswer} (hpc : s.producer = .scheduling)
    (hroom : s.Undisturbed (.producer (.schedule answer))) (h : s.scheduleStep answer = some t) :
    t.Calm walletCount := by
  cases answer with
  | ready =>
    cases h
    have hbelow := hc.place
    rw [hpc] at hbelow
    exact hc.toPlace rfl (.inl rfl) rfl rfl hbelow
  | expired =>
    simp only [scheduleStep] at h
    split at h <;> cases h
    exact hc.toPlace rfl (.inl rfl) rfl rfl trivial
  | yielded settleRequested =>
    cases h
    exact yieldProducer_calm hc _
  | simulationCancelled =>
    simp only [scheduleStep] at h
    split at h <;> cases h
    exact hc.toPlace rfl (.inr rfl) rfl rfl trivial
  | failed message => exact absurd hroom.answers (by simp [answersWithoutFailure])

omit hc in
/-- Every reservation outside of an admission has an index handed out before. -/
theorem key_le_index (hs : s.Sound attempted₀) (hidle : s.producer.idle = true) {k : Nat}
    (hk : k ∈ s.ledger.reservations.map Prod.fst) : k ≤ s.transactionIndex := by
  have hnothing := ProducerPc.nothing_of_idle hidle
  have hkeys := hs.keys (only k)
  have hsettled := hs.settled (only k)
  have hcount := List.count_pos_iff.mpr hk
  rw [hnothing.staged, tally_only] at hkeys
  rw [tally_only, tally_only] at hsettled
  have hadmitted : k ∈ s.history.admitted := by
    apply List.count_pos_iff.mp
    omega
  have hbound := hs.admittedBound k hadmitted
  rw [hnothing.ahead] at hbound
  exact hbound

/-- A fan-out that has attempts left has a whole batch of them left. -/
theorem batch_le_remaining
    (hstrategy : c.workload.strategy = .equalFanout) (hremaining : s.remainingAttempts ≠ 0)
    (hfits : s.transactionIndex + c.planner.val.batchSize < 2 ^ 64 - 1) :
    c.planner.val.batchSize ≤ s.remainingAttempts := by
  unfold remainingAttempts at hremaining ⊢
  split
  · rename_i limit hlimit
    rw [hlimit] at hremaining
    obtain ⟨batches, hbatches⟩ := hc.wholeBatches hstrategy limit hlimit
    cases batches with
    | zero =>
      simp only [Nat.zero_mul, Nat.add_zero] at hbatches
      simp only [hbatches, Nat.sub_self, ne_eq, not_true_eq_false] at hremaining
    | succ batches =>
      rw [Nat.succ_mul] at hbatches
      omega
  · omega

/-- After a batch within its limit a fan-out still reaches it by whole batches. -/
theorem leavesWholeBatches_add {count : Nat}
    (hwhole : c.workload.strategy = .equalFanout → count = c.planner.val.batchSize)
    (hwithin : count ≤ s.remainingAttempts) (hpositive : 0 < count) :
    LeavesWholeBatches c (s.transactionIndex + count) := by
  intro hstrategy limit hlimit
  have hcount := hwhole hstrategy
  simp only [remainingAttempts, hlimit] at hwithin
  obtain ⟨batches, hbatches⟩ := hc.wholeBatches hstrategy limit hlimit
  cases batches with
  | zero =>
    simp only [Nat.zero_mul, Nat.add_zero] at hbatches
    omega
  | succ batches =>
    rw [Nat.succ_mul] at hbatches
    exact ⟨batches, by omega⟩

omit hc in
/-- With attempts left and nothing disturbed, planning does not fail. -/
theorem stageFailure_calm {e : LedgerError} {fuel : Nat} (hv : Validated c walletCount)
    (hs : s.Sound attempted₀) (hc : s.Calm walletCount) (hidle : s.producer.idle = true)
    (hroom : s.Undisturbed (.producer (.plan fuel))) (hremaining : s.remainingAttempts ≠ 0)
    (h : StageFailure s.ledger s.planner (s.transactionIndex + 1)
      s.remainingAttempts e) :
    e = .planner .notReturned := by
  obtain ⟨haccepted, hworkload, hbatch⟩ := planner_of_advanced hs.advanced
  cases e with
  | planner e =>
    obtain ⟨fuel', balances, hlength, hword, herror⟩ := h
    have hreturned : e = .notReturned := by
      refine nextBatch_error haccepted ?_ ?_ hremaining hword herror
      · intro sender hsender
        rw [hlength, hc.wallets]
        apply hv.covers
        obtain ⟨rng, cursor, heq⟩ := hs.advanced
        rw [heq] at hsender
        exact hsender
      · intro hstrategy
        rw [hworkload] at hstrategy ⊢
        have hfees := hv.fees hstrategy
        obtain ⟨rng, cursor, heq⟩ := hs.advanced
        rw [heq]
        exact hfees
    rw [hreturned]
  | invalidBatchSize =>
    obtain ⟨hsmall, hstrategy⟩ := h
    rw [hworkload] at hstrategy
    rw [hbatch] at hsmall
    have hwhole := batch_le_remaining hc hstrategy hremaining hroom.batchIndex
    omega
  | reservationBound =>
    have hfull : s.ledger.maximumReservations <
        s.ledger.reservations.length + s.planner.batchSize := h
    have hlength := room_for_batch hs hidle
    have hmaximum := hs.maximum
    omega
  | indexOverflow =>
    have hlarge : 2 ^ 64 ≤ s.transactionIndex + 1 + s.planner.batchSize := h
    have hfits := hroom.batchIndex
    omega
  | duplicateIndex =>
    obtain ⟨k, hlow, hk⟩ := h
    have hbound := key_le_index hs hidle hk
    omega
  | _ => exact h.elim

omit hc in
theorem planStep_calm {fuel : Nat} (hv : Validated c walletCount)
    (hs : s.Sound attempted₀) (hc : s.Calm walletCount) (hpc : s.producer = .planning)
    (hroom : s.Undisturbed (.producer (.plan fuel))) (h : s.planStep fuel = some t) :
    t.Calm walletCount := by
  have hidle : s.producer.idle = true := by
    rw [hpc]
    rfl
  have hindex := hroom.noOverflow.index
  have hfirst : wrapAdd s.transactionIndex 1 = s.transactionIndex + 1 := wrapAdd_of_le (by omega)
  have hremaining : s.remainingAttempts ≠ 0 := by
    have hbelow := hc.place
    rw [hpc] at hbelow
    simp only [CalmAt] at hbelow
    unfold remainingAttempts
    split
    · rename_i limit hlimit
      rw [hlimit] at hbelow
      simp only [Option.any_some, decide_eq_false_iff_not] at hbelow
      omega
    · omega
  obtain ⟨haccepted, hworkload, hbatch⟩ := planner_of_advanced hs.advanced
  have hfee : effectiveWalletTransactionFeeReserveSatoshis s.planner.workload =
      s.ledger.feeReserveSatoshis := by
    rw [hworkload, hs.fee]
  simp only [planStep, hfirst] at h
  rw [if_neg (by omega)] at h
  obtain ⟨p', _, ⟨e, hrun, hkind⟩ | hrun | ⟨plans, staged, l', hrun, hplanned⟩⟩ :=
    planAndStage_cases fuel (s.transactionIndex + 1) s.remainingAttempts hs.balanced haccepted hfee
  · have hnotReturned := stageFailure_calm hv hs hc hidle hroom hremaining hkind
    subst hnotReturned
    rw [hrun] at h
    cases h
  · rw [hrun] at h
    cases h
    exact hc.toPlace rfl (.inl rfl) rfl rfl trivial
  · rw [hrun] at h
    cases h
    have hwhole : LeavesWholeBatches c (s.transactionIndex + plans.length) := by
      refine leavesWholeBatches_add hc ?_ hplanned.withinRemaining
        (List.length_pos_iff.mpr hplanned.nonempty)
      intro hstrategy
      rw [← hbatch]
      exact hplanned.wholeBatch (by rw [hworkload]; exact hstrategy)
    exact hc.toPlace rfl (.inl rfl) rfl hplanned.adds.availableLength hwhole

variable {plans : List WalletTransactionPlanEntry}

theorem pushStep_calm {indexes : List Nat} {prepared beforePublish : Except String Unit}
    (hpc : s.producer = .admitting plans indexes)
    (hroom : s.Undisturbed (.producer (.push prepared beforePublish)))
    (hopen : s.pushesToOpenQueue (.producer (.push prepared beforePublish)) = true) :
    Calm walletCount (s.pushStep plans indexes prepared beforePublish) := by
  have hanswers := hroom.answers
  have hclosed : s.queue.closed = false := by
    simpa [pushesToOpenQueue] using hopen
  match prepared, beforePublish with
  | .error message, _ => simp [answersWithoutFailure] at hanswers
  | .ok (), .error message => simp [answersWithoutFailure] at hanswers
  | .ok (), .ok () =>
    obtain ⟨admitted, queue, hpush⟩ : ∃ admitted queue,
        s.queue.tryPushBatch (s.tasksOf plans) (.ok ()) = (.ok admitted, queue) := by
      simp only [BoundedWalletTransactionQueue.tryPushBatch, hclosed, Bool.false_eq_true, if_false]
      split
      · exact ⟨false, _, rfl⟩
      · exact ⟨true, _, rfl⟩
    simp only [pushStep, pushAnswer, hpush]
    have hwhole := hc.place
    rw [hpc] at hwhole
    exact hc.toPlace rfl (.inl rfl) rfl rfl ⟨hwhole, admitted, rfl⟩

omit hc in
theorem finishStep_calm {indexes : List Nat}
    {tasks : List WalletTransactionLoadTask} {answer : Except String Bool}
    (hs : s.Sound attempted₀) (hc : s.Calm walletCount)
    (hpc : s.producer = .answered plans indexes tasks answer) :
    Calm walletCount (s.finishStep plans indexes tasks answer (.ok ())) := by
  have hplace := hc.place
  rw [hpc] at hplace
  obtain ⟨hwhole, admitted, rfl⟩ := hplace
  have hold := hs
  simp only [Sound, hpc] at hold
  obtain ⟨⟨p, base, staged, remaining, hplanned, hbase, rfl⟩, htasks⟩ := hold.inAdmission
  rcases finishAdmission_cases hplanned.adds hplanned.balanced plans (.ok admitted) with
    ⟨heq, hfinish⟩ | ⟨heq, hfinish⟩ | ⟨message, heq, _⟩
  · cases heq
    simp only [finishStep, hfinish, if_true]
    exact ⟨hc.producerError, hc.infrastructure, hc.wallets, hwhole, trivial⟩
  · cases heq
    simp only [finishStep, hfinish, Bool.false_eq_true, if_false]
    exact hc.toPlace rfl (.inl rfl) rfl hplanned.adds.availableLength.symm hwhole
  · cases heq

theorem waitStep_calm {observed : Nat}
    (h : s.waitStep observed = some t) : t.Calm walletCount := by
  simp only [waitStep] at h
  split at h
  · cases h
    exact hc.toPlace rfl (.inl rfl) rfl rfl trivial
  split at h
  · rename_i hresolved
    split at h
    · cases h
      exact hc.toPlace rfl (.inr rfl) rfl rfl trivial
    rename_i hrunning
    split at h
    · cases h
      have hempty : s.ledger.reservations = [] := by
        rcases hresolved with hempty | hstop
        · exact hempty
        · exact absurd hstop hrunning
      exact hc.toPlace rfl (.inl rfl) rfl rfl hempty
    · cases h
      exact hc.toPlace rfl (.inl rfl) rfl rfl trivial
  · cases h

theorem refreshStep_calm {read : BalancesRead} (hpc : s.producer = .refreshing)
    (hroom : s.Undisturbed (.producer (.refresh read))) (h : s.refreshStep read = some t) :
    t.Calm walletCount := by
  cases read with
  | simulationCancelled =>
    simp only [refreshStep] at h
    split at h <;> cases h
    exact hc.toPlace rfl (.inr rfl) rfl rfl trivial
  | failed message => exact absurd hroom.answers (by simp [answersWithoutFailure])
  | values balances =>
    simp only [refreshStep] at h
    split_ifs at h with hsize
    have hlength : (balances.map Fin.val).length = s.ledger.availableBalances.length := by
      simpa using hsize
    have hempty := hc.place
    rw [hpc] at hempty
    obtain ⟨changed, l', hrefresh, hwallets⟩ := refreshAvailableBalances_ok
      hempty hlength hroom.noOverflow.revision
    rw [hrefresh] at h
    cases h
    exact hc.toPlace rfl (.inl rfl) rfl hwallets trivial

/-- With no error recorded the call ends normally or as a cancellation. -/
theorem conclusion_calm : EndsWithoutFailure s.conclusion := by
  unfold conclusion
  rw [hc.infrastructure]
  rcases hc.producerError with hnone | hcancelled
  · rw [hnone]
    simp only
    split
    · exact .inr rfl
    split
    · exact .inl ⟨_, _, rfl⟩
    · split
      all_goals exact .inl ⟨_, _, rfl⟩
  · rw [hcancelled]
    exact .inr rfl

/-- A stop request that comes before the result is chosen decides it. -/
theorem conclusion_of_stop (hstop : s.stopRequested = true) :
    s.conclusion = .threw .simulationCancelled := by
  unfold conclusion
  rw [hc.infrastructure]
  rcases hc.producerError with hnone | hcancelled
  · simp [hnone, hstop]
  · rw [hcancelled]

end

theorem producerStep_calm {input : ProducerInput} (hv : Validated c walletCount)
    (hs : s.Sound attempted₀) (hc : s.Calm walletCount) (hroom : s.Undisturbed (.producer input))
    (hopen : s.pushesToOpenQueue (.producer input) = true) (h : s.producerStep input = some t) :
    t.Calm walletCount := by
  unfold producerStep at h
  split at h
  next =>
    cases h
    exact headStep_calm hc _ _ _
  next hpc => exact scheduleStep_calm hc hpc hroom h
  next hpc => exact planStep_calm hv hs hc hpc hroom h
  next hpc =>
    cases h
    exact pushStep_calm hc hpc hroom hopen
  next planned hpc =>
    cases h
    cases planned with
    | ok => exact finishStep_calm hs hc hpc
    | error message => exact absurd hroom.noOverflow.planned (by simp [plannedFits])
  next => exact waitStep_calm hc h
  next hpc => exact refreshStep_calm hc hpc hroom h
  next task _ _ latency hpc =>
    obtain ⟨accounting, hok, _⟩ := recordOutcome_spec
      (hroom.noOverflow.outcome latency rfl) task.transactionIndex .backpressured
    have hwhole := hc.place
    rw [hpc] at hwhole
    rw [hok] at h
    cases h
    exact hc.toPlace rfl (.inl rfl) rfl rfl hwhole
  next hpc =>
    have hwhole := hc.place
    rw [hpc] at hwhole
    cases h
    exact ⟨hc.producerError, hc.infrastructure, hc.wallets, hwhole, trivial⟩
  next hpc =>
    split at h <;> cases h
    rename_i u cursor' hdrop
    obtain ⟨ledger, history, accounting, rfl, hwallets, _⟩ :=
      dropStep_calm hs (by
        rintro task rest rfl
        apply mem_keys_of_unsettled hs
        simp only [hpc, unsettledTotal, ProducerPc.unsettled, DropCursor.unsettled, indexesOf,
          Bool.false_eq_true, if_false, List.map_cons, tally_cons, only_self]
        omega) hroom (.inl rfl) hdrop
    exact hc.toPlace rfl (.inl rfl) rfl hwallets trivial
  next next _ =>
    cases h
    refine hc.toPlace rfl (.inl rfl) rfl rfl ?_
    cases next <;> trivial
  next =>
    cases h
    unfold shutStep
    split
    all_goals exact hc.toPlace rfl (.inl rfl) rfl rfl trivial
  next =>
    split at h <;> cases h
    unfold joinStep
    split
    all_goals exact hc.toPlace rfl (.inl rfl) rfl rfl trivial
  next =>
    cases h
    exact hc.toPlace rfl (.inl rfl) rfl rfl (conclusion_calm hc)
  next => cases h

theorem step_calm {a : EpochAction c} (hv : Validated c walletCount)
    (hs : s.Sound attempted₀) (hc : s.Calm walletCount)
    (hroom : s.Undisturbed a) (hopen : s.pushesToOpenQueue a = true) (h : s.step a = some t) :
    t.Calm walletCount := by
  cases a with
  | requestStop | propagated | confirmed =>
    cases h
    exact hc.ofWorker rfl rfl rfl rfl rfl id
  | producer input => exact producerStep_calm hv hs hc hroom hopen h
  | worker w input => exact workerStep_calm hs hc hroom h

theorem start_calm {balances : List U64} {accounting : TransactionLoadSnapshot}
    (hv : Validated c balances.length) (h : c.start balances accounting = .ok s) :
    s.Calm balances.length := by
  simp only [EpochConfig.start] at h
  split at h
  · cases h
  split at h
  · cases h
  split at h <;> cases h
  rename_i ledger hcreate
  refine ⟨.inl rfl, rfl, ?_, hv.wholeBatches, trivial⟩
  simp only [TransactionLoadBalanceReservations.create] at hcreate
  split_ifs at hcreate
  cases hcreate
  simp

/--
In every run that nothing disturbs and that pushes no batch to a closed queue, the
call ends normally or as a cancellation; once a stop has been requested before the
result is chosen it ends as a cancellation, which the launcher never takes for the
failure of a workload that is paused, reconfigured or stopped.
-/
theorem stopped_epoch_ends_as_cancellation
    {balances : List U64} {accounting : TransactionLoadSnapshot}
    {s t : EpochState c} {actions : List (EpochAction c)} (hv : Validated c balances.length)
    (hstart : c.start balances accounting = .ok s)
    (hmeets : (epochMachine c).Meets
      (fun s a => s.Undisturbed a ∧ s.pushesToOpenQueue a = true) s actions)
    (hrun : (epochMachine c).run s actions = some t) :
    (∀ result, t.producer = .done result → EndsWithoutFailure result) ∧
    (t.producer = .concluding → t.stopRequested = true →
      t.conclusion = .threw .simulationCancelled) ∧
    ∀ request,
      request ∈ [LiveWalletWorkloadRequest.pause, .reconfigure, .stopCancel,
        .stopSettle] →
      ∀ serviceStopped outcome,
        afterEpoch c.workload serviceStopped request
          (.threw .simulationCancelled) ≠ .terminal .failed outcome := by
  have hcalm : t.Sound accounting.attempted ∧ t.Calm balances.length := by
    refine (epochMachine c).meets_preserves
      (I := fun u => u.Sound accounting.attempted ∧ u.Calm balances.length)
      ?_ hmeets hrun ⟨(start_sound hstart).1, start_calm hv hstart⟩
    rintro u a v hstep ⟨hroom, hopen⟩ ⟨hs, hc⟩
    exact ⟨step_sound hstep hroom.noOverflow hs, step_calm hv hs hc hroom hopen hstep⟩
  refine ⟨?_, fun _ hstop => conclusion_of_stop hcalm.2 hstop, ?_⟩
  · intro result hdone
    have hplace := hcalm.2.place
    rw [hdone] at hplace
    exact hplace
  intro request hrequest serviceStopped outcome
  simp only [List.mem_cons, List.not_mem_nil, or_false] at hrequest
  rcases hrequest with rfl | rfl | rfl | rfl
  all_goals simp [afterEpoch]

/-- The producer checks the stop token again before it plans its next batch. -/
def cancelledActions : List (EpochAction continuousEpoch) :=
  let w : Fin continuousEpoch.workload.concurrency := ⟨0, by decide⟩
  [.producer (.head false false false), .producer (.plan 0),
    .producer (.push (.ok ()) (.ok ())), .producer (.finish (.ok ())),
    .worker w .pop, .requestStop,
    .worker w (.submit (.simulationCancelled false) .failed),
    .worker w (.settle (.ok ())), .worker w .cancelQueue,
    .worker w (.drop (.settle (.ok ()))), .worker w (.drop (.record 0)),
    .producer (.head false false false), .producer .shut, .producer .leaveDrop,
    .worker w .leaveDrop, .worker w (.record 0), .worker w .pop,
    .producer .join, .producer .leaveDrop, .producer .conclude]

theorem stopped_fanout_ends_as_cancellation :
    ∃ s t,
      continuousEpoch.start [100, 0, 0] {} = .ok s ∧
      (epochMachine continuousEpoch).run s cancelledActions = some t ∧
      t.stopRequested = true ∧
      t.producer = .done (.threw .simulationCancelled) ∧
      EndsWithoutFailure (.threw .simulationCancelled) := by
  have h := @stopped_epoch_ends_as_cancellation _ continuousEpoch [100, 0, 0] {}
    _ _ cancelledActions ⟨by decide, by decide, by simp [LeavesWholeBatches, continuousEpoch]⟩
    rfl (by decide) rfl
  exact ⟨_, _, rfl, rfl, rfl, rfl, h.1 _ rfl⟩

end Calm

end EpochState

end Bbp.Simulator
