import Bbp.Simulator.EpochAccounting

/-!
# What one step of an epoch can do

The control part of an epoch is the place of its producer, the index it has reached,
and why it has left its loop.  Only the producer itself moves it (`WorkerFrame`), and
each of its steps is one of the moves of `ProducerMove`.

The moves also say where a batch of an invalid size can come from: only from planning a
fan-out with fewer attempts left than it has receivers.
-/

namespace Bbp.Simulator

open Library

variable {E : RandomEngine}

namespace TransactionLoadBalanceReservations

variable {l l' : TransactionLoadBalanceReservations}

section Errors

variable {e : LedgerError}

theorem settle_error {index : Nat} {actual : Option Nat} {release : Bool}
    {onSettled : Option (Nat → Except String Unit)}
    (h : l.settle index actual release onSettled = (.error e, l')) : e ≠ .invalidBatchSize := by
  rintro rfl
  unfold settle settledBalance at h
  grind

theorem rollBackReservations_error {indexes : List Nat}
    (h : l.rollBackReservations indexes = (.error e, l')) : e ≠ .invalidBatchSize := by
  rintro rfl
  induction indexes generalizing l with
  | nil => cases h
  | cons index rest ih =>
    simp only [rollBackReservations] at h
    grind

theorem finishAdmission_error {plans : List WalletTransactionPlanEntry} {indexes : List Nat}
    {answer : Except String Bool} (h : l.finishAdmission plans indexes answer = (.error e, l')) :
    e ≠ .invalidBatchSize := by
  have hroll : ∀ {e l'}, l.rollBackReservations indexes = (.error e, l') →
      e ≠ .invalidBatchSize := rollBackReservations_error
  rintro rfl
  unfold finishAdmission at h
  grind

theorem refreshAvailableBalances_error {balances : List Nat}
    (h : l.refreshAvailableBalances balances = (.error e, l')) : e ≠ .invalidBatchSize := by
  rintro rfl
  unfold refreshAvailableBalances at h
  grind

theorem stageEntries_error {first offset : Nat} {balances reserved : List Nat}
    {entries : List WalletTransactionPlanEntry}
    (h : l.stageEntries first offset balances reserved entries = .error e) :
    e ≠ .invalidBatchSize := by
  rintro rfl
  induction entries generalizing offset balances reserved with
  | nil => cases h
  | cons entry rest ih =>
    simp only [stageEntries] at h
    grind

end Errors

section Planning

variable {p p' : LoadPlannerState E}

/-- What is left of the attempts decides whether a fan-out can be planned. -/
def PlanStep.Sized (p : LoadPlannerState E) (remaining : Nat) : PlanStep → Prop
  | .threw e =>
    e = .invalidBatchSize → p.workload.strategy = .equalFanout ∧ remaining < p.batchSize
  | .noPlan => True
  | .staged plans _ =>
    plans.length ≤ remaining ∧ (p.workload.strategy = .equalFanout → plans.length = p.batchSize)

theorem planAndStage_sized {fuel first remaining : Nat} {outcome : PlanStep}
    (haccepted : p.Accepted) (h : l.planAndStage fuel p first remaining = (outcome, l', p')) :
    Advanced p p' ∧ outcome.Sized p remaining := by
  simp only [planAndStage] at h
  split at h
  · cases h
    exact ⟨.refl p, by simp [PlanStep.Sized]⟩
  next hbatch =>
    cases h
    exact ⟨nextBatch_planner hbatch, trivial⟩
  rename_i plans planned q hbatch
  have hadvanced : Advanced p q := nextBatch_planner hbatch
  obtain ⟨hnonempty, -, hwhole, hasked⟩ := nextBatch_size haccepted hbatch
  split at h
  next hinvalid =>
    cases h
    refine ⟨hadvanced, fun _ => ?_⟩
    have hlarge := hinvalid.resolve_left hnonempty
    by_cases hstrategy : p.workload.strategy = .equalFanout
    · exact ⟨hstrategy, by rw [← hwhole hstrategy]; exact hlarge⟩
    · have hlength := hasked hstrategy
      omega
  next hvalid =>
    split at h
    · cases h
      exact ⟨hadvanced, by simp [PlanStep.Sized]⟩
    split at h
    next hstage =>
      cases h
      exact ⟨hadvanced, fun he => absurd he (stageEntries_error hstage)⟩
    split at h
    · cases h
      exact ⟨hadvanced, by simp [PlanStep.Sized]⟩
    split at h
    · cases h
      exact ⟨hadvanced, by simp [PlanStep.Sized]⟩
    · cases h
      exact ⟨hadvanced, by omega, hwhole⟩

end Planning

end TransactionLoadBalanceReservations

section Places

/-- Whether the producer is in its loop. -/
inductive ProducerPhase where
  | loop
  | left
  | done
deriving DecidableEq

def ProducerPc.phase : ProducerPc → ProducerPhase
  | .dropping .. | .finishing | .joining | .concluding => .left
  | .done _ => .done
  | _ => .loop

/-- The attempts of the batch that is under way. -/
def ProducerPc.attempts : ProducerPc → Nat
  | .admitting plans _ => plans.length
  | .answered plans _ _ _ => plans.length
  | .backpressured _ count => count
  | _ => 0

theorem ProducerPc.attempts_of_left {pc : ProducerPc} (h : pc.phase ≠ .loop) : pc.attempts = 0 := by
  cases pc <;> first | rfl | exact absurd rfl h

theorem ProducerNext.phase_pc (next : ProducerNext) : next.pc.phase = .left := by
  cases next <;> rfl

end Places

namespace EpochState

open TransactionLoadBalanceReservations

variable {c : EpochConfig E} {s t : EpochState c}

section Frames

/-- A step that leaves the producer and its variables alone. -/
structure Frame (s t : EpochState c) : Prop where
  producer : t.producer = s.producer
  transactionIndex : t.transactionIndex = s.transactionIndex
  yielded : t.yielded = s.yielded
  balanceRefreshRequired : t.balanceRefreshRequired = s.balanceRefreshRequired
  producerError : t.producerError = s.producerError
  planner : t.planner = s.planner
  stop : s.stopRequested = true → t.stopRequested = true
  infrastructure : s.infrastructureError.any EpochError.isMisfit = false →
      t.infrastructureError.any EpochError.isMisfit = false

theorem Frame.refl (s : EpochState c) : Frame s s := ⟨rfl, rfl, rfl, rfl, rfl, rfl, id, id⟩

theorem Frame.setWorker (h : Frame s t) (w : Fin c.workload.concurrency) (pc : WorkerPc) :
    Frame s (t.setWorker w pc) :=
  { h with }

theorem Frame.stopLoad (h : Frame s t) : Frame s t.stopLoad := { h with stop := fun _ => rfl }

theorem Frame.recordInfrastructureError {e : EpochError} (h : Frame s t) (he : e.isMisfit = false) :
    Frame s (t.recordInfrastructureError e) := by
  refine { h with infrastructure := fun hs => ?_ }
  have ht := h.infrastructure hs
  unfold EpochState.recordInfrastructureError
  cases herror : t.infrastructureError with
  | none => exact he
  | some first =>
    rw [herror] at ht
    exact ht

theorem settleTask_frame {index : Nat} {actual : Option U64} {release : Bool}
    {notified : Except String Unit} : Frame s (s.settleTask index actual release notified) := by
  cases hsettle : s.ledger.settle index (actual.map Fin.val) release (some fun _ => notified) with
  | mk result ledger =>
    cases result with
    | ok _ =>
      simp only [settleTask, hsettle]
      exact { Frame.refl s with }
    | error e =>
      have hledger := settle_error hsettle
      have he : (EpochError.ledger e).isMisfit = false := by
        cases e <;> first | rfl | exact absurd rfl hledger
      simp only [settleTask, hsettle]
      refine Frame.recordInfrastructureError ?_ he
      exact { Frame.refl s with }

theorem recordOutcome_frame {index latency : Nat} {outcome : TransactionLoadOutcome}
    (h : s.recordOutcome index outcome latency = .ok t) : Frame s t := by
  unfold recordOutcome at h
  split at h <;> cases h
  exact { Frame.refl s with }

theorem dropStep_frame {cursor cursor' : DropCursor} {input : DropInput}
    (h : s.dropStep cursor input = some (t, cursor')) : Frame s t := by
  unfold dropStep at h
  split at h
  · split_ifs at h
    cases h
    exact settleTask_frame
  · split at h
    next hrecord =>
      cases h
      exact recordOutcome_frame hrecord
    · cases h
      exact (Frame.refl s).recordInfrastructureError rfl
  · cases h

variable {w : Fin c.workload.concurrency}

theorem submitStep_frame {task : WalletTransactionLoadTask} {result : SubmissionResult}
    {read : BalanceRead} (h : s.submitStep w task result read = some t) : Frame s t := by
  simp only [submitStep] at h
  split at h <;> cases h
  refine Frame.setWorker ?_ w _
  split
  · exact (Frame.refl s).stopLoad
  · exact Frame.refl s

theorem observeStep_frame {result : ObservationResult} (h : s.observeStep w result = some t) :
    Frame s t := by
  have haccounting : ∀ accounting, Frame s { s with accounting } := fun _ => { Frame.refl s with }
  cases result with
  | visible =>
    cases h
    exact (Frame.refl s).setWorker w _
  | observationError =>
    simp only [observeStep] at h
    split at h
    · cases h
      exact (haccounting _).setWorker w _
    · cases h
      exact ((haccounting _).recordInfrastructureError rfl).setWorker w _
  | simulationCancelled =>
    simp only [observeStep] at h
    split at h
    · split at h
      · cases h
        exact (haccounting _).stopLoad.setWorker w _
      · cases h
        exact ((haccounting _).recordInfrastructureError rfl).stopLoad.setWorker w _
    · cases h
  | failed message =>
    simp only [observeStep] at h
    cases h
    refine Frame.setWorker (Frame.recordInfrastructureError ?_ rfl) w _
    split
    · exact haccounting _
    · exact (haccounting _).recordInfrastructureError rfl

/-- A worker leaves the producer alone. -/
theorem workerStep_frame {input : WorkerInput} (h : s.workerStep w input = some t) : Frame s t := by
  unfold workerStep at h
  split at h
  · split at h
    · cases h
    all_goals
      cases h
      exact { Frame.refl s with }
  · exact submitStep_frame h
  · split at h <;> cases h
    exact settleTask_frame.setWorker w _
  · cases h
    exact { Frame.refl s with }
  · split at h <;> cases h
    rename_i hdrop
    exact (dropStep_frame hdrop).setWorker w _
  · cases h
    exact (Frame.refl s).setWorker w _
  · split at h
    · cases h
      exact ((Frame.refl s).recordInfrastructureError rfl).setWorker w _
    next hrecord =>
      cases h
      exact (recordOutcome_frame hrecord).setWorker w _
  · exact observeStep_frame h
  · cases h

end Frames

section Moves

/-- The producer's variables are as before. -/
structure SameVariables (s t : EpochState c) : Prop where
  transactionIndex : t.transactionIndex = s.transactionIndex
  yielded : t.yielded = s.yielded
  balanceRefreshRequired : t.balanceRefreshRequired = s.balanceRefreshRequired
  producerError : t.producerError = s.producerError

/-- Why a step of the producer has moved it where it is. -/
inductive ProducerMove (s : EpochState c) (input : ProducerInput)
    (t : EpochState c) : Prop
  | stay
      (inLoop : t.producer.phase = .loop)
      (attempts : t.producer.attempts = s.producer.attempts)
      (same : SameVariables s t)
  | stage
      (inLoop : t.producer.phase = .loop)
      (within : t.producer.attempts ≤ s.remainingAttempts)
      (whole : c.workload.strategy = .equalFanout → t.producer.attempts = c.planner.val.batchSize)
      (same : SameVariables s t)
  | advance
      (inLoop : t.producer.phase = .loop)
      (attempts : t.producer.attempts = 0)
      (transactionIndex :
        t.transactionIndex = s.transactionIndex + s.producer.attempts)
      (yielded : t.yielded = s.yielded)
      (balanceRefreshRequired :
        t.balanceRefreshRequired = s.balanceRefreshRequired)
      (producerError : t.producerError = s.producerError)
  | limit
      (left : t.producer.phase = .left)
      (reached : c.attemptLimit.any (fun limit => limit ≤ s.transactionIndex) = true)
      (same : SameVariables s t)
  | expire
      (left : t.producer.phase = .left)
      (duration : c.workload.duration.isSome = true)
      (expires : input.expires = true)
      (same : SameVariables s t)
  | yield
      (left : t.producer.phase = .left)
      (yields : input.yields = true)
      (transactionIndex : t.transactionIndex = s.transactionIndex)
      (yielded : t.yielded = true)
      (producerError : t.producerError = s.producerError)
  | throw
      (left : t.producer.phase = .left)
      (exception : EpochException)
      (misfit : exception.isMisfit = true →
        (∃ fuel, input = .plan fuel) ∧ c.workload.strategy = .equalFanout ∧
          s.remainingAttempts ≠ 0 ∧
          s.remainingAttempts < c.planner.val.batchSize)
      (transactionIndex : t.transactionIndex = s.transactionIndex)
      (yielded : t.yielded = s.yielded)
      (producerError : t.producerError = some exception)
  | refresh
      (left : t.producer.phase = .left)
      (transactionIndex : t.transactionIndex = s.transactionIndex)
      (yielded : t.yielded = s.yielded)
      (balanceRefreshRequired : t.balanceRefreshRequired = true)
      (producerError : t.producerError = s.producerError)
  | shut
      (before : s.producer.phase = .left)
      (left : t.producer.phase = .left)
      (same : SameVariables s t)
  | conclude
      (before : s.producer.phase = .left)
      (done : t.producer = .done s.conclusion)
      (same : SameVariables s t)

/-- What no step of the epoch undoes. -/
structure Ambient (s t : EpochState c) : Prop where
  planner : Advanced c.planner.val s.planner → Advanced c.planner.val t.planner
  stop : s.stopRequested = true → t.stopRequested = true
  infrastructure : s.infrastructureError.any EpochError.isMisfit = false →
      t.infrastructureError.any EpochError.isMisfit = false

theorem Ambient.refl (s : EpochState c) : Ambient s s := ⟨id, id, id⟩

theorem Frame.ambient (h : Frame s t) : Ambient s t :=
  ⟨fun hs => by rw [h.planner]; exact hs, h.stop, h.infrastructure⟩

theorem misfit_of_false {exception : EpochException} {P : Prop} (h : exception.isMisfit = false) :
    exception.isMisfit = true → P := by
  intro htrue
  rw [h] at htrue
  cases htrue

theorem isMisfit_ledger {e : LedgerError} (h : e ≠ .invalidBatchSize) :
    (EpochException.error (.ledger e)).isMisfit = false := by
  cases e <;> first | rfl | exact absurd rfl h

variable {input : ProducerInput}

open Ambient

/-- The producer goes to another place of its loop. -/
theorem stay_move {before after : ProducerPc} {ledger : TransactionLoadBalanceReservations}
    {queue : BoundedWalletTransactionQueue} {history : EpochHistory}
    (hpc : s.producer = before) (hloop : after.phase = .loop)
    (hattempts : after.attempts = before.attempts) :
    ProducerMove s input { s with ledger, queue, history, producer := after } ∧
      Ambient s { s with ledger, queue, history, producer := after } := by
  subst hpc
  exact ⟨.stay hloop hattempts ⟨rfl, rfl, rfl, rfl⟩, { refl s with }⟩

/-- The producer leaves its loop with an exception that is not a misfit. -/
theorem throw_move {exception : EpochException} {ledger : TransactionLoadBalanceReservations}
    {history : EpochHistory} (hmisfit : exception.isMisfit = false) :
    ProducerMove s input (throwFromProducer { s with ledger, history } exception) ∧
      Ambient s (throwFromProducer { s with ledger, history } exception) :=
  ⟨.throw rfl _ (misfit_of_false hmisfit) rfl rfl rfl, { refl s with }⟩

theorem yieldProducer_move (hyields : input.yields = true) (settleRequested : Bool) :
    ProducerMove s input (s.yieldProducer settleRequested) ∧
      Ambient s (s.yieldProducer settleRequested) := by
  cases settleRequested with
  | false | true => exact ⟨.yield rfl hyields rfl rfl rfl, { refl s with }⟩

theorem headStep_move (hpc : s.producer = .head) (expired yieldRequested settleRequested : Bool) :
    ProducerMove s (.head expired yieldRequested settleRequested)
        (s.headStep expired yieldRequested settleRequested) ∧
      Ambient s (s.headStep expired yieldRequested settleRequested) := by
  unfold headStep
  split
  next hlimit => exact ⟨.limit rfl hlimit ⟨rfl, rfl, rfl, rfl⟩, { refl s with }⟩
  split
  · exact throw_move rfl
  split
  next hexpired =>
    simp only [Bool.and_eq_true] at hexpired
    exact ⟨.expire rfl hexpired.1 hexpired.2 ⟨rfl, rfl, rfl, rfl⟩,
      { refl s with }⟩
  split
  next hyield =>
    have hyields : (ProducerInput.head expired yieldRequested settleRequested).yields = true :=
      hyield
    exact yieldProducer_move hyields settleRequested
  split
  all_goals exact stay_move hpc rfl rfl

theorem scheduleStep_move {answer : ScheduleAnswer}
    (hpc : s.producer = .scheduling) (h : s.scheduleStep answer = some t) :
    ProducerMove s (.schedule answer) t ∧ Ambient s t := by
  cases answer with
  | ready =>
    cases h
    exact stay_move hpc rfl rfl
  | expired =>
    simp only [scheduleStep] at h
    split_ifs at h with hduration
    cases h
    exact ⟨.expire rfl hduration rfl ⟨rfl, rfl, rfl, rfl⟩, { refl s with }⟩
  | yielded settleRequested =>
    cases h
    exact yieldProducer_move rfl settleRequested
  | simulationCancelled =>
    simp only [scheduleStep] at h
    split_ifs at h
    cases h
    exact throw_move rfl
  | failed message =>
    cases h
    exact throw_move rfl

theorem planStep_move {fuel : Nat} (hadvanced : Advanced c.planner.val s.planner)
    (hpc : s.producer = .planning) (h : s.planStep fuel = some t) :
    ProducerMove s (.plan fuel) t ∧ Ambient s t := by
  obtain ⟨haccepted, hworkload, hbatch⟩ := planner_of_advanced hadvanced
  simp only [planStep] at h
  split at h
  · cases h
    exact throw_move rfl
  rename_i hattempts
  rw [not_or] at hattempts
  split at h <;> cases h
  next e ledger planner _ hplan =>
    obtain ⟨hplanner, hsized⟩ := planAndStage_sized haccepted hplan
    rw [TransactionLoadBalanceReservations.PlanStep.Sized, hworkload, hbatch] at hsized
    refine ⟨.throw rfl _ ?_ rfl rfl rfl,
      { refl s with planner := (advanced_trans · hplanner) }⟩
    intro hmisfit
    have he : e = .invalidBatchSize := by
      by_contra hother
      exact misfit_of_false (isMisfit_ledger hother) hmisfit
    exact ⟨⟨fuel, rfl⟩, (hsized he).1, hattempts.2, (hsized he).2⟩
  next hplan =>
    have hplanner := (planAndStage_sized haccepted hplan).1
    refine ⟨.stay rfl ?_ ⟨rfl, rfl, rfl, rfl⟩,
      { refl s with planner := (advanced_trans · hplanner) }⟩
    rw [hpc]
    rfl
  next hplan =>
    obtain ⟨hplanner, hwithin, hwhole⟩ := planAndStage_sized haccepted hplan
    rw [hworkload, hbatch] at hwhole
    exact ⟨.stage rfl hwithin hwhole ⟨rfl, rfl, rfl, rfl⟩,
      { refl s with planner := (advanced_trans · hplanner) }⟩

theorem finishStep_move {plans : List WalletTransactionPlanEntry} {indexes : List Nat}
    {tasks : List WalletTransactionLoadTask} {answer : Except String Bool}
    (hpc : s.producer = .answered plans indexes tasks answer) (planned : Except String Unit) :
    ProducerMove s (.finish planned)
        (s.finishStep plans indexes tasks answer planned) ∧
      Ambient s (s.finishStep plans indexes tasks answer planned) := by
  have hattempts : s.producer.attempts = plans.length := by
    rw [hpc]
    rfl
  cases hfinish : s.ledger.finishAdmission plans indexes answer with
  | mk result ledger =>
    simp only [finishStep, hfinish]
    cases result with
    | error e =>
      exact throw_move (isMisfit_ledger (finishAdmission_error hfinish))
    | ok admission =>
      cases planned with
      | error message => exact throw_move rfl
      | ok _ =>
        dsimp only
        split
        · exact ⟨.advance rfl rfl (by rw [hattempts]) rfl rfl rfl, { refl s with }⟩
        · exact stay_move hpc rfl rfl

theorem waitStep_move {observed : Nat}
    (hpc : s.producer = .waiting observed) (h : s.waitStep observed = some t) :
    ProducerMove s .wait t ∧ Ambient s t := by
  unfold waitStep at h
  split at h
  · cases h
    exact stay_move hpc rfl rfl
  split at h
  · split at h
    · cases h
      exact throw_move rfl
    split at h
    · cases h
      exact stay_move hpc rfl rfl
    · cases h
      exact ⟨.refresh rfl rfl rfl rfl rfl, { refl s with }⟩
  · cases h

theorem refreshStep_move {read : BalancesRead}
    (hpc : s.producer = .refreshing) (h : s.refreshStep read = some t) :
    ProducerMove s (.refresh read) t ∧ Ambient s t := by
  cases read with
  | simulationCancelled =>
    simp only [refreshStep] at h
    split_ifs at h
    cases h
    exact throw_move rfl
  | failed message =>
    cases h
    exact throw_move rfl
  | values balances =>
    simp only [refreshStep] at h
    split_ifs at h
    split at h
    next hrefresh =>
      cases h
      exact throw_move (isMisfit_ledger (refreshAvailableBalances_error hrefresh))
    cases h
    exact stay_move hpc rfl rfl

theorem shutStep_move (hpc : s.producer = .finishing) :
    ProducerMove s .shut s.shutStep ∧ Ambient s s.shutStep := by
  have hleft : s.producer.phase = .left := by
    rw [hpc]
    rfl
  unfold shutStep
  split
  · exact ⟨.shut hleft rfl ⟨rfl, rfl, rfl, rfl⟩,
      { refl s with stop := fun _ => rfl }⟩
  · exact ⟨.shut hleft rfl ⟨rfl, rfl, rfl, rfl⟩, { refl s with }⟩

theorem joinStep_move (hpc : s.producer = .joining) :
    ProducerMove s .join s.joinStep ∧ Ambient s s.joinStep := by
  have hleft : s.producer.phase = .left := by
    rw [hpc]
    rfl
  unfold joinStep
  split
  all_goals exact ⟨.shut hleft rfl ⟨rfl, rfl, rfl, rfl⟩, { refl s with }⟩

theorem producerStep_move (hadvanced : Advanced c.planner.val s.planner)
    (h : s.producerStep input = some t) : ProducerMove s input t ∧ Ambient s t := by
  unfold producerStep at h
  split at h
  next hpc =>
    cases h
    exact headStep_move hpc _ _ _
  next hpc => exact scheduleStep_move hpc h
  next hpc => exact planStep_move hadvanced hpc h
  · rename_i hpc
    cases h
    exact stay_move hpc rfl rfl
  next hpc =>
    cases h
    exact finishStep_move hpc _
  next hpc => exact waitStep_move hpc h
  next hpc => exact refreshStep_move hpc h
  · rename_i hpc
    split at h
    · cases h
      exact throw_move rfl
    rename_i hrecord
    cases h
    have hframe := recordOutcome_frame hrecord
    refine ⟨.stay rfl ?_ { hframe with }, { hframe.ambient with }⟩
    rw [hpc]
    rfl
  · rename_i hpc
    cases h
    refine ⟨.advance rfl rfl ?_ rfl rfl rfl, { refl s with }⟩
    rw [hpc]
    rfl
  next hpc =>
    split at h <;> cases h
    rename_i hdrop
    have hframe := dropStep_frame hdrop
    refine ⟨.shut ?_ rfl { hframe with }, { hframe.ambient with }⟩
    rw [hpc]
    rfl
  next next hpc =>
    cases h
    refine ⟨.shut ?_ next.phase_pc ⟨rfl, rfl, rfl, rfl⟩, { refl s with }⟩
    rw [hpc]
    rfl
  next hpc =>
    cases h
    exact shutStep_move hpc
  next hpc =>
    split_ifs at h
    cases h
    exact joinStep_move hpc
  next hpc =>
    cases h
    refine ⟨.conclude ?_ rfl ⟨rfl, rfl, rfl, rfl⟩, { refl s with }⟩
    rw [hpc]
    rfl
  · cases h

/-- Only the producer moves itself. -/
theorem step_move {a : EpochAction c} (hadvanced : Advanced c.planner.val s.planner)
    (h : s.step a = some t) :
    Ambient s t ∧
      (Frame s t ∨ ∃ input, a = .producer input ∧ ProducerMove s input t) := by
  cases a with
  | requestStop =>
    cases h
    have hframe : Frame s { s with stopRequested := true } :=
      { Frame.refl s with stop := fun _ => rfl }
    exact ⟨hframe.ambient, .inl hframe⟩
  | propagated confirmed =>
    cases h
    have hframe : Frame s
        { s with accounting := (s.accounting.recordPropagated confirmed).2 } :=
      { Frame.refl s with }
    exact ⟨hframe.ambient, .inl hframe⟩
  | confirmed =>
    cases h
    have hframe : Frame s { s with accounting := s.accounting.recordConfirmed.2 } :=
      { Frame.refl s with }
    exact ⟨hframe.ambient, .inl hframe⟩
  | producer input =>
    obtain ⟨hmove, hambient⟩ := producerStep_move hadvanced h
    exact ⟨hambient, .inr ⟨input, rfl, hmove⟩⟩
  | worker w input =>
    have hframe := workerStep_frame h
    exact ⟨hframe.ambient, .inl hframe⟩

theorem Frame.sameVariables (h : Frame s t) : SameVariables s t :=
  ⟨h.transactionIndex, h.yielded, h.balanceRefreshRequired, h.producerError⟩

/-- The load is done by the last step of its producer only. -/
theorem ProducerMove.concludes {result : EpochResult} (h : ProducerMove s input t)
    (hdone : t.producer = .done result) :
    s.producer.phase = .left ∧ result = s.conclusion ∧ SameVariables s t := by
  have hphase : ∀ {phase : ProducerPhase}, t.producer.phase = phase → phase ≠ .done → False := by
    intro phase hphase hne
    rw [hdone] at hphase
    exact hne hphase.symm
  cases h with
  | stay hloop _ _ | stage hloop _ _ _ | advance hloop _ _ _ _ _ =>
    exact (hphase hloop (by decide)).elim
  | limit hleft _ _ | expire hleft _ _ _ | yield hleft _ _ _ _ | throw hleft _ _ _ _ _
  | refresh hleft _ _ _ _ | shut _ hleft _ => exact (hphase hleft (by decide)).elim
  | conclude hbefore hconclude hsame =>
    rw [hconclude] at hdone
    cases hdone
    exact ⟨hbefore, rfl, hsame⟩

end Moves

end EpochState

end Bbp.Simulator
