import Bbp.Library.Transition
import Bbp.Simulator.BalanceReservations
import Bbp.Simulator.TransactionLoad

/-!
# One epoch of a transaction load

One producer plans batches, reserves them in the ledger and pushes them into the
bounded queue; a fixed number of workers pop tasks, submit them, settle their
reservations and record their outcomes.  Every action of the machine is one
critical section or one read of a shared flag, so that its runs are the
interleavings of the threads.  What comes from outside (the answers of the node
driver, of the callbacks, of the clocks) is part of the action's label; the
latency of a task is never negative there, as the source cuts it off at zero.

While the producer is inside `PlanAndReserve` it holds the ledger: between
staging a batch and finishing its admission no other thread can settle.

The history fields are not part of the program: they log which indexes were
admitted, settled, recorded and rolled back, and what the ledger threw.
-/

namespace Bbp.Simulator

open Library

section Exceptions

/-- An exception other than the cancellation of the simulation. -/
inductive EpochError where
  | ledger (error : LedgerError)
  | accounting (error : AccountingError)
  | fundingIncomplete
  | external (message : String)
deriving DecidableEq

/-- The errors of a configuration that does not fit the progress or the funding. -/
def EpochError.isMisfit : EpochError → Bool
  | .ledger .invalidBatchSize => true
  | .fundingIncomplete => true
  | _ => false

inductive EpochException where
  | simulationCancelled
  | error (error : EpochError)
deriving DecidableEq

def EpochException.isMisfit : EpochException → Bool
  | .simulationCancelled => false
  | .error e => e.isMisfit

inductive WalletWorkloadExecutionEnd where
  | yielded
  | refreshBalances
  | completed
deriving DecidableEq

/-- How the call ends. -/
inductive EpochResult where
  | returned (ending : WalletWorkloadExecutionEnd) (nextTransactionIndex : Nat)
  | threw (exception : EpochException)
deriving DecidableEq

def EpochResult.isMisfit : EpochResult → Bool
  | .returned _ _ => false
  | .threw e => e.isMisfit

end Exceptions

section Submission

/-- How the submission of one task ends; `started` as the source tracks it. -/
inductive SubmissionResult where
  | settleRequested
  | simulationCancelled (started : Bool)
  | observationCapacityFull
  | submitted
  | rejected
  | timedOut
  | rpcWarmup
  | rpcMethodUnavailable
  | transportFailure
  | internalRpcFailure
  | otherError (started : Bool)
deriving DecidableEq

/-- What a worker carries from the submission of a task to its accounting. -/
structure Submission where
  outcome : TransactionLoadOutcome
  submissionStarted : Bool
  submitted : Bool
  releaseIfBalanceUnavailable : Bool
  actualAvailableBalance : Option U64 := none
  cancelQueueAfterSettlement : Bool := false
deriving DecidableEq

/-- The catch clauses around the submission. -/
def SubmissionResult.classify : SubmissionResult → Submission
  | .settleRequested =>
    { outcome := .dropped, submissionStarted := false, submitted := false
      releaseIfBalanceUnavailable := true }
  | .simulationCancelled started =>
    { outcome := .cancelled, submissionStarted := started, submitted := false
      releaseIfBalanceUnavailable := !started
      cancelQueueAfterSettlement := true }
  | .observationCapacityFull =>
    { outcome := .backpressured, submissionStarted := false
      submitted := false, releaseIfBalanceUnavailable := true }
  | .submitted =>
    { outcome := .submitted, submissionStarted := true, submitted := true
      releaseIfBalanceUnavailable := false }
  | .rejected =>
    { outcome := .rejected, submissionStarted := true, submitted := false
      releaseIfBalanceUnavailable := true }
  | .timedOut =>
    { outcome := .timedOut, submissionStarted := true, submitted := false
      releaseIfBalanceUnavailable := false }
  | .rpcWarmup | .rpcMethodUnavailable | .transportFailure
  | .internalRpcFailure =>
    { outcome := .failed, submissionStarted := true, submitted := false
      releaseIfBalanceUnavailable := false }
  | .otherError started =>
    { outcome := .failed, submissionStarted := started, submitted := false
      releaseIfBalanceUnavailable := !started }

/-- The answer to reading the sender's balance after a failed submission. -/
inductive BalanceRead where
  | value (balance : U64)
  | failed
  | simulationCancelled
deriving DecidableEq

/-- Is the sender's balance read at all? -/
def Submission.readsBalance (a : Submission) : Bool :=
  a.submissionStarted && !a.submitted && a.outcome != .cancelled

/-- The submission with the balance that was read for it. -/
def Submission.reconcile (a : Submission) (read : BalanceRead) : Submission :=
  if a.readsBalance then
    match read with
    | .value balance => { a with actualAvailableBalance := some balance }
    | .failed => a
    | .simulationCancelled => { a with cancelQueueAfterSettlement := true }
  else a

end Submission

section State

/-- The tasks `record_dropped_tasks` still has to settle and to record. -/
structure DropCursor where
  tasks : List WalletTransactionLoadTask
  headSettled : Bool
deriving DecidableEq

/-- Where the producer goes on once its dropped tasks are recorded. -/
inductive ProducerNext where
  | finish
  | join
  | conclude
deriving DecidableEq

inductive ProducerPc where
  | head
  | scheduling
  | planning
  | admitting (plans : List WalletTransactionPlanEntry) (indexes : List Nat)
  | answered (plans : List WalletTransactionPlanEntry) (indexes : List Nat)
      (tasks : List WalletTransactionLoadTask) (answer : Except String Bool)
  | waiting (revision : Nat)
  | refreshing
  | backpressured (rest : List WalletTransactionLoadTask) (count : Nat)
  | dropping (cursor : DropCursor) (next : ProducerNext)
  | finishing
  | joining
  | concluding
  | done (result : EpochResult)

def ProducerNext.pc : ProducerNext → ProducerPc
  | .finish => .finishing
  | .join => .joining
  | .conclude => .concluding

/-- Where a worker goes on once its dropped tasks are recorded. -/
inductive WorkerNext where
  | record (task : WalletTransactionLoadTask) (a : Submission)
  | pop
deriving DecidableEq

inductive WorkerPc where
  | popping
  | working (task : WalletTransactionLoadTask)
  | settling (task : WalletTransactionLoadTask) (a : Submission)
  | cancelling (next : WorkerNext)
  | dropping (cursor : DropCursor) (next : WorkerNext)
  | recording (task : WalletTransactionLoadTask) (a : Submission)
  | observing
  | exited
deriving DecidableEq

def WorkerNext.pc : WorkerNext → WorkerPc
  | .record task a => .recording task a
  | .pop => .popping

/-- The log of a run. -/
structure EpochHistory where
  admitted : List Nat := []
  settled : List Nat := []
  outcomes : List Nat := []
  refused : List (List Nat) := []
  rolledBack : List (List Nat) := []
  ledgerErrors : List LedgerError := []
deriving DecidableEq

variable (E : RandomEngine)

/-- The planner, the limit and the index an epoch starts with. -/
structure EpochConfig where
  planner : WalletTransactionLoadPlanner E
  attemptLimit : Option Nat
  nextTransactionIndex : Nat
  concurrencyPositive : 0 < planner.val.workload.concurrency

variable {E}

def EpochConfig.workload (c : EpochConfig E) : WalletTransactionsWorkload := c.planner.val.workload

structure EpochState (c : EpochConfig E) where
  planner : LoadPlannerState E
  ledger : TransactionLoadBalanceReservations
  queue : BoundedWalletTransactionQueue
  accounting : TransactionLoadSnapshot
  stopRequested : Bool := false
  workerCancelled : Bool := false
  infrastructureError : Option EpochError := none
  producer : ProducerPc := .head
  transactionIndex : Nat
  yielded : Bool := false
  balanceRefreshRequired : Bool := false
  producerError : Option EpochException := none
  workers : Fin c.workload.concurrency → WorkerPc := fun _ => .popping
  history : EpochHistory := {}

/-- The objects an epoch is built from, before its threads run. -/
def EpochConfig.start (c : EpochConfig E) (balances : List U64)
    (accounting : TransactionLoadSnapshot) : Except String (EpochState c) :=
  let capacity := c.workload.queueCapacity
  let concurrency := c.workload.concurrency
  match BoundedWalletTransactionQueue.create capacity with
  | .error message => .error message
  | .ok queue =>
    if capacity > 2 ^ 64 - 1 - concurrency ∨
        capacity + concurrency > 2 ^ 64 - 1 - c.planner.val.batchSize then
      .error "transaction load reservation bound overflows size_t"
    else
      match TransactionLoadBalanceReservations.create (balances.map Fin.val)
          (effectiveWalletTransactionFeeReserveSatoshis c.workload)
          (capacity + concurrency + c.planner.val.batchSize) with
      | .error e => .error e.message
      | .ok ledger =>
        .ok { planner := c.planner.val, ledger, queue, accounting
              transactionIndex := c.nextTransactionIndex }

end State

section Actions

/-- One half of the work on a dropped task. -/
inductive DropInput where
  | settle (notified : Except String Unit)
  | record (latency : Nat)

/-- How the wait for the next scheduled batch ends. -/
inductive ScheduleAnswer where
  | ready
  | expired
  | yielded (settleRequested : Bool)
  | simulationCancelled
  | failed (message : String)

inductive BalancesRead where
  | values (balances : List U64)
  | simulationCancelled
  | failed (message : String)

inductive ProducerInput where
  | head (expired yieldRequested settleRequested : Bool)
  | schedule (answer : ScheduleAnswer)
  | plan (fuel : Nat)
  | push (prepared beforePublish : Except String Unit)
  | finish (planned : Except String Unit)
  | wait
  | refresh (read : BalancesRead)
  | record (latency : Nat)
  | advance
  | drop (input : DropInput)
  | leaveDrop
  | shut
  | join
  | conclude

/-- The producer reads that the duration has expired. -/
def ProducerInput.expires : ProducerInput → Bool
  | .head expired _ _ => expired
  | .schedule .expired => true
  | _ => false

/-- The producer reads that it has to yield. -/
def ProducerInput.yields : ProducerInput → Bool
  | .head _ yieldRequested _ => yieldRequested
  | .schedule (.yielded _) => true
  | _ => false

inductive ObservationResult where
  | visible
  | observationError
  | simulationCancelled
  | failed (message : String)

inductive WorkerInput where
  | pop
  | submit (result : SubmissionResult) (read : BalanceRead)
  | settle (notified : Except String Unit)
  | cancelQueue
  | drop (input : DropInput)
  | leaveDrop
  | record (latency : Nat)
  | observe (result : ObservationResult)

/-- One action of some thread of the epoch, or of its surroundings. -/
inductive EpochAction (c : EpochConfig E) where
  | requestStop
  | propagated (confirmed : Bool)
  | confirmed
  | producer (input : ProducerInput)
  | worker (w : Fin c.workload.concurrency) (input : WorkerInput)

end Actions

namespace EpochState

variable {E : RandomEngine} {c : EpochConfig E}

section Shared

/-- Only the first infrastructure error is kept. -/
def recordInfrastructureError (s : EpochState c) (e : EpochError) : EpochState c :=
  { s with infrastructureError := s.infrastructureError.or (some e) }

def logLedgerError (s : EpochState c) (e : LedgerError) : EpochState c :=
  { s with
    history := { s.history with ledgerErrors := s.history.ledgerErrors ++ [e] } }

/-- The producer is inside `PlanAndReserve` and holds the ledger's mutex. -/
def ledgerHeld (s : EpochState c) : Bool :=
  match s.producer with
  | .admitting .. => true
  | .answered .. => true
  | _ => false

/-- Settle one task; what the ledger throws is an infrastructure error. -/
def settleTask (s : EpochState c) (transactionIndex : Nat) (actual : Option U64)
    (release : Bool) (notified : Except String Unit) : EpochState c :=
  let (result, ledger) :=
    s.ledger.settle transactionIndex (actual.map Fin.val) release (some fun _ => notified)
  let s :=
    { s with
      ledger
      history := { s.history with settled := s.history.settled ++ [transactionIndex] } }
  match result with
  | .ok () => s
  | .error e => (s.logLedgerError e).recordInfrastructureError (.ledger e)

/-- Record the outcome of one task. -/
def recordOutcome (s : EpochState c) (transactionIndex : Nat)
    (outcome : TransactionLoadOutcome) (latency : Nat) : Except AccountingError (EpochState c) :=
  match s.accounting.recordOutcome outcome latency with
  | .error e => .error e
  | .ok accounting =>
    .ok
      { s with
        accounting
        history :=
          { s.history with
            outcomes := s.history.outcomes ++ [transactionIndex] } }

/-- One step of `record_dropped_tasks`. -/
def dropStep (s : EpochState c) (cursor : DropCursor) (input : DropInput) :
    Option (EpochState c × DropCursor) :=
  match cursor.tasks, cursor.headSettled, input with
  | task :: rest, false, .settle notified =>
    if s.ledgerHeld then none
    else
      some (s.settleTask task.transactionIndex none true notified,
        { tasks := task :: rest, headSettled := true })
  | task :: rest, true, .record latency =>
    match s.recordOutcome task.transactionIndex .dropped latency with
    | .ok s => some (s, { tasks := rest, headSettled := false })
    | .error e =>
      some (s.recordInfrastructureError (.accounting e),
        { tasks := rest, headSettled := false })
  | _, _, _ => none

/-- Cancel the queue, and hand over the tasks it drops. -/
def cancelQueue (s : EpochState c) : EpochState c × DropCursor :=
  let (tasks, queue) := s.queue.cancel
  ({ s with queue }, { tasks, headSettled := false })

end Shared

section Producer

/-- Leave the producer loop with an exception. -/
def throwFromProducer (s : EpochState c) (e : EpochException) : EpochState c :=
  { s with producerError := some e, producer := .finishing }

/-- Leave the producer loop because a yield was requested. -/
def yieldProducer (s : EpochState c) (settleRequested : Bool) : EpochState c :=
  if settleRequested then
    let (tasks, queue) := s.queue.dropPendingAndClose
    { s with
      queue, yielded := true
      producer := .dropping { tasks, headSettled := false } .finish }
  else { s with yielded := true, producer := .finishing }

/-- The checks at the head of the producer loop. -/
def headStep (s : EpochState c) (expired yieldRequested settleRequested : Bool) : EpochState c :=
  if c.attemptLimit.any (fun limit => limit ≤ s.transactionIndex) then
    { s with producer := .finishing }
  else if s.stopRequested then s.throwFromProducer .simulationCancelled
  else if c.workload.duration.isSome && expired then { s with producer := .finishing }
  else if yieldRequested then s.yieldProducer settleRequested
  else if c.workload.transactionRate.isSome then { s with producer := .scheduling }
  else { s with producer := .planning }

/-- The wait for the scheduled time of the next batch. -/
def scheduleStep (s : EpochState c) : ScheduleAnswer → Option (EpochState c)
  | .ready => some { s with producer := .planning }
  | .expired =>
    if c.workload.duration.isSome then some { s with producer := .finishing }
    else none
  | .yielded settleRequested => some (s.yieldProducer settleRequested)
  | .simulationCancelled =>
    if s.stopRequested then some (s.throwFromProducer .simulationCancelled)
    else none
  | .failed message => some (s.throwFromProducer (.error (.external message)))

/-- The attempts that are left for the next batch. -/
def remainingAttempts (s : EpochState c) : Nat :=
  match c.attemptLimit with
  | some limit => limit - s.transactionIndex
  | none => 2 ^ 64 - 1 - s.transactionIndex

/-- Enter `PlanAndReserve` and go as far as its callback. -/
def planStep (s : EpochState c) (fuel : Nat) : Option (EpochState c) :=
  let first := wrapAdd s.transactionIndex 1
  let remaining := s.remainingAttempts
  if first = 0 ∨ remaining = 0 then
    some ((s.logLedgerError .invalidAttemptRange).throwFromProducer
      (.error (.ledger .invalidAttemptRange)))
  else
    match s.ledger.planAndStage fuel s.planner first remaining with
    | (.threw (.planner .notReturned), _, _) => none
    | (.threw e, ledger, planner) =>
      some ((logLedgerError { s with ledger, planner } e).throwFromProducer (.error (.ledger e)))
    | (.noPlan, ledger, planner) =>
      some { s with ledger, planner
                    producer := .waiting ledger.balanceRevision }
    | (.staged plans indexes, ledger, planner) =>
      some { s with ledger, planner, producer := .admitting plans indexes }

/-- The tasks of a batch. -/
def tasksOf (s : EpochState c) (plans : List WalletTransactionPlanEntry) :
    List WalletTransactionLoadTask :=
  plans.mapIdx fun offset plan => { transactionIndex := s.transactionIndex + offset + 1, plan }

/-- What the admission callback answers, and the queue it leaves. -/
def pushAnswer (s : EpochState c) (tasks : List WalletTransactionLoadTask)
    (prepared beforePublish : Except String Unit) :
    Except String Bool × BoundedWalletTransactionQueue :=
  match prepared with
  | .error message => (.error message, s.queue)
  | .ok () => s.queue.tryPushBatch tasks beforePublish

/-- The log of an admitted batch, or of one that was not. -/
def logAnswer (history : EpochHistory) (indexes : List Nat)
    (tasks : List WalletTransactionLoadTask) : Except String Bool → EpochHistory
  | .ok true =>
    { history with
      admitted := history.admitted ++ tasks.map WalletTransactionLoadTask.transactionIndex }
  | _ => { history with refused := history.refused ++ [indexes] }

/-- The admission callback: build the tasks and push them as one batch. -/
def pushStep (s : EpochState c) (plans : List WalletTransactionPlanEntry)
    (indexes : List Nat) (prepared beforePublish : Except String Unit) : EpochState c :=
  let tasks := s.tasksOf plans
  let (answer, queue) := s.pushAnswer tasks prepared beforePublish
  { s with
    queue
    producer := .answered plans indexes tasks answer
    history := logAnswer s.history indexes tasks answer }

/-- Leave `PlanAndReserve`, report the batch and go on with the loop. -/
def finishStep (s : EpochState c) (plans : List WalletTransactionPlanEntry)
    (indexes : List Nat) (tasks : List WalletTransactionLoadTask)
    (answer : Except String Bool) (planned : Except String Unit) : EpochState c :=
  let (result, ledger) := s.ledger.finishAdmission plans indexes answer
  let rolledBack : Bool :=
    match answer, s.ledger.rollBackReservations indexes with
    | .ok true, _ => false
    | _, (.ok (), _) => true
    | _, (.error _, _) => false
  let s :=
    { s with
      ledger
      history :=
        if rolledBack then { s.history with rolledBack := s.history.rolledBack ++ [indexes] }
        else s.history }
  match result with
  | .error e => (s.logLedgerError e).throwFromProducer (.error (.ledger e))
  | .ok admission =>
    match planned with
    | .error message => s.throwFromProducer (.error (.external message))
    | .ok () =>
      if admission.admitted then
        { s with
          transactionIndex := s.transactionIndex + plans.length
          producer := .head }
      else { s with producer := .backpressured tasks plans.length }

/-- `WaitForResolution` and what follows it. -/
def waitStep (s : EpochState c) (observed : Nat) : Option (EpochState c) :=
  if s.ledger.balanceRevision ≠ observed then some { s with producer := .head }
  else if s.ledger.reservations = [] ∨ s.stopRequested then
    if s.stopRequested then some (s.throwFromProducer .simulationCancelled)
    else if c.workload.strategy = .randomBruteforce then some { s with producer := .refreshing }
    else some { s with balanceRefreshRequired := true, producer := .finishing }
  else none

/-- Refresh the ledger with balances read from the wallets. -/
def refreshStep (s : EpochState c) : BalancesRead → Option (EpochState c)
  | .simulationCancelled =>
    if s.stopRequested then some (s.throwFromProducer .simulationCancelled)
    else none
  | .failed message => some (s.throwFromProducer (.error (.external message)))
  | .values balances =>
    if balances.length ≠ s.ledger.availableBalances.length then none
    else
      match s.ledger.refreshAvailableBalances (balances.map Fin.val) with
      | (.error e, ledger) =>
        some ((logLedgerError { s with ledger } e).throwFromProducer
          (.error (.ledger e)))
      | (.ok _, ledger) => some { s with ledger, producer := .head }

/-- After the loop: cancel the queue or close it. -/
def shutStep (s : EpochState c) : EpochState c :=
  if s.producerError.isSome || s.stopRequested || s.workerCancelled then
    let (s, cursor) := cancelQueue { s with stopRequested := true }
    { s with producer := .dropping cursor .join }
  else { s with queue := s.queue.close, producer := .joining }

/-- The workers are joined; drain the queue if the epoch was cancelled. -/
def joinStep (s : EpochState c) : EpochState c :=
  if s.stopRequested || s.workerCancelled then
    let (s, cursor) := s.cancelQueue
    { s with producer := .dropping cursor .conclude }
  else { s with producer := .concluding }

/-- Which result or exception the call ends with. -/
def conclusion (s : EpochState c) : EpochResult :=
  match s.producerError, s.infrastructureError with
  | some e, _ => .threw e
  | none, some e => .threw (.error e)
  | none, none =>
    if s.queue.cancelled || s.workerCancelled || s.stopRequested then .threw .simulationCancelled
    else if s.yielded then .returned .yielded s.transactionIndex
    else if s.balanceRefreshRequired &&
        !c.attemptLimit.any (fun limit => limit ≤ s.transactionIndex) then
      .returned .refreshBalances s.transactionIndex
    else .returned .completed s.transactionIndex

/-- One step of the producer. -/
def producerStep (s : EpochState c) (input : ProducerInput) : Option (EpochState c) :=
  match s.producer, input with
  | .head, .head expired yieldRequested settleRequested =>
    some (s.headStep expired yieldRequested settleRequested)
  | .scheduling, .schedule answer => s.scheduleStep answer
  | .planning, .plan fuel => s.planStep fuel
  | .admitting plans indexes, .push prepared beforePublish =>
    some (s.pushStep plans indexes prepared beforePublish)
  | .answered plans indexes tasks answer, .finish planned =>
    some (s.finishStep plans indexes tasks answer planned)
  | .waiting observed, .wait => s.waitStep observed
  | .refreshing, .refresh read => s.refreshStep read
  | .backpressured (task :: rest) count, .record latency =>
    match s.recordOutcome task.transactionIndex .backpressured latency with
    | .error e => some (s.throwFromProducer (.error (.accounting e)))
    | .ok s => some { s with producer := .backpressured rest count }
  | .backpressured [] count, .advance =>
    some { s with
           transactionIndex := s.transactionIndex + count, producer := .head }
  | .dropping cursor next, .drop input =>
    match s.dropStep cursor input with
    | none => none
    | some (s, cursor) => some { s with producer := .dropping cursor next }
  | .dropping { tasks := [], headSettled := _ } next, .leaveDrop =>
    some { s with producer := next.pc }
  | .finishing, .shut => some s.shutStep
  | .joining, .join => if ∀ w, s.workers w = .exited then some s.joinStep else none
  | .concluding, .conclude => some { s with producer := .done s.conclusion }
  | _, _ => none

end Producer

section Worker

def setWorker (s : EpochState c) (w : Fin c.workload.concurrency)
    (pc : WorkerPc) : EpochState c :=
  { s with workers := Function.update s.workers w pc }

/-- Can the submission end like this now? -/
def submissionPossible (s : EpochState c) : SubmissionResult → Bool
  | .simulationCancelled true => s.stopRequested
  | .simulationCancelled false => s.stopRequested || s.queue.cancelled
  | _ => true

/-- A worker that saw a cancellation stops the whole load. -/
def stopLoad (s : EpochState c) : EpochState c :=
  { s with workerCancelled := true, stopRequested := true }

/-- The submission of a task, up to its settlement. -/
def submitStep (s : EpochState c) (w : Fin c.workload.concurrency)
    (task : WalletTransactionLoadTask) (result : SubmissionResult)
    (read : BalanceRead) : Option (EpochState c) :=
  let a := result.classify
  let readCancelled : Bool := a.readsBalance && read == .simulationCancelled
  if !s.submissionPossible result || readCancelled && !s.stopRequested then none
  else
    let s := if a.cancelQueueAfterSettlement || readCancelled then s.stopLoad else s
    some (s.setWorker w (.settling task (a.reconcile read)))

/-- Observing a submitted transaction until every node has seen it. -/
def observeStep (s : EpochState c) (w : Fin c.workload.concurrency) :
    ObservationResult → Option (EpochState c)
  | .visible => some (s.setWorker w .popping)
  | .observationError =>
    let (result, accounting) := s.accounting.recordObservationError
    let s := { s with accounting }
    match result with
    | .ok () => some (s.setWorker w .popping)
    | .error e => some ((s.recordInfrastructureError (.accounting e)).setWorker w .popping)
  | .simulationCancelled =>
    if s.stopRequested then
      let (result, accounting) := s.accounting.recordObservationError
      let s := { s with accounting }
      match result with
      | .ok () => some (s.stopLoad.setWorker w (.cancelling .pop))
      | .error e =>
        some ((s.recordInfrastructureError (.accounting e)).stopLoad.setWorker w (.cancelling .pop))
    else none
  | .failed message =>
    let (result, accounting) := s.accounting.recordObservationError
    let s := { s with accounting }
    let s :=
      match result with
      | .ok () => s
      | .error e => s.recordInfrastructureError (.accounting e)
    some ((s.recordInfrastructureError (.external message)).setWorker w .popping)

/-- One step of a worker. -/
def workerStep (s : EpochState c) (w : Fin c.workload.concurrency)
    (input : WorkerInput) : Option (EpochState c) :=
  match s.workers w, input with
  | .popping, .pop =>
    match s.queue.pop s.stopRequested with
    | none => none
    | some (.nothing, queue) => some (setWorker { s with queue } w .exited)
    | some (.task task, queue) => some (setWorker { s with queue } w (.working task))
  | .working task, .submit result read => s.submitStep w task result read
  | .settling task a, .settle notified =>
    if s.ledgerHeld then none
    else
      let s := s.settleTask task.transactionIndex a.actualAvailableBalance
        (!a.submitted && a.releaseIfBalanceUnavailable) notified
      some (s.setWorker w (if a.cancelQueueAfterSettlement then .cancelling (.record task a)
         else .recording task a))
  | .cancelling next, .cancelQueue =>
    let (s, cursor) := s.cancelQueue
    some (s.setWorker w (.dropping cursor next))
  | .dropping cursor next, .drop input =>
    match s.dropStep cursor input with
    | none => none
    | some (s, cursor) => some (s.setWorker w (.dropping cursor next))
  | .dropping { tasks := [], headSettled := _ } next, .leaveDrop => some (s.setWorker w next.pc)
  | .recording task a, .record latency =>
    match s.recordOutcome task.transactionIndex a.outcome latency with
    | .error e => some ((s.recordInfrastructureError (.accounting e)).setWorker w .exited)
    | .ok s =>
      some (s.setWorker w (if a.submitted && c.workload.strategy != .randomBruteforce then
          .observing
         else .popping))
  | .observing, .observe result => s.observeStep w result
  | _, _ => none

end Worker

/-- One step of the epoch. -/
def step (s : EpochState c) : EpochAction c → Option (EpochState c)
  | .requestStop => some { s with stopRequested := true }
  | .propagated confirmed =>
    some { s with accounting := (s.accounting.recordPropagated confirmed).2 }
  | .confirmed => some { s with accounting := s.accounting.recordConfirmed.2 }
  | .producer input => s.producerStep input
  | .worker w input => s.workerStep w input

end EpochState

/-- The interleavings of an epoch. -/
def epochMachine {E : RandomEngine} (c : EpochConfig E) :
    Machine (EpochState c) (EpochAction c) where
  step := EpochState.step

section Launcher

inductive LiveWalletWorkloadRequest where
  | none
  | pause
  | reconfigure
  | stopCancel
  | stopSettle
  | shutdown
  | runFailure
deriving DecidableEq

inductive LiveWalletWorkloadState where
  | starting
  | running
  | paused
  | stopping
  | stopped
  | completed
  | cancelled
  | failed
deriving DecidableEq

/-- What the launcher does once an epoch has ended. -/
inductive AfterEpoch where
  | nextEpoch
  | terminal (state : LiveWalletWorkloadState) (outcome : String)
deriving DecidableEq

/-- The launcher's reaction to the end of an epoch, under the request it reads. -/
def afterEpoch (workload : WalletTransactionsWorkload) (serviceStopped : Bool)
    (request : LiveWalletWorkloadRequest) : EpochResult → AfterEpoch
  | .returned ending _ =>
    if request = .pause ∨ request = .reconfigure then .nextEpoch
    else if request = .stopSettle then .terminal .stopped "stopped"
    else if ending = .refreshBalances then .nextEpoch
    else if workload.transactionCount ≠ 0 then .terminal .completed "count_reached"
    else if workload.duration.isSome then .terminal .completed "duration_expired"
    else .terminal .failed "failed"
  | .threw .simulationCancelled =>
    if request = .pause ∨ request = .reconfigure then .nextEpoch
    else if request = .stopCancel ∨ request = .stopSettle then .terminal .stopped "stopped"
    else if request = .runFailure then .terminal .failed "failed"
    else if request = .shutdown ∨ serviceStopped then .terminal .cancelled "cancelled"
    else .terminal .failed "failed"
  | .threw (.error _) => .terminal .failed "failed"

end Launcher

end Bbp.Simulator
