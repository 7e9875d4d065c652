import Bbp.Simulator.LoadEpoch
import Bbp.Simulator.WalletTransactionValidation

/-!
# Live wallet workloads

A live wallet workload is a record with a worker thread.  The worker runs one epoch
after the other; between two epochs it looks at the request that a control call has
left in the record.  A control call that wants the worker's attention also requests
stop from the stop source of the current epoch.

The machine of one record interleaves the worker with the control calls.  Each of its
actions is one critical section of the record's mutex, or one step of the epoch the
worker is in: of `ApplyWalletTransactionsWorkload`, which prepares the funding and
then runs either a transaction load (the machine of `LoadEpoch`) or the sequential
loop of the other strategies.

The registry puts the records together: it decides which wallets a workload may claim
as senders when it is started or reconfigured.

The fields `first`, `expired`, `fresh`, `lastEpoch` and `cancelAccepted` are not part
of the program: they log which epoch is the first one of a new configuration, whether
a duration has expired, which epoch has ended last, and whether a call to cancel the
workload was accepted before its last epoch had ended.
-/

namespace Bbp.Simulator

open Library

section Claims

/-- The wallets a workload sends from, in ascending order; wallets count from one. -/
def claimedWalletsForWorkload
    (workload : WalletTransactionsWorkload) (walletCount : Nat) : List Nat :=
  let wallets := (List.range walletCount).map (· + 1)
  let claimed :=
    match workload.strategy with
    | .roundRobin | .random | .randomBruteforce => wallets
    | .fanout | .equalFanout => workload.senderWallets
    | .hotspot => wallets.filter (· ∉ workload.receiverWallets)
  claimed.insertionSort (· ≤ ·)

/-- The source looks up each wallet by binary search; both lists are sorted. -/
def walletClaimsOverlap (lhs rhs : List Nat) : Bool := lhs.any (· ∈ rhs)

/-- Why a control call is refused. -/
inductive LiveWorkloadFailure where
  | runNotActive
  | invalidWorkload (message : String)
  | retainedCapacity
  | activeCapacity
  | admissionConflict (other : String)
  | reconfigurationConflict (other : String)
  | idConflict (id : String)
  | idExhausted
  | notFound (id : String)
  | terminal (id : String)
  | terminalReconfiguration
  | transitionInProgress
  | belowProgress
  | incompleteBatch
  | notPaused (id : String)
deriving DecidableEq

end Claims

section Epoch

def EpochError.message : EpochError → String
  | .ledger error => error.message
  | .accounting error => error.message
  | .fundingIncomplete => "wallet workload funding preparation is incomplete"
  | .external message => message

/-- Where the sequential loop is. -/
inductive SequentialPc where
  | head
  | yielding
  | working
  | polling
deriving DecidableEq

variable (E : RandomEngine)

/-- Where `ApplyWalletTransactionsWorkload` is. -/
inductive ApplyPc where
  | funding
  | starting
  | preparing
  | loading (c : EpochConfig E) (s : EpochState c)
  | sequential (pc : SequentialPc)
  | done (result : EpochResult)

/-- One call of `ApplyWalletTransactionsWorkload`. -/
structure LiveEpoch where
  workload : AcceptedWorkload E
  walletCount : Nat
  nextTransactionIndex : Nat
  first : Bool
  expired : Bool := false
  pc : ApplyPc E := .funding

/-- Where the worker thread is. -/
inductive LivePc where
  | head
  | pausing
  | pauseWait
  | reconfigured
  | executing (epoch : LiveEpoch E)
  | refreshWait
  | ending (state : LiveWalletWorkloadState) (outcome : String)
      (failure : Option String)
  | finished

structure LiveWalletWorkloadRecord where
  id : String
  workload : AcceptedWorkload E
  walletCount : Nat
  pendingWorkload : Option (AcceptedWorkload E) := none
  claimedWallets : List Nat
  state : LiveWalletWorkloadState := .starting
  request : LiveWalletWorkloadRequest := .none
  terminalOutcome : String := "none"
  failure : Option String := none
  configurationRevision : Nat := 1
  nextTransactionIndex : Nat := 0
  preparedFunding : Option Nat := none
  epochStopRequested : Bool := false
  serviceStopRequested : Bool := false
  worker : LivePc E := .head
  fresh : Bool := false
  lastEpoch : Option (LiveEpoch E) := none
  cancelAccepted : Bool := false

/-- How the funding of the wallets ends. -/
inductive FundingAnswer where
  | funded
  | simulationCancelled
  | failed (message : String)

inductive SequentialInput where
  | loop
  | poll
  | submit
  | simulationCancelled
  | failed (message : String)

/-- One step inside `ApplyWalletTransactionsWorkload`. -/
inductive ApplyInput where
  | fund (answer : FundingAnswer)
  | executionStarted (written : Except String Unit)
  | prepare (balances : BalancesRead) (accounting : TransactionLoadSnapshot)
  | propagated (confirmed : Bool)
  | confirmed
  | producer (input : ProducerInput)
  | worker (w : Nat) (input : WorkerInput)
  | sequential (input : SequentialInput)

variable {E}

/-- The configuration of a transaction load. -/
def AcceptedWorkload.loadConfig (w : AcceptedWorkload E)
    (hload : isTransactionLoadStrategy w.val.strategy = true)
    (walletCount nextTransactionIndex : Nat) : Except String (EpochConfig E) :=
  match explicitWalletTransactionAttemptLimit w.val with
  | .error message => .error message
  | .ok attemptLimit =>
    match hplanner : LoadPlannerState.create E walletCount w.val
        (Fin.ofNat _ nextTransactionIndex) with
    | .error e => .error e.message
    | .ok planner =>
      .ok
        { planner := ⟨planner, create_accepted hplanner⟩
          attemptLimit
          nextTransactionIndex
          concurrencyPositive := by
            rw [(create_fields hplanner).1]
            exact w.concurrency_pos hload }

end Epoch

namespace LiveWalletWorkloadRecord

variable {E : RandomEngine}

section Apply

/-- The combined stop token of the service and of the epoch. -/
def stopRequested (r : LiveWalletWorkloadRecord E) : Bool :=
  r.serviceStopRequested || r.epochStopRequested

/-- The epoch goes on at another place. -/
def execute (r : LiveWalletWorkloadRecord E) (e : LiveEpoch E) : LiveWalletWorkloadRecord E :=
  { r with worker := .executing e }

/-- The call has ended. -/
def conclude (r : LiveWalletWorkloadRecord E) (e : LiveEpoch E) (result : EpochResult) :
    LiveWalletWorkloadRecord E :=
  r.execute { e with pc := .done result }

def fail (r : LiveWalletWorkloadRecord E) (e : LiveEpoch E) (message : String) :
    LiveWalletWorkloadRecord E :=
  r.conclude e (.threw (.error (.external message)))

/-- A cancellation is thrown only after a stop request. -/
def cancelEpoch (r : LiveWalletWorkloadRecord E) (e : LiveEpoch E) :
    Option (LiveWalletWorkloadRecord E) :=
  if r.stopRequested then some (r.conclude e (.threw .simulationCancelled)) else none

def checkFunding (r : LiveWalletWorkloadRecord E) (e : LiveEpoch E) : LiveWalletWorkloadRecord E :=
  if r.preparedFunding = some e.walletCount then r.execute { e with pc := .starting }
  else r.conclude e (.threw (.error .fundingIncomplete))

/-- The funding of an earlier epoch is used again. -/
def fundStep (r : LiveWalletWorkloadRecord E) (e : LiveEpoch E)
    (answer : FundingAnswer) : Option (LiveWalletWorkloadRecord E) :=
  if r.preparedFunding.isSome then some (r.checkFunding e)
  else
    match answer with
    | .funded => some (checkFunding { r with preparedFunding := some e.walletCount } e)
    | .simulationCancelled => r.cancelEpoch e
    | .failed message => some (r.fail e message)

/-- The workload is running, unless something has been requested meanwhile. -/
def markRunning (r : LiveWalletWorkloadRecord E) : LiveWalletWorkloadRecord E :=
  if r.request = .none then { r with state := .running } else r

def executionStartedStep (r : LiveWalletWorkloadRecord E) (e : LiveEpoch E)
    (written : Except String Unit) : LiveWalletWorkloadRecord E :=
  match written with
  | .error message => r.markRunning.fail e message
  | .ok () => r.markRunning.execute { e with pc := .preparing }

/-- Everything is set up for the loop of the strategy. -/
def prepareStep (r : LiveWalletWorkloadRecord E) (e : LiveEpoch E)
    (accounting : TransactionLoadSnapshot) : BalancesRead → Option (LiveWalletWorkloadRecord E)
  | .failed message => some (r.fail e message)
  | .simulationCancelled =>
    if isTransactionLoadStrategy e.workload.val.strategy then r.cancelEpoch e
    else none
  | .values balances =>
    if hload : isTransactionLoadStrategy e.workload.val.strategy = true then
      match e.workload.loadConfig hload e.walletCount e.nextTransactionIndex with
      | .error message => some (r.fail e message)
      | .ok c =>
        match c.start balances accounting with
        | .error message => some (r.fail e message)
        | .ok s =>
          some (r.execute
            { e with pc := .loading c { s with stopRequested := r.stopRequested } })
    else some (r.execute { e with pc := .sequential .head })

/-- What the producer reads from the record is what the record holds. -/
def answers (r : LiveWalletWorkloadRecord E) : ProducerInput → Bool
  | .head _ yieldRequested settleRequested =>
    yieldRequested == (r.request != .none) &&
      settleRequested == (r.request == .stopSettle)
  | .schedule (.yielded settleRequested) =>
    r.request != .none && settleRequested == (r.request == .stopSettle)
  | _ => true

/-- What a worker of the load reads from the record is what the record holds. -/
def answersWorker (r : LiveWalletWorkloadRecord E) : WorkerInput → Bool
  | .submit .settleRequested _ => r.request == .stopSettle
  | _ => true

/-- The epoch after a step of the load. -/
def loaded (r : LiveWalletWorkloadRecord E) (e : LiveEpoch E) {c : EpochConfig E}
    (s : EpochState c) : LiveWalletWorkloadRecord E :=
  match s.producer with
  | .done result => r.conclude { e with nextTransactionIndex := s.transactionIndex } result
  | _ => r.execute { e with pc := .loading c s }

def loadStep (r : LiveWalletWorkloadRecord E) (e : LiveEpoch E) {c : EpochConfig E}
    (s : EpochState c) : ApplyInput → Option (LiveWalletWorkloadRecord E)
  | .propagated confirmed => (s.step (.propagated confirmed)).map (r.loaded e)
  | .confirmed => (s.step .confirmed).map (r.loaded e)
  | .producer input =>
    if r.answers input then
      (s.step (.producer input)).map
        (r.loaded { e with expired := e.expired || input.expires })
    else none
  | .worker w input =>
    if hw : w < c.workload.concurrency then
      if r.answersWorker input then (s.step (.worker ⟨w, hw⟩ input)).map (r.loaded e)
      else none
    else none
  | _ => none

/-- The loop of the strategies that are not transaction loads. -/
def sequentialStep (r : LiveWalletWorkloadRecord E) (e : LiveEpoch E) :
    SequentialPc → SequentialInput → Option (LiveWalletWorkloadRecord E)
  | .head, .loop =>
    let count := e.workload.val.transactionCount
    if count ≠ 0 ∧ count ≤ e.nextTransactionIndex then
      some (r.conclude e (.returned .completed e.nextTransactionIndex))
    else if r.stopRequested then some (r.conclude e (.threw .simulationCancelled))
    else some (r.execute { e with pc := .sequential .yielding })
  | .yielding, .loop | .polling, .loop =>
    if r.request ≠ .none then some (r.conclude e (.returned .yielded e.nextTransactionIndex))
    else some (r.execute { e with pc := .sequential .working })
  | .working, .poll =>
    if r.stopRequested then some (r.conclude e (.threw .simulationCancelled))
    else some (r.execute { e with pc := .sequential .polling })
  | .working, .submit =>
    if e.nextTransactionIndex = 2 ^ 64 - 1 then
      some (r.fail e "wallet transaction index exceeds uint64")
    else
      some (r.execute
        { e with
          nextTransactionIndex := e.nextTransactionIndex + 1
          pc := .sequential .head })
  | .working, .simulationCancelled => r.cancelEpoch e
  | .working, .failed message => some (r.fail e message)
  | _, _ => none

/-- One step of `ApplyWalletTransactionsWorkload`. -/
def applyStep (r : LiveWalletWorkloadRecord E) (e : LiveEpoch E)
    (input : ApplyInput) : Option (LiveWalletWorkloadRecord E) :=
  match e.pc, input with
  | .funding, .fund answer => r.fundStep e answer
  | .starting, .executionStarted written => some (r.executionStartedStep e written)
  | .preparing, .prepare balances accounting => r.prepareStep e accounting balances
  | .loading _ s, input => r.loadStep e s input
  | .sequential pc, .sequential input => r.sequentialStep e pc input
  | _, _ => none

end Apply

section Worker

/-- A new stop source, and the next epoch with what the record holds now. -/
def install (r : LiveWalletWorkloadRecord E) : LiveWalletWorkloadRecord E :=
  { r with
    epochStopRequested := false
    fresh := false
    worker := .executing
      { workload := r.workload, walletCount := r.walletCount
        nextTransactionIndex := r.nextTransactionIndex, first := r.fresh } }

/-- The worker is going to set a terminal state. -/
def endWith (r : LiveWalletWorkloadRecord E) (state : LiveWalletWorkloadState)
    (outcome : String) (failure : Option String) : LiveWalletWorkloadRecord E :=
  { r with worker := .ending state outcome failure }

/-- The pending configuration becomes the current one. -/
def applyReconfiguration (r : LiveWalletWorkloadRecord E) : LiveWalletWorkloadRecord E :=
  match r.pendingWorkload with
  | none => r.endWith .failed "failed" "wallet workload reconfigure has no configuration"
  | some workload =>
    let r := { r with workload, pendingWorkload := none, fresh := true }
    if r.configurationRevision = 2 ^ 64 - 1 then
      r.endWith .failed "failed" "wallet workload configuration revision exceeds uint64"
    else
      { r with
        configurationRevision := r.configurationRevision + 1
        request := .none, state := .starting, worker := .reconfigured }

/-- The worker looks at the request between two epochs. -/
def dispatch (r : LiveWalletWorkloadRecord E) : LiveWalletWorkloadRecord E :=
  match r.request with
  | .pause => { r with state := .paused, worker := .pausing }
  | .stopCancel | .stopSettle => r.endWith .stopped "stopped" none
  | .shutdown => r.endWith .cancelled "cancelled" none
  | .runFailure => r.endWith .failed "failed" "run failed while wallet workload was active"
  | .reconfigure => r.applyReconfiguration
  | .none => r.install

/-- The wait of a paused worker is over. -/
def wakeStep (r : LiveWalletWorkloadRecord E) : Option (LiveWalletWorkloadRecord E) :=
  if r.request ≠ .pause then some r.dispatch
  else if r.serviceStopRequested then some (dispatch { r with request := .shutdown })
  else none

/-- Why the worker sets the state `failed` after an epoch. -/
def epochFailure (r : LiveWalletWorkloadRecord E) : EpochResult → String
  | .returned _ _ => "continuous wallet workload sender ended unexpectedly"
  | .threw .simulationCancelled =>
    if r.request = .runFailure then "run failed while wallet workload was active"
    else "wallet workload execution was cancelled unexpectedly"
  | .threw (.error error) => error.message

/-- The progress an epoch leaves in the record; a failed one leaves none. -/
def publish (r : LiveWalletWorkloadRecord E) (e : LiveEpoch E) :
    EpochResult → LiveWalletWorkloadRecord E
  | .returned _ next => { r with nextTransactionIndex := next, lastEpoch := some e }
  | .threw .simulationCancelled =>
    { r with nextTransactionIndex := e.nextTransactionIndex, lastEpoch := some e }
  | .threw (.error _) => { r with lastEpoch := some e }

/-- The epoch has ended with this result. -/
def epochEnded (r : LiveWalletWorkloadRecord E) (e : LiveEpoch E)
    (result : EpochResult) : LiveWalletWorkloadRecord E :=
  let r := r.publish e result
  match afterEpoch e.workload.val r.serviceStopRequested r.request result with
  | .terminal state outcome =>
    r.endWith state outcome (if state = .failed then some (r.epochFailure result) else none)
  | .nextEpoch =>
    if r.request = .pause ∨ r.request = .reconfigure then { r with worker := .head }
    else { r with worker := .refreshWait }

def setTerminal (r : LiveWalletWorkloadRecord E) (state : LiveWalletWorkloadState)
    (outcome : String) (failure : Option String) : LiveWalletWorkloadRecord E :=
  { r with state, terminalOutcome := outcome, failure, worker := .finished }

end Worker

section Control

def isTerminalLiveWalletWorkloadState : LiveWalletWorkloadState → Bool
  | .stopped | .completed | .cancelled | .failed => true
  | _ => false

/-- The stop token of the load in the current epoch sees the request at once. -/
def signal : LivePc E → LivePc E
  | .executing e =>
    match e.pc with
    | .loading c s => .executing { e with pc := .loading c { s with stopRequested := true } }
    | _ => .executing e
  | worker => worker

def requestEpochStop (r : LiveWalletWorkloadRecord E) : LiveWalletWorkloadRecord E :=
  { r with epochStopRequested := true, worker := signal r.worker }

/-- A request other than a reconfiguration is accepted. -/
def accept (r : LiveWalletWorkloadRecord E) (request : LiveWalletWorkloadRequest)
    (requestsStop : Bool) : LiveWalletWorkloadRecord E :=
  let r := { r with request, state := .stopping }
  if requestsStop then r.requestEpochStop else r

/-- Why a pause or a stop is refused. -/
def transitionFailure (r : LiveWalletWorkloadRecord E) : Option LiveWorkloadFailure :=
  if isTerminalLiveWalletWorkloadState r.state then some (.terminal r.id)
  else if r.state = .stopping then some .transitionInProgress
  else none

def pauseStep (r : LiveWalletWorkloadRecord E) : LiveWalletWorkloadRecord E :=
  match r.transitionFailure with
  | some _ => r
  | none => r.accept .pause (r.state != .starting)

/-- Has the last epoch ended by itself? -/
def completed : LivePc E → Bool
  | .executing e =>
    match e.pc with
    | .done (.returned .completed _) => true
    | _ => false
  | .ending state _ _ => state == .completed
  | .finished => true
  | _ => false

def stopStep (r : LiveWalletWorkloadRecord E) (settle : Bool) : LiveWalletWorkloadRecord E :=
  match r.transitionFailure with
  | some _ => r
  | none =>
    if settle then r.accept .stopSettle (r.state == .starting)
    else
      accept { r with cancelAccepted := r.cancelAccepted || !completed r.worker } .stopCancel true

def resumeFailure (r : LiveWalletWorkloadRecord E) : Option LiveWorkloadFailure :=
  if r.state ≠ .paused then some (.notPaused r.id) else none

def resumeStep (r : LiveWalletWorkloadRecord E) : LiveWalletWorkloadRecord E :=
  match r.resumeFailure with
  | some _ => r
  | none => { r with request := .none, state := .starting }

/-- The call that starts the workload is cancelled while it waits. -/
def cancelStartStep (r : LiveWalletWorkloadRecord E) : LiveWalletWorkloadRecord E :=
  if r.state = .starting then requestEpochStop { r with request := .stopCancel } else r

/-- Why a reconfiguration is refused, as far as this record is concerned. -/
def reconfigurationFailure (r : LiveWalletWorkloadRecord E)
    (updated : WalletTransactionsWorkload) : Option LiveWorkloadFailure :=
  if isTerminalLiveWalletWorkloadState r.state then some .terminalReconfiguration
  else if r.state = .stopping then some .transitionInProgress
  else if updated.transactionCount ≠ 0 ∧ r.nextTransactionIndex > updated.transactionCount then
    some .belowProgress
  else if updated.strategy = .equalFanout ∧ updated.transactionCount ≠ 0 ∧
      (updated.transactionCount - r.nextTransactionIndex) % updated.receiverWallets.length ≠ 0 then
    some .incompleteBatch
  else none

/-- Claims and wallets change at once, the configuration when the worker is ready. -/
def reconfigureStep (r : LiveWalletWorkloadRecord E) (updated : AcceptedWorkload E)
    (walletCount : Nat) : LiveWalletWorkloadRecord E :=
  match r.reconfigurationFailure updated.val with
  | some _ => r
  | none =>
    let claimed := claimedWalletsForWorkload updated.val walletCount
    let next := { r with claimedWallets := claimed, walletCount }
    if r.state = .paused then
      -- The source throws after the change when the revision cannot be counted up.
      let next := { next with workload := updated, fresh := true }
      if r.configurationRevision = 2 ^ 64 - 1 then next
      else { next with configurationRevision := r.configurationRevision + 1 }
    else accept { next with pendingWorkload := some updated } .reconfigure (r.state != .starting)

def shutdownStep (r : LiveWalletWorkloadRecord E) (runFailed : Bool) : LiveWalletWorkloadRecord E :=
  if isTerminalLiveWalletWorkloadState r.state then r
  else
    { r with
      state := .stopping
      request := if runFailed then .runFailure else .shutdown }

def stopServiceStep (r : LiveWalletWorkloadRecord E) : LiveWalletWorkloadRecord E :=
  { r with serviceStopRequested := true, worker := signal r.worker }

end Control

end LiveWalletWorkloadRecord

section Machine

/-- A step of the worker, or a control call. -/
inductive LiveAction (E : RandomEngine) where
  | head
  | written (written : Except String Unit)
  | wake
  | apply (input : ApplyInput)
  | epochEnded
  | refreshed
  | terminate (tracking : Except String Unit)
  | pause
  | resume
  | stop (settle : Bool)
  | cancelStart
  | reconfigure (updated : AcceptedWorkload E) (walletCount : Nat)
  | shutdown (runFailed : Bool)
  | stopService

namespace LiveWalletWorkloadRecord

variable {E : RandomEngine}

def step (r : LiveWalletWorkloadRecord E) : LiveAction E → Option (LiveWalletWorkloadRecord E)
  | .head =>
    match r.worker with
    | .head => some r.dispatch
    | _ => none
  | .written written =>
    match r.worker, written with
    | .pausing, .ok () => some { r with worker := .pauseWait }
    | .pausing, .error message => some (r.endWith .failed "failed" message)
    | .reconfigured, .ok () => some r.install
    | .reconfigured, .error message => some (r.endWith .failed "failed" message)
    | _, _ => none
  | .wake =>
    match r.worker with
    | .pauseWait => r.wakeStep
    | _ => none
  | .apply input =>
    match r.worker with
    | .executing e => r.applyStep e input
    | _ => none
  | .epochEnded =>
    match r.worker with
    | .executing e =>
      match e.pc with
      | .done result => some (r.epochEnded e result)
      | _ => none
    | _ => none
  | .refreshed =>
    match r.worker with
    | .refreshWait => some { r with worker := .head }
    | _ => none
  | .terminate tracking =>
    match r.worker with
    | .ending state outcome failure =>
      match tracking with
      | .ok () => some (r.setTerminal state outcome failure)
      | .error message => some (r.setTerminal .failed "failed" message)
    | _ => none
  | .pause => some r.pauseStep
  | .resume => some r.resumeStep
  | .stop settle => some (r.stopStep settle)
  | .cancelStart => some r.cancelStartStep
  | .reconfigure updated walletCount => some (r.reconfigureStep updated walletCount)
  | .shutdown runFailed => some (r.shutdownStep runFailed)
  | .stopService => some r.stopServiceStep

/-- A record that has just been started. -/
def create (id : String) (workload : AcceptedWorkload E) (walletCount : Nat) :
    LiveWalletWorkloadRecord E :=
  { id, workload, walletCount
    claimedWallets := claimedWalletsForWorkload workload.val walletCount }

end LiveWalletWorkloadRecord

/-- The worker of a record and its control calls. -/
def liveWorkloadMachine (E : RandomEngine) :
    Machine (LiveWalletWorkloadRecord E) (LiveAction E) where
  step := LiveWalletWorkloadRecord.step

end Machine

section Frames

variable {E : RandomEngine}

/-- The epoch prepares its loop, or it is in the sequential one. -/
def ApplyPc.isOutsideLoad : ApplyPc E → Bool
  | .loading .. | .done _ => false
  | _ => true

namespace LiveWalletWorkloadRecord

variable {r t : LiveWalletWorkloadRecord E} {e : LiveEpoch E}

/-- What a step inside of an epoch can change. -/
structure EpochFrame
    (r : LiveWalletWorkloadRecord E) (e : LiveEpoch E)
    (t : LiveWalletWorkloadRecord E) (e' : LiveEpoch E) : Prop where
  record : t =
    { r with worker := .executing e', state := t.state
             preparedFunding := t.preparedFunding }
  workload : e'.workload = e.workload
  walletCount : e'.walletCount = e.walletCount
  first : e'.first = e.first
  funding : t.preparedFunding = r.preparedFunding ∨ t.preparedFunding = some e.walletCount
  state : t.state = r.state ∨ r.request = .none ∧ t.state = .running

/-- What a step inside of an epoch can do. -/
inductive ApplyMove (r : LiveWalletWorkloadRecord E) (e : LiveEpoch E) (input : ApplyInput) :
    LiveWalletWorkloadRecord E → Prop
  | threw {state : LiveWalletWorkloadState} {exception : EpochException}
      (place : e.pc.isOutsideLoad = true)
      (marked : state = r.state ∨ r.request = .none ∧ state = .running)
      (cause : exception = .simulationCancelled ∨
        ∃ message, exception = .error (.external message)) :
      ApplyMove r e input (conclude { r with state } e (.threw exception))
  | unfunded {funding : Nat} (place : e.pc = .funding)
      (prepared : r.preparedFunding = some funding) (incomplete : funding ≠ e.walletCount) :
      ApplyMove r e input (r.conclude e (.threw (.error .fundingIncomplete)))
  | funded (place : e.pc = .funding) :
      ApplyMove r e input
        (execute { r with preparedFunding := some e.walletCount } { e with pc := .starting })
  | started {state : LiveWalletWorkloadState} (place : e.pc = .starting)
      (marked : r.request ≠ .none ∧ state = r.state ∨ r.request = .none ∧ state = .running) :
      ApplyMove r e input (execute { r with state } { e with pc := .preparing })
  | load {c : EpochConfig E} {s : EpochState c} {balances : List U64}
      {accounting : TransactionLoadSnapshot} (place : e.pc = .preparing)
      (strategy : isTransactionLoadStrategy e.workload.val.strategy = true)
      (config : e.workload.loadConfig strategy e.walletCount e.nextTransactionIndex = .ok c)
      (start : c.start balances accounting = .ok s) :
      ApplyMove r e input
        (r.execute { e with pc := .loading c { s with stopRequested := r.stopRequested } })
  | loaded {c : EpochConfig E} {s u : EpochState c} {a : EpochAction c} {expired : Bool}
      (place : e.pc = .loading c s) (step : s.step a = some u)
      (expires : e.expired = true → expired = true)
      (reads : ∀ read, a = .producer read → input = .producer read ∧
        expired = (e.expired || read.expires) ∧ r.answers read = true) :
      ApplyMove r e input (r.loaded { e with expired } u)
  | loop (place : e.pc = .preparing)
      (strategy : isTransactionLoadStrategy e.workload.val.strategy = false) :
      ApplyMove r e input (r.execute { e with pc := .sequential .head })
  | completed (place : e.pc = .sequential .head)
      (reached : e.workload.val.transactionCount ≠ 0 ∧
        e.workload.val.transactionCount ≤ e.nextTransactionIndex) :
      ApplyMove r e input (r.conclude e (.returned .completed e.nextTransactionIndex))
  | continued (place : e.pc = .sequential .head)
      (below : ¬(e.workload.val.transactionCount ≠ 0 ∧
        e.workload.val.transactionCount ≤ e.nextTransactionIndex))
      (running : r.stopRequested = false) :
      ApplyMove r e input (r.execute { e with pc := .sequential .yielding })
  | yielded (place : e.pc = .sequential .yielding ∨ e.pc = .sequential .polling)
      (requested : r.request ≠ .none) :
      ApplyMove r e input (r.conclude e (.returned .yielded e.nextTransactionIndex))
  | worked (place : e.pc = .sequential .yielding ∨ e.pc = .sequential .polling) :
      ApplyMove r e input (r.execute { e with pc := .sequential .working })
  | polled (place : e.pc = .sequential .working) (running : r.stopRequested = false) :
      ApplyMove r e input (r.execute { e with pc := .sequential .polling })
  | submitted (place : e.pc = .sequential .working) :
      ApplyMove r e input
        (r.execute
          { e with
            nextTransactionIndex := e.nextTransactionIndex + 1
            pc := .sequential .head })

section Moves

variable {input : ApplyInput}

theorem cancelEpoch_move (h : r.cancelEpoch e = some t)
    (hplace : e.pc.isOutsideLoad = true) : ApplyMove r e input t := by
  unfold cancelEpoch at h
  split_ifs at h
  cases h
  exact .threw hplace (.inl rfl) (.inl rfl)

theorem fundStep_move {answer : FundingAnswer} (hpc : e.pc = .funding)
    (h : r.fundStep e answer = some t) : ApplyMove r e input t := by
  unfold fundStep at h
  split_ifs at h with hsome
  · obtain ⟨funding, hfunding⟩ := Option.isSome_iff_exists.mp hsome
    cases h
    unfold checkFunding
    split_ifs with hcomplete
    · have hmove : ApplyMove r e input _ := .funded hpc
      rwa [← hcomplete] at hmove
    · exact .unfunded hpc hfunding (fun hcount => hcomplete (hcount ▸ hfunding))
  · cases answer with
    | funded =>
      simp only [checkFunding, if_true] at h
      cases h
      exact .funded hpc
    | simulationCancelled => exact cancelEpoch_move h (by rw [hpc]; rfl)
    | failed message =>
      cases h
      exact .threw (by rw [hpc]; rfl) (.inl rfl) (.inr ⟨_, rfl⟩)

theorem executionStartedStep_move (hpc : e.pc = .starting) (written : Except String Unit) :
    ApplyMove r e input (r.executionStartedStep e written) := by
  have hmark : ∃ state, r.markRunning = { r with state } ∧
      (r.request ≠ .none ∧ state = r.state ∨ r.request = .none ∧ state = .running) := by
    unfold markRunning
    split_ifs with hrequest
    · exact ⟨_, rfl, .inr ⟨hrequest, rfl⟩⟩
    · exact ⟨_, rfl, .inl ⟨hrequest, rfl⟩⟩
  obtain ⟨state, hmark, hstate⟩ := hmark
  unfold executionStartedStep
  rw [hmark]
  cases written with
  | error message =>
    exact .threw (by rw [hpc]; rfl) (hstate.imp_left And.right) (.inr ⟨message, rfl⟩)
  | ok => exact .started hpc hstate

theorem prepareStep_move {accounting : TransactionLoadSnapshot} {balances : BalancesRead}
    (hpc : e.pc = .preparing) (h : r.prepareStep e accounting balances = some t) :
    ApplyMove r e input t := by
  have hplace : e.pc.isOutsideLoad = true := by rw [hpc]; rfl
  have hfail : ∀ message, ApplyMove r e input (r.fail e message) :=
    fun message => .threw hplace (.inl rfl) (.inr ⟨message, rfl⟩)
  cases balances with
  | failed message =>
    cases h
    exact hfail message
  | simulationCancelled =>
    simp only [prepareStep] at h
    split_ifs at h
    exact cancelEpoch_move h hplace
  | values balances =>
    simp only [prepareStep] at h
    split_ifs at h with hload
    · split at h
      next message _ =>
        cases h
        exact hfail message
      next c hconfig =>
        split at h
        next message _ =>
          cases h
          exact hfail message
        next s hstart =>
          cases h
          exact .load hpc hload hconfig hstart
    · cases h
      exact .loop hpc (Bool.eq_false_of_not_eq_true hload)

theorem loadStep_move {c : EpochConfig E} {s : EpochState c} (hpc : e.pc = .loading c s)
    (h : r.loadStep e s input = some t) : ApplyMove r e input t := by
  cases input with
  | propagated | confirmed =>
    simp only [loadStep] at h
    obtain ⟨u, hstep, rfl⟩ := Option.map_eq_some_iff.mp h
    exact .loaded hpc hstep (fun hold => hold) nofun
  | producer input =>
    simp only [loadStep] at h
    split_ifs at h with hanswers
    obtain ⟨u, hstep, rfl⟩ := Option.map_eq_some_iff.mp h
    refine .loaded hpc hstep (fun hexpired => by rw [hexpired, Bool.true_or]) ?_
    rintro read ⟨⟩
    exact ⟨rfl, rfl, hanswers⟩
  | worker w input =>
    simp only [loadStep] at h
    split_ifs at h
    obtain ⟨u, hstep, rfl⟩ := Option.map_eq_some_iff.mp h
    exact .loaded hpc hstep (fun hold => hold) nofun
  | _ => cases h

theorem sequentialStep_move {pc : SequentialPc} {action : SequentialInput}
    (hpc : e.pc = .sequential pc) (h : r.sequentialStep e pc action = some t) :
    ApplyMove r e input t := by
  have hplace : e.pc.isOutsideLoad = true := by rw [hpc]; rfl
  have hcancelled : ApplyMove r e input (r.conclude e (.threw .simulationCancelled)) :=
    .threw hplace (.inl rfl) (.inl rfl)
  have hfail : ∀ message, ApplyMove r e input (r.fail e message) :=
    fun message => .threw hplace (.inl rfl) (.inr ⟨message, rfl⟩)
  unfold sequentialStep at h
  split at h
  · dsimp only at h
    split_ifs at h with hcount hstop <;> cases h
    · exact .completed hpc hcount
    · exact hcancelled
    · exact .continued hpc hcount (Bool.eq_false_of_not_eq_true hstop)
  · split_ifs at h with hrequest <;> cases h
    · exact .yielded (.inl hpc) hrequest
    · exact .worked (.inl hpc)
  · split_ifs at h with hrequest <;> cases h
    · exact .yielded (.inr hpc) hrequest
    · exact .worked (.inr hpc)
  · split_ifs at h with hstop <;> cases h
    · exact hcancelled
    · exact .polled hpc (Bool.eq_false_of_not_eq_true hstop)
  · split_ifs at h <;> cases h
    · exact hfail _
    · exact .submitted hpc
  · exact cancelEpoch_move h hplace
  · cases h
    exact hfail _
  · cases h

theorem applyStep_move (h : r.applyStep e input = some t) : ApplyMove r e input t := by
  unfold applyStep at h
  split at h
  next hpc => exact fundStep_move hpc h
  next hpc =>
    cases h
    exact executionStartedStep_move hpc _
  next hpc => exact prepareStep_move hpc h
  next hpc => exact loadStep_move hpc h
  next hpc => exact sequentialStep_move hpc h
  · cases h

end Moves

/-- A step inside of an epoch leaves the worker in the same epoch. -/
theorem applyStep_frame {input : ApplyInput} (h : r.applyStep e input = some t) :
    ∃ e', EpochFrame r e t e' := by
  cases applyStep_move h with
  | threw _ hmarked => exact ⟨_, rfl, rfl, rfl, rfl, .inl rfl, hmarked⟩
  | funded => exact ⟨_, rfl, rfl, rfl, rfl, .inr rfl, .inl rfl⟩
  | started _ hmarked => exact ⟨_, rfl, rfl, rfl, rfl, .inl rfl, hmarked.imp_left And.right⟩
  | loaded =>
    unfold LiveWalletWorkloadRecord.loaded
    split
    all_goals exact ⟨_, rfl, rfl, rfl, rfl, .inl rfl, .inl rfl⟩
  | _ => exact ⟨_, rfl, rfl, rfl, rfl, .inl rfl, .inl rfl⟩

/-- A stop request changes nothing but the stop flag of a running load. -/
theorem signal_cases (worker : LivePc E) :
    (∃ (e : LiveEpoch E) (c : EpochConfig E) (s : EpochState c),
        worker = .executing e ∧ e.pc = .loading c s ∧
        signal worker = .executing { e with pc := .loading c { s with stopRequested := true } }) ∨
      signal worker = worker := by
  cases worker with
  | executing e =>
    cases hpc : e.pc with
    | loading c s =>
      refine .inl ⟨e, c, s, rfl, hpc, ?_⟩
      simp only [signal, hpc]
    | _ =>
      refine .inr ?_
      simp only [signal, hpc]
  | _ => exact .inr rfl

theorem signal_executing {worker : LivePc E} {e' : LiveEpoch E}
    (h : signal worker = .executing e') :
    ∃ e, worker = .executing e ∧ e'.workload = e.workload ∧
      e'.walletCount = e.walletCount ∧ e'.first = e.first := by
  obtain ⟨e, c, s, rfl, -, hsignal⟩ | hsignal := signal_cases worker
  · rw [hsignal] at h
    cases h
    exact ⟨e, rfl, rfl, rfl, rfl⟩
  · exact ⟨e', hsignal.symm.trans h, rfl, rfl, rfl⟩

/-- Outside of an epoch a stop request leaves the worker where it is. -/
theorem signal_eq_of_not_executing {worker place : LivePc E} (h : signal worker = place)
    (hplace : ∀ e, place ≠ .executing e) : worker = place := by
  obtain ⟨e, c, s, rfl, -, hsignal⟩ | hsignal := signal_cases worker
  · exact absurd (h.symm.trans hsignal) (hplace _)
  · exact hsignal.symm.trans h

theorem accept_eq (r : LiveWalletWorkloadRecord E) (request : LiveWalletWorkloadRequest)
    (requestsStop : Bool) :
    r.accept request requestsStop =
      { r with
        request, state := .stopping
        epochStopRequested := r.epochStopRequested || requestsStop
        worker := if requestsStop then signal r.worker else r.worker } := by
  cases requestsStop with
  | false => simp [accept]
  | true => simp [accept, requestEpochStop]

end LiveWalletWorkloadRecord

end Frames

section Registry

def kMaximumScenarioActionCount : Nat := 256

structure LiveWalletWorkloadRegistry (E : RandomEngine) where
  records : List (LiveWalletWorkloadRecord E) := []
  nextId : Nat := 1
  shuttingDown : Bool := false

inductive RegistryAction (E : RandomEngine) where
  | start (workload : WalletTransactionsWorkload) (walletCount : Nat)
      (requestedId : Option String) (others : List String)
  | reconfigure (id : String) (updated : WalletTransactionsWorkload)
      (walletCount : Nat)
  | record (id : String) (action : LiveAction E)
  | shutDown

namespace LiveWalletWorkloadRegistry

open LiveWalletWorkloadRecord (isTerminalLiveWalletWorkloadState)

variable {E : RandomEngine}

/-- The least active workload, other than `self`, that claims one of the wallets. -/
def conflict (g : LiveWalletWorkloadRegistry E) (self : Option String)
    (claimed : List Nat) : Option String :=
  ((g.records.filter fun r =>
      some r.id ≠ self && !isTerminalLiveWalletWorkloadState r.state &&
        walletClaimsOverlap claimed r.claimedWallets).map (·.id)).min?

/-- The next identity that no registry uses; `fuel` bounds the identities in use. -/
def generateId (used : List String) : Nat → Nat → Except LiveWorkloadFailure (String × Nat)
  | 0, _ => .error .idExhausted
  | fuel + 1, nextId =>
    if nextId = 2 ^ 64 - 1 then .error .idExhausted
    else
      let id := "wallet-workload-" ++ toString nextId
      if id ∈ used then generateId used fuel (nextId + 1) else .ok (id, nextId + 1)

def chooseId (g : LiveWalletWorkloadRegistry E) (requestedId : Option String)
    (others : List String) : Except LiveWorkloadFailure (String × Nat) :=
  let used := g.records.map (·.id) ++ others
  match requestedId with
  | some id => if id ∈ used then .error (.idConflict id) else .ok (id, g.nextId)
  | none => generateId used (used.length + 1) g.nextId

/-- The workload, if it passes the validation. -/
def accepted (E : RandomEngine) (workload : WalletTransactionsWorkload)
    (walletCount : Nat) : Except LiveWorkloadFailure (AcceptedWorkload E) :=
  match h : validateWalletTransactionsWorkload E walletCount workload with
  | .error message => .error (.invalidWorkload message)
  | .ok () => .ok ⟨workload, walletCount, h⟩

/-- How many workloads are not terminal. -/
def activeCount (g : LiveWalletWorkloadRegistry E) : Nat :=
  g.records.countP fun r => !isTerminalLiveWalletWorkloadState r.state

/-- The launcher; `others` are the identities that the other registries retain. -/
def start (g : LiveWalletWorkloadRegistry E) (workload : WalletTransactionsWorkload)
    (walletCount : Nat) (requestedId : Option String) (others : List String) :
    Except LiveWorkloadFailure (LiveWalletWorkloadRegistry E) :=
  if g.shuttingDown then .error .runNotActive
  else
    match accepted E workload walletCount with
    | .error failure => .error failure
    | .ok workload =>
      if g.records.length + others.length ≥ kMaximumScenarioActionCount then
        .error .retainedCapacity
      else
        match g.conflict none (claimedWalletsForWorkload workload.val walletCount) with
        | some other => .error (.admissionConflict other)
        | none =>
          if g.activeCount ≥ kMaximumWalletTransactionLoadConcurrency then .error .activeCapacity
          else
            match g.chooseId requestedId others with
            | .error failure => .error failure
            | .ok (id, nextId) =>
              .ok { g with
                records := g.records ++ [.create id workload walletCount]
                nextId }

/-- Where the record with this identity stands. -/
def position (g : LiveWalletWorkloadRegistry E) (id : String) : Nat := g.records.findIdx (·.id = id)

def put (g : LiveWalletWorkloadRegistry E) (id : String)
    (r : LiveWalletWorkloadRecord E) : LiveWalletWorkloadRegistry E :=
  { g with records := g.records.set (g.position id) r }

def reconfigure (g : LiveWalletWorkloadRegistry E) (id : String)
    (updated : WalletTransactionsWorkload) (walletCount : Nat) :
    Except LiveWorkloadFailure (LiveWalletWorkloadRegistry E) :=
  match g.records[g.position id]? with
  | none => .error (.notFound id)
  | some r =>
    match accepted E updated walletCount with
    | .error failure => .error failure
    | .ok updated =>
      match g.conflict (some id) (claimedWalletsForWorkload updated.val walletCount) with
      | some other => .error (.reconfigurationConflict other)
      | none =>
        match r.reconfigurationFailure updated.val with
        | some failure => .error failure
        | none => .ok (g.put id (r.reconfigureStep updated walletCount))

/-- A call that is refused changes nothing. -/
def step (g : LiveWalletWorkloadRegistry E) :
    RegistryAction E → Option (LiveWalletWorkloadRegistry E)
  | .start workload walletCount requestedId others =>
    match g.start workload walletCount requestedId others with
    | .error _ => some g
    | .ok next => some next
  | .reconfigure id updated walletCount =>
    match g.reconfigure id updated walletCount with
    | .error _ => some g
    | .ok next => some next
  | .record _ (.reconfigure _ _) => none
  | .record id action =>
    match g.records[g.position id]? with
    | none => none
    | some r => (r.step action).map (g.put id)
  | .shutDown => some { g with shuttingDown := true }

end LiveWalletWorkloadRegistry

/-- All live wallet workloads of a run. -/
def liveRegistryMachine (E : RandomEngine) :
    Machine (LiveWalletWorkloadRegistry E) (RegistryAction E) where
  step := LiveWalletWorkloadRegistry.step

end Registry

end Bbp.Simulator
