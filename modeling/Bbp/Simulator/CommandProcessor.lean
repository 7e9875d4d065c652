import Bbp.Library.Transition

/-!
# The simulation command queue and its processor

Any number of threads push commands into a bounded queue.  One processor thread takes them
out and calls the command handler; clients may cancel a command at any time, and `Stop`
cancels what is still queued, joins the thread and reports the cancelled commands.

A command that changes nodes carries a control with an atomic commit state.  A cancellation
and the beginning of a commit both try to move it away from its open phase, and one of them
fails.  The outcome that the processor reports is read off that state after the handler has
ended, with other threads still cancelling: each read is a step of its own.

`accepted`, `executed` and `outcomes` record what has happened, in order.  The fields
`commitBegan` and `cancellationWon` of a control record which of its calls have succeeded.
-/

namespace Bbp.Commands

open Library

section Data

inductive SimulationCommandKind where
  | increaseLogVerbosity | decreaseLogVerbosity | stopMining | disconnectNode
  | reconnectNode | setBlockProductionPolicy | setMiningDifficulty | killNode | signalNode
  | signalWallet | signalMiner | signalHelper | connectPeer | disconnectPeer
  | setPeerCountPolicy | freezeNode | thawNode | stopNode | restartNode | generateBlocks
  | setResourceProfile | setResourceLimits | setNetworkProfile | setNetworkCondition
  | blockNetworkFlow | unblockNetworkFlow | partitionNodes | healPartition
  | exportNodeReport | setPerfCounters | sendWalletTransaction | addNodes | replaceNode
  | removeNodes | assignRole | removeRole | addTargetAddress | removeTargetAddress
deriving DecidableEq

namespace SimulationCommandKind

/-- The commands whose handler commits an inventory of nodes. -/
def mutatesNodes : SimulationCommandKind → Bool
  | addNodes => true
  | replaceNode => true
  | removeNodes => true
  | _ => false

/-- The commands that are given a control when they come without one. -/
def needsControl : SimulationCommandKind → Bool
  | addTargetAddress => true
  | removeTargetAddress => true
  | assignRole => true
  | removeRole => true
  | kind => kind.mutatesNodes

/-- The commands that `Stop` cancels through their control. -/
def cancelledByStop : SimulationCommandKind → Bool
  | assignRole => true
  | removeRole => true
  | kind => kind.mutatesNodes

theorem needsControl_of_mutatesNodes {kind : SimulationCommandKind} (h : kind.mutatesNodes = true) :
    kind.needsControl = true := by
  cases kind <;> first | rfl | exact h

end SimulationCommandKind

inductive SimulationCommandCancellationCause where
  | none
  | clientCancel
  | deadline
  | applicationShutdown
deriving DecidableEq

inductive SimulationCommandCommitPhase where
  | open
  | cancelled
  | commitStarted
  | committed
deriving DecidableEq

inductive SimulationCommandOutcomeState where
  | succeeded
  | failed
  | cancelled
  | timedOut
  | outcomeUnconfirmed
deriving DecidableEq

structure SimulationCommandControl where
  phase : SimulationCommandCommitPhase
  cause : SimulationCommandCancellationCause
  stopRequested : Bool
  outcomeUnconfirmed : Bool
  commitBegan : Bool
  cancellationWon : Bool

structure SimulationCommand where
  sequence : Nat
  kind : SimulationCommandKind
  /-- Whether the command has a control. -/
  controlled : Bool
deriving DecidableEq

structure SimulationCommandOutcome where
  state : SimulationCommandOutcomeState
  cancellationCause : SimulationCommandCancellationCause
deriving DecidableEq

end Data

section Controls

namespace SimulationCommandControl

def fresh : SimulationCommandControl := ⟨.open, .none, false, false, false, false⟩

/-- The exchange that `RequestCancellation` attempts. -/
def requestCancellation (cause : SimulationCommandCancellationCause)
    (control : SimulationCommandControl) : SimulationCommandControl :=
  if cause = .none then control
  else if control.phase = .open then
    { control with phase := .cancelled, cause := cause, cancellationWon := true }
  else control

def tryBeginCommit (control : SimulationCommandControl) : SimulationCommandControl :=
  if control.phase = .open then { control with phase := .commitStarted, commitBegan := true }
  else control

/-- What the phase of a control says about its calls. -/
def Latched (control : SimulationCommandControl) : Prop :=
  match control.phase with
  | .open => control.commitBegan = false ∧ control.cancellationWon = false
  | .cancelled => control.commitBegan = false ∧ control.cancellationWon = true
  | .commitStarted => control.commitBegan = true ∧ control.cancellationWon = false
  | .committed => control.commitBegan = true ∧ control.cancellationWon = false

variable {control : SimulationCommandControl}

theorem Latched.requestCancellation (h : control.Latched)
    (cause : SimulationCommandCancellationCause) : (control.requestCancellation cause).Latched := by
  unfold SimulationCommandControl.requestCancellation
  split
  · exact h
  split
  next hopen =>
    unfold Latched at h
    rw [hopen] at h
    exact ⟨h.1, rfl⟩
  next => exact h

theorem Latched.tryBeginCommit (h : control.Latched) :
    control.tryBeginCommit.Latched := by
  unfold SimulationCommandControl.tryBeginCommit
  split
  next hopen =>
    unfold Latched at h
    rw [hopen] at h
    exact ⟨rfl, h.2⟩
  next => exact h

theorem requestCancellation_commitBegan
    (cause : SimulationCommandCancellationCause) (control : SimulationCommandControl) :
    (control.requestCancellation cause).commitBegan = control.commitBegan := by
  unfold SimulationCommandControl.requestCancellation
  split
  · rfl
  · split <;> rfl

theorem requestCancellation_committed (h : control.phase = .committed)
    (cause : SimulationCommandCancellationCause) :
    control.requestCancellation cause = control := by
  unfold SimulationCommandControl.requestCancellation
  split
  · rfl
  · rw [if_neg (by rw [h]; decide)]

/-- A control whose commit has not started, by its phase, has not begun to commit. -/
theorem Latched.commitBegan_false (h : control.Latched) (hstarted : control.phase ≠ .commitStarted)
    (hcommitted : control.phase ≠ .committed) :
    control.commitBegan = false := by
  unfold Latched at h
  split at h
  · exact h.1
  · exact h.1
  next hphase => exact absurd hphase hstarted
  next hphase => exact absurd hphase hcommitted

theorem Latched.not_both (h : control.Latched) :
    ¬ (control.commitBegan = true ∧ control.cancellationWon = true) := by
  rintro ⟨hbegan, hwon⟩
  unfold Latched at h
  split at h
  · rw [h.1] at hbegan
    cases hbegan
  · rw [h.1] at hbegan
    cases hbegan
  all_goals
    rw [h.2] at hwon
    cases hwon

end SimulationCommandControl

end Controls

section Machine

/-- How a call of the command handler ends. -/
inductive HandlerEnd where
  | returned (succeeded : Bool)
  /-- `SimulationCancelled` -/
  | cancelled
  /-- `SimulationCommandOutcomeUnconfirmed` -/
  | unconfirmed
  /-- Any other exception. -/
  | exception

/-- What is left to read before the outcome of a command is reported. -/
inductive Judgement where
  | cancellation (fallback : SimulationCommandCancellationCause)
  | cancellationState (cause : SimulationCommandCancellationCause)
  | returned
  | returnedState (cause : SimulationCommandCancellationCause)
  | raised
  | raisedOpen
  | unconfirmed
  | failing

/-- Where the processor thread is.  Before `Start` it is `waiting`: a command that is pushed
then is one that the thread has not yet taken. -/
inductive ProcessorPlace where
  | waiting
  | popped (command : SimulationCommand)
  | handling (command : SimulationCommand)
  | judging (command : SimulationCommand) (judgement : Judgement)
  | ended

/-- Where the thread is that has called `Stop`. -/
inductive StopPlace where
  | notCalled
  | cancelling (done rest : List SimulationCommand)
  | joining (cancelled : List SimulationCommand)
  | reporting (cause : Option SimulationCommandCancellationCause)
      (rest : List SimulationCommand)
  | returned

structure CommandState where
  queue : List SimulationCommand
  nextSequence : Nat
  closed : Bool
  controls : Nat → SimulationCommandControl
  processor : ProcessorPlace
  stop : StopPlace
  accepted : List Nat
  executed : List Nat
  outcomes : List (SimulationCommand × SimulationCommandOutcome)

inductive CommandAction where
  | push (kind : SimulationCommandKind) (control : Option SimulationCommandControl)
  | close
  /-- A client calls `RequestCancellation`: first the exchange, then the stop request. -/
  | cancel (sequence : Nat) (cause : SimulationCommandCancellationCause)
  | requestStop (sequence : Nat)
  | pop
  | check
  | beginCommit
  | markCommitted
  | markUnconfirmed
  | handlerEnds (ending : HandlerEnd)
  | judge
  | stopBegins
  | stopCancels
  | stopJoins
  | stopReports

def CommandState.setControl (s : CommandState) (sequence : Nat)
    (f : SimulationCommandControl → SimulationCommandControl) : CommandState :=
  { s with controls := fun n => if n = sequence then f (s.controls n) else s.controls n }

def CommandState.report (s : CommandState) (command : SimulationCommand)
    (outcome : SimulationCommandOutcome) : CommandState :=
  { s with outcomes := s.outcomes ++ [(command, outcome)] }

/-- `CancellationCause`: a command without a cause of its own has the fallback. -/
def CommandState.cancellationCause (s : CommandState) (command : SimulationCommand)
    (fallback : SimulationCommandCancellationCause) : SimulationCommandCancellationCause :=
  if !command.controlled then fallback
  else if (s.controls command.sequence).cause = .none then fallback
  else (s.controls command.sequence).cause

def CommandState.nodeMutationCommitStarted (s : CommandState) (command : SimulationCommand) :
    Bool :=
  command.kind.mutatesNodes && command.controlled &&
    ((s.controls command.sequence).phase == .commitStarted ||
      (s.controls command.sequence).phase == .committed)

def CommandState.nodeMutationCancellationWon (s : CommandState)
    (command : SimulationCommand) : Bool :=
  command.kind.mutatesNodes && command.controlled &&
    (s.controls command.sequence).phase == .cancelled

def CommandState.outcomeUnconfirmed (s : CommandState) (command : SimulationCommand) : Bool :=
  (command.controlled && (s.controls command.sequence).outcomeUnconfirmed) ||
    s.nodeMutationCommitStarted command

/-- The second half of `CancellationOutcome`, with the cause that has been read. -/
def CommandState.cancellationOutcome (s : CommandState) (command : SimulationCommand)
    (cause : SimulationCommandCancellationCause) : SimulationCommandOutcome :=
  { state :=
      if s.outcomeUnconfirmed command then .outcomeUnconfirmed
      else if cause = .deadline then .timedOut
      else .cancelled
    cancellationCause := cause }

/-- The outcome of a handler that has returned a success. -/
def CommandState.returnedOutcome (s : CommandState) (command : SimulationCommand)
    (cause : SimulationCommandCancellationCause) : SimulationCommandOutcome :=
  { state :=
      if command.kind.mutatesNodes &&
          (!command.controlled || (s.controls command.sequence).phase != .committed) then
        .outcomeUnconfirmed
      else .succeeded
    cancellationCause := cause }

def pushCommand (capacity : Nat) (kind : SimulationCommandKind)
    (control : Option SimulationCommandControl) (s : CommandState) : CommandState :=
  if s.closed then s
  else if s.queue.length ≥ capacity then s
  else if s.nextSequence = 2 ^ 64 - 1 then s
  else
    { s.setControl s.nextSequence (fun _ => control.getD .fresh) with
      queue := s.queue ++ [⟨s.nextSequence, kind, kind.needsControl || control.isSome⟩]
      nextSequence := s.nextSequence + 1
      accepted := s.accepted ++ [s.nextSequence] }

/-- `WaitPop`: without a command the thread waits, or ends when the queue is closed. -/
def waitPop (s : CommandState) : Option CommandState :=
  match s.queue with
  | command :: rest => some { s with queue := rest, processor := .popped command }
  | [] => if s.closed then some { s with processor := .ended } else none

/-- Where the processor goes on after its handler has ended. -/
def HandlerEnd.judgement : HandlerEnd → Judgement
  | .returned true => .returned
  | .returned false => .raised
  | .cancelled => .cancellation .none
  | .unconfirmed => .unconfirmed
  | .exception => .raised

/-- One read of the processor, or the report that ends the turn. -/
def judge (s : CommandState) (command : SimulationCommand) : Judgement → CommandState
  | .cancellation fallback =>
    { s with
      processor := .judging command (.cancellationState (s.cancellationCause command fallback)) }
  | .cancellationState cause =>
    { s.report command (s.cancellationOutcome command cause) with processor := .waiting }
  | .returned =>
    { s with
      processor := .judging command (.returnedState (s.cancellationCause command .none)) }
  | .returnedState cause =>
    { s.report command (s.returnedOutcome command cause) with processor := .waiting }
  | .raised =>
    if s.nodeMutationCancellationWon command then
      { s with processor := .judging command (.cancellation .none) }
    else { s with processor := .judging command .raisedOpen }
  | .raisedOpen =>
    if s.outcomeUnconfirmed command then { s with processor := .judging command .unconfirmed }
    else { s with processor := .judging command .failing }
  | .unconfirmed =>
    { s.report command ⟨.outcomeUnconfirmed, s.cancellationCause command .none⟩ with
      processor := .waiting }
  | .failing =>
    { s.report command ⟨.failed, s.cancellationCause command .none⟩ with
      processor := .waiting }

/-- One `RequestCancellation` of the loop in `Stop`. -/
def stopCancels (s : CommandState) (done : List SimulationCommand)
    (command : SimulationCommand) (rest : List SimulationCommand) : CommandState :=
  let cancelled :=
    if command.kind.cancelledByStop && command.controlled then
      s.setControl command.sequence (·.requestCancellation .applicationShutdown)
    else s
  { cancelled with stop := .cancelling (done ++ [command]) rest }

def commandStep (capacity : Nat) (s : CommandState) : CommandAction → Option CommandState
  | .push kind control =>
    -- A client has not called what only the handler calls.
    if control.all (fun c => !c.commitBegan && (c.phase == .open || c.phase == .cancelled) &&
        c.cancellationWon == (c.phase == .cancelled)) then
      some (pushCommand capacity kind control s)
    else none
  | .close => some { s with closed := true }
  | .cancel sequence cause => some (s.setControl sequence (·.requestCancellation cause))
  | .requestStop sequence =>
    if (s.controls sequence).phase = .cancelled then
      some (s.setControl sequence fun c => { c with stopRequested := true })
    else none
  | .pop =>
    match s.processor with
    | .waiting => waitPop s
    | _ => none
  | .check =>
    match s.processor with
    | .popped command =>
      if command.controlled && (s.controls command.sequence).stopRequested then
        some { s with processor := .judging command (.cancellation .clientCancel) }
      else
        some { s with
          processor := .handling command
          executed := s.executed ++ [command.sequence] }
    | _ => none
  | .beginCommit =>
    match s.processor with
    | .handling command => some (s.setControl command.sequence (·.tryBeginCommit))
    | _ => none
  | .markCommitted =>
    match s.processor with
    | .handling command =>
      -- Any other phase ends the process.
      if (s.controls command.sequence).phase = .commitStarted then
        some (s.setControl command.sequence fun c => { c with phase := .committed })
      else none
    | _ => none
  | .markUnconfirmed =>
    match s.processor with
    | .handling command =>
      some (s.setControl command.sequence fun c => { c with outcomeUnconfirmed := true })
    | _ => none
  | .handlerEnds ending =>
    match s.processor with
    | .handling command => some { s with processor := .judging command ending.judgement }
    | _ => none
  | .judge =>
    match s.processor with
    | .judging command judgement => some (judge s command judgement)
    | _ => none
  | .stopBegins =>
    match s.stop with
    | .notCalled => some { s with closed := true, queue := [], stop := .cancelling [] s.queue }
    | _ => none
  | .stopCancels =>
    match s.stop with
    | .cancelling done (command :: rest) => some (stopCancels s done command rest)
    | .cancelling done [] => some { s with stop := .joining done }
    | _ => none
  | .stopJoins =>
    match s.stop, s.processor with
    | .joining cancelled, .ended => some { s with stop := .reporting none cancelled }
    | _, _ => none
  | .stopReports =>
    match s.stop with
    | .reporting none (command :: rest) =>
      some { s with
        stop := .reporting (some (s.cancellationCause command .applicationShutdown))
          (command :: rest) }
    | .reporting (some cause) (command :: rest) =>
      some { s.report command (s.cancellationOutcome command cause) with
        stop := .reporting none rest }
    | .reporting _ [] => some { s with stop := .returned }
    | _ => none

def commandMachine (capacity : Nat) : Machine CommandState CommandAction := ⟨commandStep capacity⟩

def CommandState.empty : CommandState :=
  { queue := []
    nextSequence := 1
    closed := false
    controls := fun _ => .fresh
    processor := .waiting
    stop := .notCalled
    accepted := []
    executed := []
    outcomes := [] }

end Machine

end Bbp.Commands
