import Bbp.Library.Transition
import Bbp.Mcp.Subscriptions

/-!
# The MCP operation service

The service keeps sessions, the operations that sessions submit, their subscriptions, and
the notifications that wait for the handler.  Everything happens under one mutex; a step of
the machine is one critical section, and the label says which one and what the caller, the
executor or the random source has decided.

* A call that waits is two steps: it registers itself in `calls`, and it leaves later.  The
  number of waiters of a record is the number of calls that have registered with it.
* A worker thread belongs to an operation; its place is the field `place` of the record.
* A critical section that throws keeps what it has changed so far.  The errors are
  remembered in `thrown`.

`observed` is what sessions see: the values that their calls return and the notifications
that the handler is given.
-/

namespace Bbp.Mcp

open Library

section Data

inductive McpOperationState where
  | queued
  | running
  | cancelling
  | cancelled
  | succeeded
  | failed
deriving DecidableEq

def McpOperationState.isTerminal : McpOperationState → Bool
  | .cancelled => true
  | .succeeded => true
  | .failed => true
  | _ => false

inductive McpResultFamily where
  | validation | scenario | runLifecycle | runtimeCommand | mutation | roleMutation
  | workload | workloadInvocation | instrumentation | evidencePage | chainPage | poolPage
  | artifactContent | operation | subscription | cleanup | error
deriving DecidableEq

/-- An entry of the registry of operations. -/
structure McpOperationKind where
  name : String
  resultFamily : McpResultFamily
deriving DecidableEq

structure McpOperationProgress where
  completed : Nat
  total : Nat
deriving DecidableEq

structure McpTypedResult where
  family : McpResultFamily
  value : Json

structure McpOperationError where
  code : String
  message : String
  retryable : Bool
  diagnostics : List Json

structure McpOperationSnapshot where
  operationId : String
  sessionId : String
  kind : McpOperationKind
  state : McpOperationState
  progress : McpOperationProgress
  cancelRequested : Bool
  terminalResultFamily : McpResultFamily
  result : Option McpTypedResult
  error : Option McpOperationError
  sequence : Nat

structure McpOperationCancellation where
  operation : McpOperationSnapshot
  requestAccepted : Bool
  alreadyTerminal : Bool

/-- How an executor has ended, after the checks on its result or its error. -/
inductive OperationEnd where
  | succeeded (result : McpTypedResult)
  | cancelled (error : McpOperationError)
  | failed (error : McpOperationError)

/-- What a notification tells about an operation. -/
structure OperationUpdate where
  sessionId : String
  operationId : String
  kind : McpOperationKind
  state : McpOperationState
  progress : McpOperationProgress
  sequence : Nat
deriving DecidableEq

inductive ServiceNotification where
  | operationUpdated (update : OperationUpdate)
  | subscriptionUpdated (sessionId subscriptionId : String) (item : McpEvidenceRecord)

/-- The session, the method and the identifier of a notification. -/
structure NotificationKey where
  sessionId : String
  aboutOperation : Bool
  identifier : String
deriving DecidableEq

def ServiceNotification.key : ServiceNotification → NotificationKey
  | .operationUpdated update => ⟨update.sessionId, true, update.operationId⟩
  | .subscriptionUpdated sessionId subscriptionId _ => ⟨sessionId, false, subscriptionId⟩

def ServiceNotification.sessionId : ServiceNotification → String
  | .operationUpdated update => update.sessionId
  | .subscriptionUpdated sessionId _ _ => sessionId

/-- Where the worker thread of an operation is. -/
inductive WorkerPlace where
  /-- The thread exists; its first critical section has not been entered. -/
  | starting
  | executing
  /-- An exception has left `RunOperation`. -/
  | escaping
  /-- Only `WorkerExited` is left to do. -/
  | leaving
  | exited
deriving DecidableEq

structure OperationRecord where
  snapshot : McpOperationSnapshot
  admissionSequence : Nat
  lastDeliveredSequence : Nat
  /-- Whether the record still holds the handle of its thread. -/
  worker : Bool
  place : WorkerPlace

structure SessionRecord where
  id : String
  activeOperations : Nat
  closing : Bool
  /-- The identity of the record: an identifier can be registered again. -/
  record : Nat

/-- Calls that have released the mutex and are still inside the service. -/
inductive ServiceCall where
  | request (sessionId : String)
  | wait (sessionId operationId : String)
  | poll (sessionId subscriptionId : String) (after limit : Nat) (followed : Bool)
  | removal (sessionId : String) (record : Nat)
deriving DecidableEq

inductive ServiceError where
  | shuttingDown
  | alreadyRegistered
  | sessionCapacity
  | unknownSession
  | sessionClosing
  | progressTotal
  | taskCapacity
  | admissionOverflow
  | retainedCapacity
  | sequenceOverflow
  | noThread
  | unknownOperation
  | progressEvicted
  | progressTerminal
  | progressRegress
  | progressExceeds
  | terminalImmutable
  | activeUnderflow
  | invalidSubscription
  | subscriptionCapacity
  | unknownSubscription
  | pollLimit
  | invalidRecord
  | subscriptionOverflow
  | notificationBound
  | lostQueueSlot
deriving DecidableEq

/-- What a session sees. -/
inductive Observation where
  | operation (answer : Except ServiceError McpOperationSnapshot)
  | waited (answer : Except ServiceError (Option McpOperationSnapshot))
  | cancellation (answer : Except ServiceError McpOperationCancellation)
  | subscription (answer : Except ServiceError McpSubscriptionSnapshot)
  | notified (notification : ServiceNotification)

/-- The thread that runs `DrainNotifications`. -/
inductive NotificationDelivery where
  | idle
  | taking
  | handling (notification : ServiceNotification)

inductive ShutdownPhase where
  | running
  /-- The operation whose worker called `Shutdown`, if one did, and the workers to join
  once they are known. -/
  | stopping (owner : Option String) (joining : Option (List String))
  | complete

structure ServiceConfig where
  maximumSessions : Nat
  maximumTasksPerSession : Nat
  maximumSubscriptionsPerSession : Nat
  maximumNotificationsPerSubscription : Nat
  maximumRetainedOperations : Nat
  maximumPollItems : Nat
  notificationHandler : Bool
  json : JsonText
  /-- Every limit is checked to be positive when the service is built. -/
  sessionsPositive : 0 < maximumSessions
  subscriptionsPositive : 0 < maximumSubscriptionsPerSession
  notificationsPositive : 0 < maximumNotificationsPerSubscription
  operationsPositive : 0 < maximumRetainedOperations
  pollsPositive : 0 < maximumPollItems

structure Service where
  sessions : List SessionRecord
  subscriptions : List SubscriptionRecord
  operations : List OperationRecord
  pending : List ServiceNotification
  delivery : NotificationDelivery
  calls : List ServiceCall
  nextStateSequence : Nat
  nextAdmissionSequence : Nat
  activeOperations : Nat
  accepting : Bool
  phase : ShutdownPhase
  nextRecord : Nat
  /-- For each finished removal, the record it held and the record that was stored. -/
  removals : List (Nat × Option Nat)
  observed : List (String × Observation)
  thrown : List ServiceError

def Service.empty : Service :=
  { sessions := []
    subscriptions := []
    operations := []
    pending := []
    delivery := .idle
    calls := []
    nextStateSequence := 1
    nextAdmissionSequence := 1
    activeOperations := 0
    accepting := true
    phase := .running
    nextRecord := 0
    removals := []
    observed := []
    thrown := [] }

end Data

section Lookup

def OperationRecord.id (r : OperationRecord) : String := r.snapshot.operationId

def OperationRecord.sessionId (r : OperationRecord) : String := r.snapshot.sessionId

def OperationRecord.isTerminal (r : OperationRecord) : Bool := r.snapshot.state.isTerminal

/-- The notification of the snapshot of an operation. -/
def OperationRecord.update (r : OperationRecord) : OperationUpdate :=
  { sessionId := r.snapshot.sessionId
    operationId := r.snapshot.operationId
    kind := r.snapshot.kind
    state := r.snapshot.state
    progress := r.snapshot.progress
    sequence := r.snapshot.sequence }

def Service.session? (s : Service) (id : String) : Option SessionRecord :=
  s.sessions.find? (·.id = id)

def Service.operation? (s : Service) (id : String) : Option OperationRecord :=
  s.operations.find? (·.id = id)

def Service.subscription? (s : Service) (sessionId id : String) : Option SubscriptionRecord :=
  s.subscriptions.find? fun r => r.sessionId = sessionId ∧ r.id = id

/-- The operation with the identifier, if it belongs to the session. -/
def Service.requireOperation (s : Service) (sessionId id : String) :
    Except ServiceError OperationRecord :=
  if (s.session? sessionId).isNone then .error .unknownSession
  else
    match s.operation? id with
    | none => .error .unknownOperation
    | some r => if r.sessionId = sessionId then .ok r else .error .unknownOperation

def Service.requireSubscription (s : Service) (sessionId id : String) :
    Except ServiceError SubscriptionRecord :=
  if (s.session? sessionId).isNone then .error .unknownSession
  else
    match s.subscription? sessionId id with
    | none => .error .unknownSubscription
    | some r => .ok r

def ServiceCall.pinsSession (id : String) : ServiceCall → Bool
  | .request sessionId => sessionId == id
  | .wait sessionId _ => sessionId == id
  | .poll sessionId _ _ _ _ => sessionId == id
  | .removal _ _ => false

def ServiceCall.pins : ServiceCall → Bool
  | .removal _ _ => false
  | _ => true

def ServiceCall.waitsFor (id : String) : ServiceCall → Bool
  | .wait _ operationId => operationId == id
  | _ => false

def ServiceCall.polls (sessionId id : String) : ServiceCall → Bool
  | .poll session subscriptionId _ _ _ => session == sessionId && subscriptionId == id
  | _ => false

end Lookup

section Sections

/-- What a critical section has made of the service, and the exception it ends with. -/
abbrev Section := Service × Option ServiceError

/-- Go on, unless an exception has been thrown. -/
def Section.andThen (x : Section) (f : Service → Section) : Section :=
  match x.2 with
  | none => f x.1
  | some _ => x

/-- The service after a section whose exception goes to the caller. -/
def Section.settle (x : Section) : Service :=
  match x.2 with
  | none => x.1
  | some e => { x.1 with thrown := x.1.thrown ++ [e] }

def Service.updateOperation (s : Service) (id : String)
    (f : OperationRecord → OperationRecord) : Service :=
  { s with operations := s.operations.map fun r => if r.id = id then f r else r }

def Service.updateSnapshot (s : Service) (id : String)
    (f : McpOperationSnapshot → McpOperationSnapshot) : Service :=
  s.updateOperation id fun r => { r with snapshot := f r.snapshot }

def Service.setPlace (s : Service) (id : String) (place : WorkerPlace) : Service :=
  s.updateOperation id fun r => { r with place := place }

def Service.updateSubscription (s : Service) (sessionId id : String)
    (f : SubscriptionRecord → SubscriptionRecord) : Service :=
  { s with
    subscriptions := s.subscriptions.map fun r =>
      if r.sessionId = sessionId ∧ r.id = id then f r else r }

def Service.observe (s : Service) (sessionId : String) (observation : Observation) : Service :=
  { s with observed := s.observed ++ [(sessionId, observation)] }

/-- Give the snapshot of an operation the next number. -/
def incrementSequence (id : String) (s : Service) : Section :=
  if s.nextStateSequence = maximumWord then (s, some .sequenceOverflow)
  else
    ({ s.updateSnapshot id fun x => { x with sequence := s.nextStateSequence } with
        nextStateSequence := s.nextStateSequence + 1 }, none)

def maximumPending (config : ServiceConfig) : Nat :=
  config.maximumRetainedOperations + config.maximumSessions * config.maximumSubscriptionsPerSession

/-- A notification with a key that does not wait yet goes to the end of the queue. -/
def pushNotification (config : ServiceConfig) (notification : ServiceNotification)
    (s : Service) : Section :=
  if s.pending.length = maximumPending config then (s, some .notificationBound)
  else ({ s with pending := s.pending ++ [notification] }, none)

/-- `QueueNotificationLocked` for an operation. -/
def queueOperationNotification (config : ServiceConfig) (id : String) (s : Service) : Section :=
  match s.operation? id with
  | none => (s, none)
  | some r =>
    if r.snapshot.sequence ≤ r.lastDeliveredSequence then (s, none)
    else if !config.notificationHandler then
      (s.updateOperation id fun r => { r with lastDeliveredSequence := r.snapshot.sequence }, none)
    else
      let notification := ServiceNotification.operationUpdated r.update
      match s.pending.find? (·.key = notification.key) with
      | some (.operationUpdated waiting) =>
        if r.snapshot.sequence ≤ waiting.sequence then (s, none)
        else
          -- The newer snapshot takes the entry, at the end of the queue.
          ({ s with
              pending := s.pending.filter (·.key ≠ notification.key) ++ [notification] },
            none)
      | _ => pushNotification config notification s

/-- `QueueNotificationLocked` for a record of a subscription. -/
def queueSubscriptionNotification (config : ServiceConfig) (sessionId id : String)
    (item : McpEvidenceRecord) (s : Service) : Section :=
  let notification := ServiceNotification.subscriptionUpdated sessionId id item
  if !config.notificationHandler then (s, none)
  else if s.pending.any (·.key = notification.key) then
    ({ s with
        pending := s.pending.map fun n =>
          if n.key = notification.key then notification else n }, none)
  else pushNotification config notification s

/-- A change of a snapshot that is not its end. -/
def changeOperation (config : ServiceConfig) (id : String)
    (f : McpOperationSnapshot → McpOperationSnapshot) (s : Service) : Section :=
  (incrementSequence id (s.updateSnapshot id f)).andThen (queueOperationNotification config id)

/-- The operation no longer counts as active. -/
def releaseOperation (sessionId : String) (s : Service) : Section :=
  match s.session? sessionId with
  | none => (s, some .unknownSession)
  | some r =>
    if r.activeOperations = 0 ∨ s.activeOperations = 0 then (s, some .activeUnderflow)
    else
      ({ s with
          sessions := s.sessions.map fun r =>
            if r.id = sessionId then { r with activeOperations := r.activeOperations - 1 }
            else r
          activeOperations := s.activeOperations - 1 }, none)

/-- The fields that the end of an operation sets. -/
def McpOperationSnapshot.ended (snapshot : McpOperationSnapshot) :
    OperationEnd → McpOperationSnapshot
  | .succeeded result =>
    { snapshot with
      state := .succeeded
      result := some result
      error := none
      progress := { snapshot.progress with completed := snapshot.progress.total }
      terminalResultFamily := result.family }
  | .cancelled error =>
    { snapshot with
      state := .cancelled
      cancelRequested := true
      result := none
      error := some error
      terminalResultFamily := .error }
  | .failed error =>
    { snapshot with
      state := .failed
      result := none
      error := some error
      terminalResultFamily := .error }

/-- `CompleteLocked`, with the notification that each of its callers queues. -/
def completeOperation (config : ServiceConfig) (id : String) (ending : OperationEnd)
    (s : Service) : Section :=
  match s.operation? id with
  | none => (s, none)
  | some r =>
    if r.isTerminal then (s, some .terminalImmutable)
    else
      ((incrementSequence id (s.updateSnapshot id (·.ended ending))).andThen
        (releaseOperation r.sessionId)).andThen (queueOperationNotification config id)

def McpOperationSnapshot.cancelling (snapshot : McpOperationSnapshot) : McpOperationSnapshot :=
  { snapshot with cancelRequested := true, state := .cancelling }

/-- One turn of the loops of `RemoveSession` and `Shutdown` over the operations. -/
def requestCancellation (config : ServiceConfig) (id : String) (s : Service) : Section :=
  match s.operation? id with
  | none => (s, none)
  | some r =>
    if r.isTerminal || r.snapshot.cancelRequested then (s, none)
    else changeOperation config id (·.cancelling) s

def requestCancellations (config : ServiceConfig) : List String → Service → Section
  | [], s => (s, none)
  | id :: ids, s => (requestCancellation config id s).andThen (requestCancellations config ids)

end Sections

section Sessions

def registerSession (config : ServiceConfig) (id : String) (s : Service) : Section :=
  if !s.accepting then (s, some .shuttingDown)
  else if (s.session? id).isSome then (s, some .alreadyRegistered)
  else if s.sessions.length ≥ config.maximumSessions then (s, some .sessionCapacity)
  else
    ({ s with
        sessions := s.sessions ++ [⟨id, 0, false, s.nextRecord⟩]
        nextRecord := s.nextRecord + 1 }, none)

/-- `RemoveSession` up to its wait. -/
def beginRemoval (config : ServiceConfig) (id : String) (s : Service) : Section :=
  match s.session? id with
  | none => (s, some .unknownSession)
  | some r =>
    let closing :=
      { s with
        sessions := s.sessions.map fun r => if r.id = id then { r with closing := true } else r }
    (requestCancellations config
      ((s.operations.filter (·.sessionId = id)).map (·.id)) closing).andThen fun s =>
        ({ s with
            subscriptions := s.subscriptions.map fun r =>
              if r.sessionId = id then { r with active := false } else r
            calls := s.calls ++ [.removal id r.record] }, none)

/-- The condition that the wait of `RemoveSession` is for. -/
def Service.sessionDrained (s : Service) (id : String) : Bool :=
  match s.session? id with
  | none => true
  | some r => r.activeOperations == 0 && !s.calls.any (·.pinsSession id)

/--
`RemoveSession` after its wait.  It goes on with the reference from before the wait.  What
a reference to an erased record reads is not defined: here it reads the record that is
stored under the identifier now, and `removals` notes which record the call held.
-/
def endRemoval (id : String) (record : Nat) (s : Service) : Service :=
  { s with
    operations := s.operations.map fun r =>
      if r.sessionId = id then { r with worker := false } else r
    pending := s.pending.filter fun n =>
      !(n.key.sessionId = id && !n.key.aboutOperation &&
        s.subscriptions.any fun r => r.sessionId = id && r.id = n.key.identifier)
    sessions := s.sessions.filter (·.id ≠ id)
    subscriptions := s.subscriptions.filter (·.sessionId ≠ id)
    calls := s.calls.erase (.removal id record)
    removals := s.removals ++ [(record, (s.session? id).map (·.record))] }

def beginRequest (id : String) (s : Service) : Section :=
  if !s.accepting then (s, some .shuttingDown)
  else
    match s.session? id with
    | none => (s, some .unknownSession)
    | some r =>
      if r.closing then (s, some .sessionClosing)
      else ({ s with calls := s.calls ++ [.request id] }, none)

end Sessions

section Operations

/-- Whether a retained operation may make room for a new one. -/
def Service.evictable (s : Service) (r : OperationRecord) : Bool :=
  r.isTerminal && !s.calls.any (·.waitsFor r.id) &&
    decide (r.snapshot.sequence ≤ r.lastDeliveredSequence)

/-- The oldest operation that may go. -/
def Service.oldestEvictable (s : Service) : Option OperationRecord :=
  (s.operations.filter s.evictable).foldl (fun oldest r =>
      match oldest with
      | none => some r
      | some o => if r.admissionSequence < o.admissionSequence then some r else some o)
    none

/-- Handles of threads that have finished are taken to be joined. -/
def collectFinishedWorkers (s : Service) : Service :=
  { s with
    operations := s.operations.map fun r =>
      if r.isTerminal && r.place = .exited then { r with worker := false } else r }

def evictTerminalOperation (config : ServiceConfig) (s : Service) : Section :=
  if s.operations.length ≠ config.maximumRetainedOperations then (s, none)
  else
    match s.oldestEvictable with
    | none => (s, some .retainedCapacity)
    | some oldest => ({ s with operations := s.operations.filter (·.id ≠ oldest.id) }, none)

def submittedOperation (id sessionId : String) (kind : McpOperationKind) (total : Nat)
    (sequence admissionSequence : Nat) : OperationRecord :=
  { snapshot :=
      { operationId := id
        sessionId := sessionId
        kind := kind
        state := .queued
        progress := ⟨0, total⟩
        cancelRequested := false
        terminalResultFamily := kind.resultFamily
        result := none
        error := none
        sequence := sequence }
    admissionSequence := admissionSequence
    lastDeliveredSequence := 0
    worker := true
    place := .starting }

/-- The new record, or nothing where its thread cannot be created. -/
def admitOperation (sessionId : String) (kind : McpOperationKind) (total : Nat)
    (id : String) (spawned : Bool) (s : Service) : Section :=
  if s.nextStateSequence = maximumWord then (s, some .sequenceOverflow)
  else
    let numbered :=
      { s with
        nextStateSequence := s.nextStateSequence + 1
        nextAdmissionSequence := s.nextAdmissionSequence + 1 }
    if spawned then
      ({ numbered with
          operations := s.operations ++
            [submittedOperation id sessionId kind total s.nextStateSequence s.nextAdmissionSequence]
          sessions := s.sessions.map fun r =>
            if r.id = sessionId then { r with activeOperations := r.activeOperations + 1 }
            else r
          activeOperations := s.activeOperations + 1 }, none)
    else (numbered, some .noThread)

def submit (config : ServiceConfig) (sessionId : String) (kind : McpOperationKind)
    (total : Nat) (id : String) (spawned : Bool) (s : Service) : Section :=
  if total = 0 then (s, some .progressTotal)
  else if !s.accepting then (s, some .shuttingDown)
  else
    match s.session? sessionId with
    | none => (s, some .unknownSession)
    | some r =>
      if r.closing then (s, some .sessionClosing)
      else if r.activeOperations ≥ config.maximumTasksPerSession then (s, some .taskCapacity)
      else if s.nextAdmissionSequence = maximumWord then (s, some .admissionOverflow)
      else
        (evictTerminalOperation config (collectFinishedWorkers s)).andThen
          (admitOperation sessionId kind total id spawned)

/-- The error of an operation that is cancelled before its executor is called. -/
def cancelledBeforeStart : McpOperationError :=
  { code := "cancelled"
    message := "operation cancelled before start"
    retryable := false
    diagnostics := [] }

/-- Where the worker goes after a critical section. -/
def Section.settleAt (x : Section) (id : String) (place : WorkerPlace) : Service :=
  match x.2 with
  | none => x.1.setPlace id place
  | some _ => x.settle.setPlace id .escaping

/-- The first critical section of `RunOperation`. -/
def startOperation (config : ServiceConfig) (r : OperationRecord) (s : Service) : Service :=
  if r.snapshot.cancelRequested then
    (completeOperation config r.id (.cancelled cancelledBeforeStart) s).settleAt r.id .leaving
  else
    (changeOperation config r.id (fun x => { x with state := .running }) s).settleAt r.id .executing

def reportProgress (config : ServiceConfig) (id : String) (completed : Nat) (s : Service) :
    Section :=
  match s.operation? id with
  | none => (s, some .progressEvicted)
  | some r =>
    if r.isTerminal then (s, some .progressTerminal)
    else if completed < r.snapshot.progress.completed then (s, some .progressRegress)
    else if completed > r.snapshot.progress.total then (s, some .progressExceeds)
    else if completed = r.snapshot.progress.completed then (s, none)
    else
      changeOperation config id
        (fun x => { x with progress := { x.progress with completed := completed } }) s

/-- The last critical section of `RunOperation`. -/
def finishOperation (config : ServiceConfig) (r : OperationRecord) (ending : OperationEnd)
    (s : Service) : Service :=
  (completeOperation config r.id ending s).settleAt r.id .leaving

/-- The error of a worker that an exception has ended. -/
def workerFailed : McpOperationError :=
  { code := "operation_failed"
    message := "operation worker failed at its thread boundary"
    retryable := false
    diagnostics := [] }

def failUnexpectedOperation (config : ServiceConfig) (r : OperationRecord) (s : Service) :
    Service :=
  let failed :=
    if r.isTerminal then s
    else (completeOperation config r.id (.failed workerFailed) s).settle
  failed.setPlace r.id .leaving

def getOperation (sessionId id : String) (s : Service) : Service :=
  s.observe sessionId (.operation ((s.requireOperation sessionId id).map (·.snapshot)))

def cancelOperation (config : ServiceConfig) (sessionId id : String) (s : Service) : Service :=
  match s.requireOperation sessionId id with
  | .error e => s.observe sessionId (.cancellation (.error e))
  | .ok r =>
    if r.isTerminal then s.observe sessionId (.cancellation (.ok ⟨r.snapshot, false, true⟩))
    else if r.snapshot.cancelRequested then
      s.observe sessionId (.cancellation (.ok ⟨r.snapshot, false, false⟩))
    else
      let changed := changeOperation config id (·.cancelling) s
      match changed.2, changed.1.operation? id with
      | some e, _ => changed.settle.observe sessionId (.cancellation (.error e))
      | none, none => changed.1
      | none, some r => changed.1.observe sessionId (.cancellation (.ok ⟨r.snapshot, true, false⟩))

def beginWait (sessionId id : String) (s : Service) : Service :=
  match s.requireOperation sessionId id with
  | .error e => s.observe sessionId (.waited (.error e))
  | .ok _ => { s with calls := s.calls ++ [.wait sessionId id] }

/-- A wait that is over: the operation has ended, or the time has. -/
def endWait (sessionId id : String) (timedOut : Bool) (s : Service) : Option Service :=
  let left := { s with calls := s.calls.erase (.wait sessionId id) }
  match s.requireOperation sessionId id with
  | .error e => some (left.observe sessionId (.waited (.error e)))
  | .ok r =>
    if r.isTerminal then some (left.observe sessionId (.waited (.ok (some r.snapshot))))
    else if timedOut then some (left.observe sessionId (.waited (.ok none)))
    else none

end Operations

section Subscribers

/-- The oldest subscription of the session that nobody needs. -/
def Service.oldestInactive (s : Service) (sessionId : String) : Option SubscriptionRecord :=
  (s.subscriptions.filter fun r =>
      r.sessionId = sessionId && !r.active && !s.calls.any (·.polls sessionId r.id)).foldl
    (fun oldest r =>
      match oldest with
      | none => some r
      | some o => if r.admissionSequence < o.admissionSequence then some r else some o)
    none

/-- A full session gives up its oldest inactive subscription. -/
def evictSubscription (config : ServiceConfig) (sessionId : String) (s : Service) : Section :=
  if s.subscriptions.countP (·.sessionId = sessionId) ≠ config.maximumSubscriptionsPerSession then
    (s, none)
  else
    match s.oldestInactive sessionId with
    | none => (s, some .subscriptionCapacity)
    | some oldest =>
      ({ s with
          pending := s.pending.filter (·.key ≠ ⟨sessionId, false, oldest.id⟩)
          subscriptions := s.subscriptions.filter fun r =>
            ¬ (r.sessionId = sessionId ∧ r.id = oldest.id) }, none)

def addSubscription (sessionId : String) (request : McpSubscriptionRequest)
    (id : String) (s : Service) : Section :=
  ({ s with
      subscriptions := s.subscriptions ++
        [createdSubscription id sessionId request s.nextAdmissionSequence]
      nextAdmissionSequence := s.nextAdmissionSequence + 1 }, none)

def admitSubscription (config : ServiceConfig) (sessionId : String)
    (request : McpSubscriptionRequest) (id : String) (s : Service) : Section :=
  if !request.valid then (s, some .invalidSubscription)
  else if !s.accepting then (s, some .shuttingDown)
  else
    match s.session? sessionId with
    | none => (s, some .unknownSession)
    | some r =>
      if r.closing then (s, some .sessionClosing)
      else if s.nextAdmissionSequence = maximumWord then (s, some .admissionOverflow)
      else (evictSubscription config sessionId s).andThen (addSubscription sessionId request id)

def createSubscription (config : ServiceConfig) (sessionId : String)
    (request : McpSubscriptionRequest) (id : String) (s : Service) : Service :=
  let admitted := admitSubscription config sessionId request id s
  match admitted.2 with
  | some e => admitted.settle.observe sessionId (.subscription (.error e))
  | none =>
    admitted.1.observe sessionId (.subscription (.ok
      ((createdSubscription id sessionId request s.nextAdmissionSequence).subscriptionSnapshot
        request.cursor config.maximumPollItems)))

def beginPoll (config : ServiceConfig) (sessionId id : String) (after limit : Nat)
    (followed : Bool) (s : Service) : Service :=
  if limit = 0 ∨ config.maximumPollItems < limit then
    s.observe sessionId (.subscription (.error .pollLimit))
  else
    match s.requireSubscription sessionId id with
    | .error e => s.observe sessionId (.subscription (.error e))
    | .ok _ => { s with calls := s.calls ++ [.poll sessionId id after limit followed] }

/-- A poll that is over: there is something behind its cursor, or the time is over. -/
def endPoll (sessionId id : String) (after limit : Nat) (followed : Bool) (s : Service) : Service :=
  let left := { s with calls := s.calls.erase (.poll sessionId id after limit followed) }
  match s.requireSubscription sessionId id with
  | .error e => left.observe sessionId (.subscription (.error e))
  | .ok r =>
    let page := r.subscriptionSnapshot after limit
    let followedUp :=
      if followed then left.updateSubscription sessionId id fun _ => r.follow page else left
    followedUp.observe sessionId (.subscription (.ok page))

def cancelSubscription (config : ServiceConfig) (sessionId id : String) (s : Service) : Service :=
  match s.requireSubscription sessionId id with
  | .error e => s.observe sessionId (.subscription (.error e))
  | .ok r =>
    let cancelled := { r with active := false }
    (s.updateSubscription sessionId id fun r => { r with active := false }).observe
      sessionId (.subscription (.ok
        (cancelled.subscriptionSnapshot (r.nextSequence - 1) config.maximumPollItems)))

def closeRunSubscriptions (runId : String) (s : Service) : Service :=
  { s with
    subscriptions := s.subscriptions.map fun r =>
      if r.runId = runId then { r with active := false } else r }

/-- The notifications of a record, in turn. -/
def queueRecords (config : ServiceConfig) (record : McpEvidenceRecord) :
    List SubscriptionRecord → Service → Section
  | [], s => (s, none)
  | r :: rs, s =>
    (queueSubscriptionNotification config r.sessionId r.id (r.numbered record) s).andThen
      (queueRecords config record rs)

def publish (config : ServiceConfig) (record : McpEvidenceRecord) (s : Service) : Section :=
  if !record.valid config.json then (s, some .invalidRecord)
  else if !s.accepting then (s, some .shuttingDown)
  else if s.subscriptions.any fun r =>
      r.receives record && r.nextSequence == maximumWord then
    (s, some .subscriptionOverflow)
  else
    queueRecords config record (s.subscriptions.filter (·.receives record))
      { s with
        subscriptions := s.subscriptions.map fun r =>
          if r.receives record then r.give config.maximumNotificationsPerSubscription record
          else r }

end Subscribers

section Notifications

def beginDrain (config : ServiceConfig) (s : Service) : Option Service :=
  match s.delivery with
  | .idle =>
    if config.notificationHandler && !s.pending.isEmpty then some { s with delivery := .taking }
    else none
  | _ => none

/-- An operation keeps its entry while the handler is called; a record does not. -/
def takeNotification (s : Service) : Option Service :=
  match s.delivery, s.pending with
  | .taking, [] => some { s with delivery := .idle }
  | .taking, .operationUpdated update :: _ =>
    some { s with delivery := .handling (.operationUpdated update) }
  | .taking, .subscriptionUpdated sessionId id item :: rest =>
    some { s with
      delivery := .handling (.subscriptionUpdated sessionId id item)
      pending := rest }
  | _, _ => none

/-- The handler has returned from an update of an operation. -/
def operationHandled (update : OperationUpdate) (failed : Bool) (s : Service) : Service :=
  let key := (ServiceNotification.operationUpdated update).key
  match s.pending.find? (·.key = key) with
  | none =>
    { s with
      delivery := .idle
      thrown := s.thrown ++ [.lostQueueSlot] }
  | some entry =>
    if failed then
      { s with
        pending := s.pending.filter (·.key ≠ key) ++ [entry]
        delivery := .idle }
    else
      let delivered :=
        s.updateOperation update.operationId fun r =>
          if r.sessionId = update.sessionId then
            { r with
              lastDeliveredSequence := max r.lastDeliveredSequence update.sequence }
          else r
      { delivered with
        pending :=
          match entry with
          | .operationUpdated waiting =>
            if waiting.sequence ≤ update.sequence then s.pending.filter (·.key ≠ key)
            else s.pending
          | .subscriptionUpdated _ _ _ => s.pending
        delivery := .taking }

def notificationHandled (failed : Bool) (s : Service) : Option Service :=
  match s.delivery with
  | .handling notification =>
    let seen :=
      if failed then s
      else s.observe notification.sessionId (.notified notification)
    match notification with
    | .operationUpdated update => some (operationHandled update failed seen)
    | .subscriptionUpdated _ _ _ => some { seen with delivery := .taking }
  | _ => none

end Notifications

section Stopping

/-- `Shutdown` up to the joins, by a worker of an operation or by another thread. -/
def beginShutdown (config : ServiceConfig) (owner : Option String) (s : Service) : Option Section :=
  match s.phase with
  | .running =>
    let stopping := { s with accepting := false, phase := .stopping owner none }
    some ((requestCancellations config (s.operations.map (·.id)) stopping).andThen fun s =>
      ({ s with
          phase := .stopping owner
            (some ((s.operations.filter fun r => r.worker && some r.id ≠ owner).map (·.id)))
          operations := s.operations.map fun r =>
            if some r.id = owner then r else { r with worker := false }
          subscriptions := s.subscriptions.map fun r => { r with active := false } },
        none))
  | _ => none

/-- The workers have been joined, and no call is left inside the service. -/
def Service.stopped (s : Service) (owner : Option String) (joining : List String) : Bool :=
  s.operations.all (fun r => !(joining.contains r.id || some r.id = owner) || r.place = .exited) &&
    !s.calls.any (·.pins)

def finalizeShutdown (s : Service) : Service :=
  { s with
    sessions := []
    subscriptions := []
    phase := .complete }

def finishShutdown (s : Service) : Option Service :=
  match s.phase with
  | .stopping owner (some joining) =>
    if s.stopped owner joining then some (finalizeShutdown s) else none
  | _ => none

end Stopping

section Machine

inductive ServiceAction where
  | registerSession (id : String)
  | beginRemoval (id : String)
  | endRemoval (id : String) (record : Nat)
  /-- The wait of a removal has timed out. -/
  | abandonRemoval (id : String) (record : Nat)
  | beginRequest (id : String)
  | endRequest (id : String)
  | submit (sessionId : String) (kind : McpOperationKind) (total : Nat) (id : String)
      (spawned : Bool)
  | startOperation (id : String)
  | reportProgress (id : String) (completed : Nat)
  | finishOperation (id : String) (ending : OperationEnd)
  /-- An exception leaves `RunOperation` outside of its critical sections. -/
  | escape (id : String)
  | failUnexpected (id : String)
  | exitWorker (id : String)
  | getOperation (sessionId id : String)
  | cancelOperation (sessionId id : String)
  | beginWait (sessionId id : String)
  | endWait (sessionId id : String) (timedOut : Bool)
  | createSubscription (sessionId : String) (request : McpSubscriptionRequest) (id : String)
  | beginPoll (sessionId id : String) (after limit : Nat) (followed : Bool)
  | endPoll (sessionId id : String) (after limit : Nat) (followed : Bool)
  | cancelSubscription (sessionId id : String)
  | closeRunSubscriptions (runId : String)
  | publish (record : McpEvidenceRecord)
  | beginDrain
  | takeNotification
  | notificationHandled (failed : Bool)
  | beginShutdown (owner : Option String)
  | finishShutdown

/-- The record of an operation whose worker is at a place. -/
def Service.workerAt (s : Service) (id : String) (places : List WorkerPlace) :
    Option OperationRecord :=
  (s.operation? id).filter (fun r => places.contains r.place)

/-- A random identifier is drawn again until no stored record has it. -/
def serviceStep (config : ServiceConfig) (s : Service) : ServiceAction → Option Service
  | .registerSession id => some (registerSession config id s).settle
  | .beginRemoval id => some (beginRemoval config id s).settle
  | .endRemoval id record =>
    if .removal id record ∈ s.calls ∧ s.sessionDrained id = true then some (endRemoval id record s)
    else none
  | .abandonRemoval id record =>
    if .removal id record ∈ s.calls then some { s with calls := s.calls.erase (.removal id record) }
    else none
  | .beginRequest id => some (beginRequest id s).settle
  | .endRequest id =>
    if .request id ∈ s.calls then some { s with calls := s.calls.erase (.request id) }
    else none
  | .submit sessionId kind total id spawned =>
    if (evictTerminalOperation config (collectFinishedWorkers s)).1.operations.any
        (·.id = id) then none
    else some (submit config sessionId kind total id spawned s).settle
  | .startOperation id => (s.workerAt id [.starting]).map fun r => startOperation config r s
  | .reportProgress id completed => some (reportProgress config id completed s).settle
  | .finishOperation id ending =>
    (s.workerAt id [.executing]).map fun r => finishOperation config r ending s
  | .escape id => (s.workerAt id [.starting, .executing]).map fun _ => s.setPlace id .escaping
  | .failUnexpected id =>
    (s.workerAt id [.escaping]).map fun r => failUnexpectedOperation config r s
  | .exitWorker id => (s.workerAt id [.leaving]).map fun _ => s.setPlace id .exited
  | .getOperation sessionId id => some (getOperation sessionId id s)
  | .cancelOperation sessionId id => some (cancelOperation config sessionId id s)
  | .beginWait sessionId id => some (beginWait sessionId id s)
  | .endWait sessionId id timedOut =>
    if .wait sessionId id ∈ s.calls then endWait sessionId id timedOut s else none
  | .createSubscription sessionId request id =>
    if (evictSubscription config sessionId s).1.subscriptions.any (·.id = id) then none
    else some (createSubscription config sessionId request id s)
  | .beginPoll sessionId id after limit followed =>
    some (beginPoll config sessionId id after limit followed s)
  | .endPoll sessionId id after limit followed =>
    if .poll sessionId id after limit followed ∈ s.calls then
      some (endPoll sessionId id after limit followed s)
    else none
  | .cancelSubscription sessionId id => some (cancelSubscription config sessionId id s)
  | .closeRunSubscriptions runId => some (closeRunSubscriptions runId s)
  | .publish record => some (publish config record s).settle
  | .beginDrain => beginDrain config s
  | .takeNotification => takeNotification s
  | .notificationHandled failed => notificationHandled failed s
  | .beginShutdown owner => (beginShutdown config owner s).map (·.settle)
  | .finishShutdown => finishShutdown s

def serviceMachine (config : ServiceConfig) : Machine Service ServiceAction := ⟨serviceStep config⟩

end Machine

end Bbp.Mcp
