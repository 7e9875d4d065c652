import Bbp.Simulator.LiveWalletWorkload

/-!
# Live block generation workloads

The worker of a live block generation workload generates one block after the other and
looks at the request of its record before each of them.  A control call leaves its
request in the record; only a call that cancels also stops the boundary under way.

Each action of the machine is one critical section of the record's mutex, or one call
that the worker makes outside of it: publishing the state, taking the mutation lock,
generating the block, publishing it and waiting for the other nodes.

An accepted pause or stop starts no boundary (`accepted_halt_starts_no_boundary`), unless the
worker is publishing a reconfiguration: it does not look at the request again afterwards.
-/

namespace Bbp.Simulator

open Library
open LiveWalletWorkloadRecord (isTerminalLiveWalletWorkloadState)

section State

/-- The field of the workload that the lifecycle reads. -/
structure BlockGenerationWorkload where
  count : Nat
deriving DecidableEq

/-- What the worker can catch. -/
inductive BlockGenerationException where
  | simulationCancelled
  | outcomeUnconfirmed (message : String)
  | error (message : String)
deriving DecidableEq

/-- Where the worker is. -/
inductive BlockGenerationPc where
  | head
  | pausing
  | pauseWait
  | reconfigured
  | publishing
  | locking
  | authorizing
  | generating
  | recording
  | publishingBoundary
  | synchronizing
  | completing
  | caught (exception : BlockGenerationException)
  | finalizing (cancelled : Bool) (state : LiveWalletWorkloadState) (outcome : String)
      (failure : Option String)
  | ending (state : LiveWalletWorkloadState) (outcome : String)
      (failure : Option String)
  | finished
deriving DecidableEq

structure LiveBlockGenerationWorkloadRecord where
  workload : BlockGenerationWorkload
  pendingWorkload : Option BlockGenerationWorkload := none
  state : LiveWalletWorkloadState := .starting
  request : LiveWalletWorkloadRequest := .none
  terminalOutcome : String := "none"
  failure : Option String := none
  configurationRevision : Nat := 1
  attempted : Nat := 0
  generated : Nat := 0
  completedBoundaries : Nat := 0
  failed : Nat := 0
  cancelled : Nat := 0
  generationOutcomeUnconfirmed : Bool := false
  boundaryMutationAdmitted : Bool := false
  boundaryStopRequested : Bool := false
  serviceStopRequested : Bool := false
  worker : BlockGenerationPc := .head
deriving DecidableEq

/-- How a call of the worker outside of the record's mutex ends. -/
abbrev CallResult := Except BlockGenerationException Unit

/-- A step of the worker, or a control call. -/
inductive BlockGenerationAction where
  | head
  | written (result : Except String Unit)
  | wake
  | call (result : CallResult)
  | authorize
  | record
  | complete
  | handle
  | finalize
  | terminate
  | pause
  | resume
  | stop (settle : Bool)
  | cancelStart
  | reconfigure (updated : BlockGenerationWorkload)
  | shutdown (runFailed : Bool)
  | stopService
deriving DecidableEq

end State

namespace LiveBlockGenerationWorkloadRecord

section Worker

def stopRequested (r : LiveBlockGenerationWorkloadRecord) : Bool :=
  r.serviceStopRequested || r.boundaryStopRequested

def throw (r : LiveBlockGenerationWorkloadRecord) (e : BlockGenerationException) :
    LiveBlockGenerationWorkloadRecord :=
  { r with worker := .caught e }

/-- The worker is going to set a terminal state. -/
def endWith (r : LiveBlockGenerationWorkloadRecord) (state : LiveWalletWorkloadState)
    (outcome : String) (failure : Option String) : LiveBlockGenerationWorkloadRecord :=
  { r with worker := .ending state outcome failure }

/-- The next boundary is admitted, unless enough of them are completed. -/
def admitAttempt (r : LiveBlockGenerationWorkloadRecord) : LiveBlockGenerationWorkloadRecord :=
  if r.workload.count ≤ r.completedBoundaries then r.endWith .completed "count_reached" none
  else if r.serviceStopRequested then
    endWith { r with request := .shutdown } .cancelled "cancelled" none
  else
    let publishes := r.state != .running
    let r := { r with boundaryStopRequested := false, state := .running }
    if r.attempted = 2 ^ 64 - 1 then
      r.throw (.error "block generation workload attempt count exceeds uint64")
    else
      { r with
        attempted := r.attempted + 1
        worker := if publishes then .publishing else .locking }

/-- The pending configuration becomes the current one. -/
def applyReconfiguration (r : LiveBlockGenerationWorkloadRecord) :
    LiveBlockGenerationWorkloadRecord :=
  match r.pendingWorkload with
  | none => r.throw (.error "block generation workload reconfigure has no configuration")
  | some workload =>
    if r.configurationRevision = 2 ^ 64 - 1 then
      r.throw (.error "block generation workload configuration revision exceeds uint64")
    else
      { r with
        workload, pendingWorkload := none
        configurationRevision := r.configurationRevision + 1
        request := .none, state := .starting, worker := .reconfigured }

/-- The worker looks at the request before a boundary. -/
def dispatch (r : LiveBlockGenerationWorkloadRecord) : LiveBlockGenerationWorkloadRecord :=
  match r.request with
  | .pause => { r with state := .paused, worker := .pausing }
  | .stopCancel | .stopSettle => r.endWith .stopped "stopped" none
  | .shutdown => r.endWith .cancelled "cancelled" none
  | .runFailure =>
    r.endWith .failed "failed" "run failed while block generation workload was active"
  | .reconfigure => r.applyReconfiguration
  | .none => r.admitAttempt

/-- The wait of a paused worker is over. -/
def wakeStep (r : LiveBlockGenerationWorkloadRecord) : Option LiveBlockGenerationWorkloadRecord :=
  if r.request ≠ .pause then some r.dispatch
  else if r.serviceStopRequested then
    some (dispatch { r with request := .shutdown, boundaryStopRequested := true })
  else none

/-- The state has been published, or could not be. -/
def writtenStep (r : LiveBlockGenerationWorkloadRecord) (result : Except String Unit) :
    Option LiveBlockGenerationWorkloadRecord :=
  match r.worker, result with
  | .pausing, .ok () => some { r with worker := .pauseWait }
  | .reconfigured, .ok () => some r.admitAttempt
  | .publishing, .ok () => some { r with worker := .locking }
  | .pausing, .error message => some (r.throw (.error message))
  | .reconfigured, .error message => some (r.throw (.error message))
  | .publishing, .error message => some (r.throw (.error message))
  | _, _ => none

/-- A call outside of the mutex ends; a cancellation is thrown only after a stop. -/
def callStep (r : LiveBlockGenerationWorkloadRecord) (result : CallResult) :
    Option LiveBlockGenerationWorkloadRecord :=
  match r.worker, result with
  | .locking, .ok () => some { r with worker := .authorizing }
  | .generating, .ok () => some { r with worker := .recording }
  | .publishingBoundary, .ok () => some { r with worker := .synchronizing }
  | .synchronizing, .ok () => some { r with worker := .completing }
  | .locking, .error e | .authorizing, .error e | .generating, .error e
  | .publishingBoundary, .error e | .synchronizing, .error e =>
    if e = .simulationCancelled ∧ r.stopRequested = false then none
    else some (r.throw e)
  | _, _ => none

/-- The generator asks whether it may still generate the block. -/
def authorizeStep (r : LiveBlockGenerationWorkloadRecord) : LiveBlockGenerationWorkloadRecord :=
  if r.stopRequested = true ∨ r.request = .stopCancel ∨ r.request = .shutdown ∨
      r.request = .runFailure then
    r.throw .simulationCancelled
  else if r.boundaryMutationAdmitted then
    r.throw (.error "block generation workload admitted one mutation twice")
  else { r with boundaryMutationAdmitted := true, worker := .generating }

/-- The handlers of the worker: which terminal state an exception leads to. -/
def handleStep (r : LiveBlockGenerationWorkloadRecord) :
    BlockGenerationException → LiveBlockGenerationWorkloadRecord
  | .simulationCancelled =>
    if r.request = .runFailure then
      { r with worker := .finalizing false .failed "failed"
                 "run failed while block generation workload was active" }
    else if r.request = .stopCancel ∨ r.request = .stopSettle then
      { r with worker := .finalizing true .stopped "stopped" none }
    else if r.request = .shutdown ∨ r.serviceStopRequested = true then
      { r with worker := .finalizing true .cancelled "cancelled" none }
    else
      { r with worker := .finalizing false .failed "failed"
                 "block generation workload execution was cancelled unexpectedly" }
  | .outcomeUnconfirmed message =>
    { r with
      generationOutcomeUnconfirmed := true
      worker := .finalizing false .failed "failed" message }
  | .error message => { r with worker := .finalizing false .failed "failed" message }

/-- An attempt that has not ended counts as cancelled or as failed. -/
def finalizeOutstandingAttempt (r : LiveBlockGenerationWorkloadRecord)
    (cancelled : Bool) : LiveBlockGenerationWorkloadRecord :=
  if r.attempted > r.completedBoundaries + r.failed + r.cancelled then
    if cancelled then { r with cancelled := r.cancelled + 1 }
    else { r with failed := r.failed + 1 }
  else r

def setTerminal (r : LiveBlockGenerationWorkloadRecord)
    (state : LiveWalletWorkloadState) (outcome : String) (failure : Option String) :
    LiveBlockGenerationWorkloadRecord :=
  { r with state, terminalOutcome := outcome, failure, worker := .finished }

end Worker

section Control

def pauseStep (r : LiveBlockGenerationWorkloadRecord) : LiveBlockGenerationWorkloadRecord :=
  if isTerminalLiveWalletWorkloadState r.state then r
  else if r.state = .paused ∨ r.state = .stopping then r
  else { r with request := .pause, state := .stopping }

def stopStep (r : LiveBlockGenerationWorkloadRecord) (settle : Bool) :
    LiveBlockGenerationWorkloadRecord :=
  if isTerminalLiveWalletWorkloadState r.state then r
  else if r.state = .stopping then r
  else
    { r with
      request := if settle then .stopSettle else .stopCancel
      state := .stopping
      boundaryStopRequested := r.boundaryStopRequested || !settle }

def resumeStep (r : LiveBlockGenerationWorkloadRecord) : LiveBlockGenerationWorkloadRecord :=
  if r.state = .paused then { r with request := .none, state := .starting } else r

/-- The call that starts the workload is cancelled while it waits. -/
def cancelStartStep (r : LiveBlockGenerationWorkloadRecord) : LiveBlockGenerationWorkloadRecord :=
  if r.state = .starting then { r with request := .stopCancel, boundaryStopRequested := true }
  else r

def reconfigureStep (r : LiveBlockGenerationWorkloadRecord)
    (updated : BlockGenerationWorkload) : LiveBlockGenerationWorkloadRecord :=
  if isTerminalLiveWalletWorkloadState r.state then r
  else if r.state = .stopping then r
  else if updated.count < r.attempted then r
  else if r.configurationRevision = 2 ^ 64 - 1 then r
  else if r.state = .paused then
    { r with
      workload := updated, configurationRevision := r.configurationRevision + 1 }
  else
    { r with
      pendingWorkload := some updated, request := .reconfigure, state := .stopping }

def shutdownStep (r : LiveBlockGenerationWorkloadRecord) (runFailed : Bool) :
    LiveBlockGenerationWorkloadRecord :=
  if isTerminalLiveWalletWorkloadState r.state then r
  else
    { r with
      state := .stopping
      request := if runFailed then .runFailure else .shutdown }

end Control

section Machine

/-- One step of the worker. -/
def workerStep (r : LiveBlockGenerationWorkloadRecord) :
    BlockGenerationAction → Option LiveBlockGenerationWorkloadRecord
  | .head =>
    if r.worker = .head then some (dispatch { r with boundaryMutationAdmitted := false })
    else none
  | .written result => r.writtenStep result
  | .wake => if r.worker = .pauseWait then r.wakeStep else none
  | .call result => r.callStep result
  | .authorize => if r.worker = .authorizing then some r.authorizeStep else none
  | .record =>
    if r.worker = .recording then
      some { r with generated := r.generated + 1, worker := .publishingBoundary }
    else none
  | .complete =>
    if r.worker = .completing then
      some { r with completedBoundaries := r.completedBoundaries + 1, worker := .head }
    else none
  | .handle =>
    match r.worker with
    | .caught e => some (r.handleStep e)
    | _ => none
  | .finalize =>
    match r.worker with
    | .finalizing cancelled state outcome failure =>
      some ((r.finalizeOutstandingAttempt cancelled).endWith state outcome failure)
    | _ => none
  | .terminate =>
    match r.worker with
    | .ending state outcome failure => some (r.setTerminal state outcome failure)
    | _ => none
  | _ => none

/-- One control call. -/
def controlStep (r : LiveBlockGenerationWorkloadRecord) :
    BlockGenerationAction → Option LiveBlockGenerationWorkloadRecord
  | .pause => some r.pauseStep
  | .resume => some r.resumeStep
  | .stop settle => some (r.stopStep settle)
  | .cancelStart => some r.cancelStartStep
  | .reconfigure updated => some (r.reconfigureStep updated)
  | .shutdown runFailed => some (r.shutdownStep runFailed)
  | .stopService => some { r with serviceStopRequested := true }
  | _ => none

end Machine

end LiveBlockGenerationWorkloadRecord

/-- Where the worker goes when a call that it makes succeeds. -/
def BlockGenerationPc.next : BlockGenerationPc → Option BlockGenerationPc
  | .pausing => some .pauseWait
  | .publishing => some .locking
  | .locking => some .authorizing
  | .generating => some .recording
  | .publishingBoundary => some .synchronizing
  | .synchronizing => some .completing
  | _ => none

/-- The places at which the worker makes a call that may throw. -/
def BlockGenerationPc.mayThrow : BlockGenerationPc → Bool
  | .pausing | .reconfigured | .publishing | .locking | .authorizing | .generating
  | .publishingBoundary | .synchronizing => true
  | _ => false

namespace LiveBlockGenerationWorkloadRecord

section Moves

variable {r t : LiveBlockGenerationWorkloadRecord} {a : BlockGenerationAction}

/-- What a step of the worker can do. -/
inductive WorkerMove (r : LiveBlockGenerationWorkloadRecord) :
    LiveBlockGenerationWorkloadRecord → Prop where
  | look (worker : r.worker = .head) :
      WorkerMove r (dispatch { r with boundaryMutationAdmitted := false })
  | wake (worker : r.worker = .pauseWait) (request : r.request ≠ .pause) : WorkerMove r r.dispatch
  | interrupt (worker : r.worker = .pauseWait) (request : r.request = .pause) :
      WorkerMove r (dispatch { r with request := .shutdown, boundaryStopRequested := true })
  | attempt (worker : r.worker = .reconfigured) : WorkerMove r r.admitAttempt
  | goOn {worker : BlockGenerationPc} (next : r.worker.next = some worker) :
      WorkerMove r { r with worker }
  | throw (e : BlockGenerationException) (worker : r.worker.mayThrow = true) :
      WorkerMove r (r.throw e)
  | authorize (worker : r.worker = .authorizing) (first : r.boundaryMutationAdmitted = false) :
      WorkerMove r { r with boundaryMutationAdmitted := true, worker := .generating }
  | record (worker : r.worker = .recording) :
      WorkerMove r { r with generated := r.generated + 1, worker := .publishingBoundary }
  | complete (worker : r.worker = .completing) :
      WorkerMove r { r with completedBoundaries := r.completedBoundaries + 1, worker := .head }
  | handle {e : BlockGenerationException} (worker : r.worker = .caught e)
      (unconfirmed cancelled : Bool) {state : LiveWalletWorkloadState}
      (terminal : isTerminalLiveWalletWorkloadState state = true) (outcome : String)
      (failure : Option String) :
      WorkerMove r
        { r with
          generationOutcomeUnconfirmed := unconfirmed
          worker := .finalizing cancelled state outcome failure }
  | finalize {cancelled : Bool} {state : LiveWalletWorkloadState} {outcome : String}
      {failure : Option String} (worker : r.worker = .finalizing cancelled state outcome failure) :
      WorkerMove r ((r.finalizeOutstandingAttempt cancelled).endWith state outcome failure)
  | terminate {state : LiveWalletWorkloadState} {outcome : String} {failure : Option String}
      (worker : r.worker = .ending state outcome failure) :
      WorkerMove r (r.setTerminal state outcome failure)

/-- What a control call can do. -/
inductive ControlMove (r : LiveBlockGenerationWorkloadRecord) (a : BlockGenerationAction) :
    LiveBlockGenerationWorkloadRecord → Prop where
  | refuse : ControlMove r a r
  | accept {request : LiveWalletWorkloadRequest} {stop : Bool}
      (pendingWorkload : Option BlockGenerationWorkload)
      (live : isTerminalLiveWalletWorkloadState r.state ≠ true) (requested : request ≠ .none)
      (pause : request = .pause → a = .pause)
      (still : request = .pause ∨ request = .reconfigure →
        r.state ≠ .paused ∧ r.state ≠ .stopping)
      (kept : r.boundaryStopRequested = true → stop = true) :
      ControlMove r a
        { r with request, pendingWorkload, boundaryStopRequested := stop, state := .stopping }
  | resume (action : a = .resume) (state : r.state = .paused) :
      ControlMove r a { r with request := .none, state := .starting }
  | cancelStart (state : r.state = .starting) :
      ControlMove r a { r with request := .stopCancel, boundaryStopRequested := true }
  | reconfigure (workload : BlockGenerationWorkload) (revision : Nat) :
      ControlMove r a { r with workload, configurationRevision := revision }
  | stopService : ControlMove r a { r with serviceStopRequested := true }

theorem handleStep_move {e : BlockGenerationException} (hworker : r.worker = .caught e) :
    WorkerMove r (r.handleStep e) := by
  cases e with
  | simulationCancelled =>
    simp only [handleStep]
    split_ifs
    all_goals exact .handle hworker _ _ rfl _ _
  | outcomeUnconfirmed | error => exact .handle hworker _ _ rfl _ _

theorem writtenStep_move {result : Except String Unit} (h : r.writtenStep result = some t) :
    WorkerMove r t := by
  unfold writtenStep at h
  split at h
  case h_2 hworker =>
    cases h
    exact .attempt hworker
  case h_7 => cases h
  all_goals
    rename_i hworker
    cases h
  · exact .goOn (by rw [hworker]; rfl)
  · exact .goOn (by rw [hworker]; rfl)
  all_goals exact .throw _ (by rw [hworker]; rfl)

theorem callStep_move {result : CallResult} (h : r.callStep result = some t) : WorkerMove r t := by
  unfold callStep at h
  split at h
  case h_10 => cases h
  all_goals rename_i hworker
  case h_1 | h_2 | h_3 | h_4 =>
    cases h
    exact .goOn (by rw [hworker]; rfl)
  all_goals
    split at h <;> cases h
    exact .throw _ (by rw [hworker]; rfl)

theorem workerStep_move (h : r.workerStep a = some t) : WorkerMove r t := by
  unfold workerStep at h
  split at h
  case h_2 => exact writtenStep_move h
  case h_4 => exact callStep_move h
  case h_11 => cases h
  all_goals
    split at h
    rotate_left
    · cases h
    rename_i hworker
  case h_3.isTrue =>
    unfold wakeStep at h
    split at h
    next hrequest =>
      cases h
      exact .wake hworker hrequest
    rename_i hrequest
    split at h <;> cases h
    exact .interrupt hworker (not_not.mp hrequest)
  all_goals cases h
  case h_1.isTrue => exact .look hworker
  case h_5.isTrue =>
    unfold authorizeStep
    split
    · exact .throw _ (by rw [hworker]; rfl)
    split
    · exact .throw _ (by rw [hworker]; rfl)
    next hfirst => exact .authorize hworker (Bool.eq_false_of_not_eq_true hfirst)
  case h_6.isTrue => exact .record hworker
  case h_7.isTrue => exact .complete hworker
  · exact handleStep_move hworker
  · exact .finalize hworker
  · exact .terminate hworker

theorem controlStep_move (h : r.controlStep a = some t) : ControlMove r a t := by
  unfold controlStep at h
  split at h <;> cases h
  case h_1 =>
    unfold pauseStep
    split
    · exact .refuse
    rename_i hlive
    split
    · exact .refuse
    next hstill => exact .accept _ hlive nofun (fun _ => rfl) (fun _ => not_or.mp hstill) id
  case h_2 =>
    unfold resumeStep
    split
    next hstate => exact .resume rfl hstate
    · exact .refuse
  case h_3 settle =>
    unfold stopStep
    split
    · exact .refuse
    rename_i hlive
    split
    · exact .refuse
    · cases settle
      all_goals
        exact .accept _ hlive nofun nofun (by rintro (h | h) <;> cases h) (by simp +contextual)
  case h_4 =>
    unfold cancelStartStep
    split
    next hstate => exact .cancelStart hstate
    · exact .refuse
  case h_5 updated =>
    unfold reconfigureStep
    split
    · exact .refuse
    rename_i hlive
    split
    · exact .refuse
    rename_i hstopping
    split
    · exact .refuse
    split
    · exact .refuse
    split
    · exact .reconfigure _ _
    next hpaused => exact .accept _ hlive nofun nofun (fun _ => ⟨hpaused, hstopping⟩) id
  case h_6 runFailed =>
    unfold shutdownStep
    split
    · exact .refuse
    next hlive =>
      cases runFailed
      all_goals exact .accept _ hlive nofun nofun (by rintro (h | h) <;> cases h) id
  case h_7 => exact .stopService

end Moves

end LiveBlockGenerationWorkloadRecord

/-- The worker's own actions. -/
def BlockGenerationAction.isWorker : BlockGenerationAction → Bool
  | .head | .written _ | .wake | .call _ | .authorize | .record | .complete
  | .handle | .finalize | .terminate => true
  | _ => false

/-- The worker of a record and its control calls. -/
def blockGenerationMachine :
    Machine LiveBlockGenerationWorkloadRecord BlockGenerationAction where
  step r a := if a.isWorker then r.workerStep a else r.controlStep a

section Halting

variable {r t : LiveBlockGenerationWorkloadRecord} {a : BlockGenerationAction} {n : Nat}
  {cancel : Bool}

/-- The steps until a resume is accepted. -/
def unresumedMachine : Machine LiveBlockGenerationWorkloadRecord BlockGenerationAction where
  step r a := if a = .resume ∧ r.state = .paused then none else blockGenerationMachine.step r a

/-- A pause or a stop sets its request. -/
def AcceptsHalt (r : LiveBlockGenerationWorkloadRecord) (a : BlockGenerationAction) : Prop :=
  isTerminalLiveWalletWorkloadState r.state = false ∧ r.state ≠ .stopping ∧
    (a = .pause ∧ r.state ≠ .paused ∨ a = .stop false ∨ a = .stop true)

namespace LiveBlockGenerationWorkloadRecord

/-- The request that the worker finds at its next look does not let it go on. -/
structure Waits (cancel : Bool) (r : LiveBlockGenerationWorkloadRecord) : Prop where
  request : r.request ≠ .none ∧ r.request ≠ .reconfigure
  worker : r.worker ≠ .reconfigured
  state : r.state = .stopping ∨ r.state = .paused ∨
    isTerminalLiveWalletWorkloadState r.state = true
  final : cancel = true → r.request ≠ .pause ∧ r.state ≠ .paused

structure Halted (n : Nat) (cancel : Bool) (r : LiveBlockGenerationWorkloadRecord) : Prop where
  attempted : r.attempted = n
  token : cancel = true → r.boundaryStopRequested = true
  waits : r.worker = .finished ∨ r.Waits cancel

theorem blockGenerationMachine_move (h : blockGenerationMachine.step r a = some t) :
    WorkerMove r t ∨ ControlMove r a t := by
  simp only [blockGenerationMachine] at h
  split at h
  · exact .inl (workerStep_move h)
  · exact .inr (controlStep_move h)

theorem Waits.frame (h : r.Waits cancel) (hrequest : t.request = r.request)
    (hstate : t.state = r.state) (hplace : t.worker ≠ .reconfigured) : t.Waits cancel :=
  ⟨hrequest ▸ h.request, hplace, hstate ▸ h.state, hrequest ▸ hstate ▸ h.final⟩

/-- A worker that has to wait is not asked to go on but by a resume. -/
theorem Halted.control (h : r.Halted n cancel) (hmove : ControlMove r a t)
    (hresume : r.Waits cancel → a = .resume → r.state ≠ .paused) : t.Halted n cancel := by
  cases hmove with
  | refuse => exact h
  | @accept request _ _ hlive hrequested _ hstill hkept =>
    refine ⟨h.attempted, fun hcancel => hkept (h.token hcancel), h.waits.imp_right fun hwaits => ?_⟩
    have hstates := hwaits.state
    have hnew : ¬(request = .pause ∨ request = .reconfigure) := fun hask => by
      have hbefore := hstill hask
      tauto
    exact ⟨⟨hrequested, fun hask => hnew (.inr hask)⟩, hwaits.worker, .inl rfl,
      fun _ => ⟨fun hask => hnew (.inl hask), nofun⟩⟩
  | resume haction hstate =>
    exact ⟨h.attempted, h.token, h.waits.imp_right fun hwaits =>
      absurd hstate (hresume hwaits haction)⟩
  | cancelStart hstate =>
    refine ⟨h.attempted, fun _ => rfl, h.waits.imp_right fun hwaits => ?_⟩
    have hstates := hwaits.state
    rw [hstate] at hstates
    exact absurd hstates (by decide)
  | reconfigure _ _ | stopService =>
    exact ⟨h.attempted, h.token, h.waits.imp_right fun hwaits => hwaits.frame rfl rfl hwaits.worker⟩

/-- A look at the request does not let the worker go on. -/
theorem Waits.dispatch (hwaits : r.Waits cancel) (hattempted : r.attempted = n)
    (htoken : cancel = true → r.boundaryStopRequested = true) : r.dispatch.Halted n cancel := by
  unfold LiveBlockGenerationWorkloadRecord.dispatch
  split
  next hrequest =>
    exact ⟨hattempted, htoken, .inr ⟨hwaits.request, nofun, .inr (.inl rfl),
      fun hcancel => absurd hrequest (hwaits.final hcancel).1⟩⟩
  case h_6 hrequest => exact absurd hrequest hwaits.request.2
  case h_7 hrequest => exact absurd hrequest hwaits.request.1
  all_goals exact ⟨hattempted, htoken, .inr (hwaits.frame rfl rfl nofun)⟩

theorem Halted.work (h : r.Halted n cancel) (hmove : WorkerMove r t) : t.Halted n cancel := by
  have hopen : r.worker ≠ .finished := by
    intro hfinished
    cases hmove <;> simp_all [BlockGenerationPc.next, BlockGenerationPc.mayThrow]
  have hwaits := h.waits.resolve_left hopen
  cases hmove with
  | look _ => exact Waits.dispatch (hwaits.frame rfl rfl hwaits.worker) h.attempted h.token
  | wake _ _ => exact hwaits.dispatch h.attempted h.token
  | interrupt _ _ =>
    refine Waits.dispatch ⟨⟨nofun, nofun⟩, hwaits.worker, hwaits.state, fun hcancel => ?_⟩
      h.attempted fun _ => rfl
    exact ⟨nofun, (hwaits.final hcancel).2⟩
  | attempt hworker => exact absurd hworker hwaits.worker
  | goOn hnext =>
    refine ⟨h.attempted, h.token, .inr (hwaits.frame rfl rfl ?_)⟩
    rintro rfl
    cases hworker : r.worker <;> rw [hworker] at hnext <;> cases hnext
  | finalize _ =>
    unfold finalizeOutstandingAttempt
    split_ifs
    all_goals exact ⟨h.attempted, h.token, .inr (hwaits.frame rfl rfl nofun)⟩
  | terminate _ => exact ⟨h.attempted, h.token, .inl rfl⟩
  | throw _ _ | authorize _ _ | record _ | complete _ | handle _ _ _ _ _ _ =>
    exact ⟨h.attempted, h.token, .inr (hwaits.frame rfl rfl nofun)⟩

theorem Halted.step (h : r.Halted n cancel) (hstep : blockGenerationMachine.step r a = some t)
    (hresume : r.Waits cancel → a = .resume → r.state ≠ .paused) : t.Halted n cancel := by
  rcases blockGenerationMachine_move hstep with hmove | hmove
  · exact h.work hmove
  · exact h.control hmove hresume

theorem Halted.of_accepted (haccepts : AcceptsHalt r a) (hwindow : r.worker ≠ .reconfigured)
    (hstep : blockGenerationMachine.step r a = some t) (hcancel : cancel = true → a = .stop false) :
    t.Halted t.attempted cancel := by
  obtain ⟨hactive, hstill, ⟨rfl, hrunning⟩ | rfl | rfl⟩ := haccepts
  · obtain rfl : r.pauseStep = t := Option.some.inj hstep
    simp only [pauseStep, hactive, hstill, hrunning, or_self, if_false, Bool.false_eq_true]
    exact ⟨rfl, fun h => (nomatch hcancel h),
      .inr ⟨⟨nofun, nofun⟩, hwindow, .inl rfl, fun h => (nomatch hcancel h)⟩⟩
  all_goals
    obtain rfl : r.stopStep _ = t := Option.some.inj hstep
    simp only [stopStep, hactive, hstill, if_false, if_true, Bool.false_eq_true]
    refine ⟨rfl, fun h => ?_, .inr ⟨⟨nofun, nofun⟩, hwindow, .inl rfl, fun _ => ⟨nofun, nofun⟩⟩⟩
  · exact Bool.or_true _
  · cases hcancel h

end LiveBlockGenerationWorkloadRecord

/-- Unless the worker is publishing a reconfiguration, an accepted pause or stop lets no
boundary start until a resume is accepted, and the token of a cancelled one stays stopped. -/
theorem accepted_halt_starts_no_boundary (haccepts : AcceptsHalt r a)
    (hwindow : r.worker ≠ .reconfigured) (hstep : blockGenerationMachine.step r a = some t) :
    (∀ actions u, unresumedMachine.run t actions = some u → u.attempted = t.attempted) ∧
      (a = .stop false → ∀ actions u, blockGenerationMachine.run t actions = some u →
        u.stopRequested = true) := by
  constructor
  · intro actions u hrun
    have hhalted : t.Halted t.attempted false := .of_accepted haccepts hwindow hstep nofun
    refine (unresumedMachine.run_preserves (fun v b w hmoved hv => ?_) hrun hhalted).attempted
    obtain ⟨hresume, hmoved⟩ := Option.ite_none_left_eq_some.mp hmoved
    exact hv.step hmoved fun _ hb hpaused => hresume ⟨hb, hpaused⟩
  · rintro hstop actions u hrun
    have hhalted : t.Halted t.attempted true := .of_accepted haccepts hwindow hstep fun _ => hstop
    have hkept := blockGenerationMachine.run_preserves (fun v b w hmoved hv => ?_) hrun hhalted
    · exact Bool.or_eq_true_iff.mpr (.inr (hkept.token rfl))
    · exact hv.step hmoved fun hwaits _ => (hwaits.final rfl).2

/-- A boundary that waits for the mutation lock when it is cancelled is the last one. -/
theorem cancelled_boundary_is_last :
    let r : LiveBlockGenerationWorkloadRecord :=
      { workload := ⟨2⟩, state := .running, attempted := 1, worker := .locking }
    blockGenerationMachine.run { workload := ⟨2⟩ } [.head, .written (.ok ())] = some r ∧
      (∀ actions u, unresumedMachine.run (r.stopStep false) actions = some u → u.attempted = 1) ∧
      ∀ actions u, blockGenerationMachine.run (r.stopStep false) actions = some u →
        u.stopRequested = true := by
  intro r
  obtain ⟨hlast, htoken⟩ := @accepted_halt_starts_no_boundary r _ (.stop false)
    ⟨rfl, nofun, .inr (.inl rfl)⟩ nofun rfl
  exact ⟨rfl, hlast, htoken rfl⟩

/-- A stop accepted while the worker publishes a reconfiguration is lost on the next boundary. -/
theorem reconfiguration_loses_stop : ∃ (before after : List BlockGenerationAction)
    (r t u : LiveBlockGenerationWorkloadRecord),
    blockGenerationMachine.run { workload := ⟨2⟩ } before = some r ∧ AcceptsHalt r (.stop false) ∧
      blockGenerationMachine.step r (.stop false) = some t ∧ unresumedMachine.run t after = some u ∧
      u.attempted = t.attempted + 1 ∧ u.worker = .locking ∧ u.stopRequested = false := by
  refine ⟨[.head, .written (.ok ()), .reconfigure ⟨2⟩, .call (.ok ()), .authorize, .call (.ok ()),
    .record, .call (.ok ()), .call (.ok ()), .complete, .head],
    [.written (.ok ()), .written (.ok ())], _, _, _, rfl, ?_, rfl, rfl, rfl, rfl, rfl⟩
  exact ⟨rfl, nofun, .inr (.inl rfl)⟩

end Halting

end Bbp.Simulator
