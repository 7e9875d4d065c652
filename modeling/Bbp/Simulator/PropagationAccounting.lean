import Bbp.Library.Transition
import Bbp.Library.Custody
import Bbp.Simulator.TransactionObservationStore
import Bbp.Simulator.LoadConfirmation

/-!
# Counting the transactions that every node has seen

Load workers submit transactions, track them in the observation store and record
their outcome.  Observers report to the store which nodes see and confirm a tracked
transaction, and the store passes the report on to the shared confirmation, which
counts the transaction once its last node has seen or confirmed it.  Workers and
observers interleave, and an observer does its two parts under different mutexes.

A worker tracks a transaction before it records that it was submitted.  A report
that comes in between can find the counter of propagated transactions level with
that of submitted ones; then the accounting throws, and if the entry is retired
with that report the transaction is never counted (`early_report_is_lost`).

In a run in which the last report of a transaction comes after its outcome is
recorded nothing is thrown, and once everything has come to rest the two counters
are exact (`propagation_is_exact`).
-/

namespace Bbp.Simulator

open Library TransactionObservationStore Function List
open TransactionObservationStore

section System

/-- A load transaction: its shared confirmation, and the log of its reports. -/
structure LoadTransaction where
  confirmation : TransactionLoadConfirmation
  txid : String
  required : Finset String
  counted : Bool := false
  visibleReports : Finset String := ∅
  confirmedReports : Finset String := ∅
deriving DecidableEq

namespace LoadTransaction

/-- Its worker has recorded that it was submitted. -/
def count (tx : LoadTransaction) : LoadTransaction := { tx with counted := true }

/-- A node has reported it while it was tracked. -/
def report (nodeId : String) (confirmed : Bool) (tx : LoadTransaction) : LoadTransaction :=
  { tx with
    visibleReports := insert nodeId tx.visibleReports
    confirmedReports :=
      if confirmed then insert nodeId tx.confirmedReports
      else tx.confirmedReports }

def setConfirmation (confirmation : TransactionLoadConfirmation) (tx : LoadTransaction) :
    LoadTransaction :=
  { tx with confirmation }

end LoadTransaction

/-- Where a load worker is between two tasks. -/
inductive SubmitterPc where
  | idle
  | reserved (r : TransactionObservationStore.Reservation) (required : List String)
  | tracking (r : TransactionObservationStore.Reservation) (required : List String) (ref : Nat)
  | submitted (ref : Nat)
  | failed (outcome : TransactionLoadOutcome)
      (held : Option TransactionObservationStore.Reservation)
  | ending (held : Option TransactionObservationStore.Reservation)
  | exited
deriving DecidableEq

/-- Between the mutex of the store and that of the confirmation. -/
inductive ObserverPc where
  | idle
  | recording (ref : Nat) (txid nodeId : String) (confirmed : Bool)
deriving DecidableEq

/-- What `Record` throws. -/
inductive RecordError where
  | store (e : ObservationError)
  | confirmation (e : ConfirmationError)
deriving DecidableEq

variable (κ ι : Type)

structure PropagationState where
  store : TransactionObservationStore
  transactions : List LoadTransaction := []
  accounting : TransactionLoadSnapshot := {}
  workers : κ → SubmitterPc := fun _ => .idle
  observers : ι → ObserverPc := fun _ => .idle
  thrown : List RecordError := []

inductive SubmitterInput where
  | skip (outcome : TransactionLoadOutcome)
  | reserve (observable : List String)
  | submit (answer : Except TransactionLoadOutcome String)
      (observable : List String)
  | track (workloadId : String)
  | record (latency : Nat)
  | finish

inductive ObserverInput where
  | record (txid nodeId : String) (visible confirmed : Bool)
  | observe

inductive PropagationAction where
  | worker (w : κ) (input : SubmitterInput)
  | observer (o : ι) (input : ObserverInput)
  | cancelWorkload (workloadId : String)

variable {κ ι}

namespace PropagationState

section Workers

variable [DecidableEq κ]

def moveWorker (s : PropagationState κ ι) (w : κ) (pc : SubmitterPc) : PropagationState κ ι :=
  { s with workers := update s.workers w pc }

/-- The destructor of a reservation that was not used. -/
def release (s : PropagationState κ ι) :
    Option TransactionObservationStore.Reservation → Option (PropagationState κ ι)
  | none => some s
  | some r =>
    match s.store.releaseReservation r with
    | none => none
    | some store => some { s with store }

/-- Note which nodes can be observed, and reserve room in the store. -/
def reserveStep (s : PropagationState κ ι) (w : κ) (observable : List String) :
    PropagationState κ ι :=
  if observable = [] then s.moveWorker w (.failed .failed none)
  else
    let (result, store) := s.store.tryReserve 1
    let pc : SubmitterPc :=
      match result with
      | .error _ => .failed .failed none
      | .ok none => .failed .backpressured none
      | .ok (some r) => .reserved r observable
    moveWorker { s with store } w pc

/-- The confirmation of a transaction that the driver has submitted. -/
def makeConfirmation (txid : String) (observable : List String) :
    Option TransactionLoadConfirmation :=
  if txid = "" then none
  else
    match expectedTransactionLoadObservations txid observable with
    | .error _ => none
    | .ok expected => (TransactionLoadConfirmation.create expected).toOption

/-- The driver answers, and the nodes that can be observed are read again. -/
def submitStep (s : PropagationState κ ι) (w : κ) (r : TransactionObservationStore.Reservation)
    (required : List String) (answer : Except TransactionLoadOutcome String)
    (observable : List String) : Option (PropagationState κ ι) :=
  match answer with
  | .error outcome =>
    if outcome = .submitted then none
    else some (s.moveWorker w (.failed outcome (some r)))
  | .ok txid =>
    match makeConfirmation txid observable with
    | none => some (s.moveWorker w (.failed .failed (some r)))
    | some confirmation =>
      let transaction : LoadTransaction := { confirmation, txid, required := required.toFinset }
      some (moveWorker
        { s with transactions := s.transactions ++ [transaction] } w
        (.tracking r required s.transactions.length))

/-- From here on the transaction can be observed. -/
def trackStep (s : PropagationState κ ι) (w : κ) (r : TransactionObservationStore.Reservation)
    (required : List String) (ref : Nat) (workloadId : String) : Option (PropagationState κ ι) :=
  match s.transactions[ref]? with
  | none => none
  | some transaction =>
    match s.store.commitReservation r
        [{ txid := transaction.txid, workloadId, loadConfirmation := some ref }]
        required with
    | (.error _, r, store) =>
      (release { s with store } (some r)).map fun s => s.moveWorker w (.failed .failed none)
    | (.ok (), _, store) => some (moveWorker { s with store } w (.submitted ref))

/-- Count the outcome of a task that was not submitted. -/
def recordFailureStep (s : PropagationState κ ι) (w : κ) (outcome : TransactionLoadOutcome)
    (held : Option TransactionObservationStore.Reservation) (latency : Nat) :
    Option (PropagationState κ ι) :=
  match s.accounting.recordOutcome outcome latency with
  | .error _ => (s.release held).map fun s => s.moveWorker w .exited
  | .ok accounting => some (moveWorker { s with accounting } w (.ending held))

/-- Count a submitted transaction. -/
def recordSubmittedStep (s : PropagationState κ ι) (w : κ) (ref : Nat) (latency : Nat) :
    PropagationState κ ι :=
  match s.accounting.recordOutcome .submitted latency with
  | .error _ => s.moveWorker w .exited
  | .ok accounting =>
    moveWorker
      { s with
        accounting
        transactions := s.transactions.modify ref LoadTransaction.count }
      w (.ending none)

def workerStep (s : PropagationState κ ι) (w : κ) : SubmitterInput → Option (PropagationState κ ι)
  | .skip outcome =>
    match s.workers w with
    | .idle =>
      if outcome = .submitted then none
      else some (s.moveWorker w (.failed outcome none))
    | _ => none
  | .reserve observable =>
    match s.workers w with
    | .idle => some (s.reserveStep w observable)
    | _ => none
  | .submit answer observable =>
    match s.workers w with
    | .reserved r required => s.submitStep w r required answer observable
    | _ => none
  | .track workloadId =>
    match s.workers w with
    | .tracking r required ref => s.trackStep w r required ref workloadId
    | _ => none
  | .record latency =>
    match s.workers w with
    | .failed outcome held => s.recordFailureStep w outcome held latency
    | .submitted ref => some (s.recordSubmittedStep w ref latency)
    | _ => none
  | .finish =>
    match s.workers w with
    | .ending held => (s.release held).map fun s => s.moveWorker w .idle
    | _ => none

end Workers

section Observers

variable [DecidableEq ι]

def moveObserver (s : PropagationState κ ι) (o : ι) (pc : ObserverPc) : PropagationState κ ι :=
  { s with observers := update s.observers o pc }

/-- A visible report of a transaction that is tracked is logged, whatever comes of it. -/
def logReport (s : PropagationState κ ι) (txid nodeId : String) (visible confirmed : Bool) :
    List LoadTransaction :=
  match (s.store.trackedEntry txid).bind (·.transaction.loadConfirmation) with
  | none => s.transactions
  | some ref =>
    if visible then s.transactions.modify ref (LoadTransaction.report nodeId confirmed)
    else s.transactions

/-- The part of `Record` under the mutex of the store. -/
def recordStep (s : PropagationState κ ι) (o : ι) (txid nodeId : String)
    (visible confirmed : Bool) : PropagationState κ ι :=
  let (result, store) := s.store.record txid nodeId visible confirmed
  let s := { s with store, transactions := s.logReport txid nodeId visible confirmed }
  match result with
  | .error e => { s with thrown := s.thrown ++ [.store e] }
  | .ok (_, none) => s
  | .ok (_, some ref) => s.moveObserver o (.recording ref txid nodeId confirmed)

/-- The part of `Record` under the mutex of the confirmation. -/
def observeStep (s : PropagationState κ ι) (o : ι) (ref : Nat) (txid nodeId : String)
    (confirmed : Bool) : Option (PropagationState κ ι) :=
  match s.transactions[ref]? with
  | none => none
  | some transaction =>
    let (result, confirmation, accounting) :=
      transaction.confirmation.recordObservation s.accounting txid nodeId confirmed
    let s := moveObserver
      { s with
        accounting
        transactions := s.transactions.modify ref (LoadTransaction.setConfirmation confirmation) }
      o .idle
    match result with
    | .error e => some { s with thrown := s.thrown ++ [.confirmation e] }
    | .ok _ => some s

def observerStep (s : PropagationState κ ι) (o : ι) : ObserverInput → Option (PropagationState κ ι)
  | .record txid nodeId visible confirmed =>
    match s.observers o with
    | .idle => some (s.recordStep o txid nodeId visible confirmed)
    | .recording .. => none
  | .observe =>
    match s.observers o with
    | .idle => none
    | .recording ref txid nodeId confirmed => s.observeStep o ref txid nodeId confirmed

end Observers

variable [DecidableEq κ] [DecidableEq ι]

def step (s : PropagationState κ ι) : PropagationAction κ ι → Option (PropagationState κ ι)
  | .worker w input => s.workerStep w input
  | .observer o input => s.observerStep o input
  | .cancelWorkload workloadId => some { s with store := (s.store.cancelWorkload workloadId).2 }

/-- No worker has a task, and no observer is inside `Record`. -/
def Quiescent (s : PropagationState κ ι) : Prop :=
  (∀ w, s.workers w = .idle) ∧ ∀ o, s.observers o = .idle

end PropagationState

variable (κ ι) [DecidableEq κ] [DecidableEq ι] in
/-- Load workers and observers that share a store and an accounting. -/
def propagationMachine : Machine (PropagationState κ ι) (PropagationAction κ ι) where
  step := PropagationState.step

end System

namespace PropagationState

variable {κ ι : Type}

section Failing

/-- The only node reports the transaction before its outcome is recorded. -/
def earlyReport : List (PropagationAction Unit Unit) :=
  [.worker () (.reserve ["node-1"]), .worker () (.submit (.ok "tx") ["node-1"]),
    .worker () (.track "load"), .observer () (.record "tx" "node-1" true true),
    .observer () .observe, .worker () (.record 5), .worker () .finish,
    .observer () (.record "tx" "node-1" true true)]

/--
The report is thrown away: at rest the transaction is submitted and its only
required node has reported it as visible and confirmed, but it is not counted.
-/
theorem early_report_is_lost :
    ∃ t,
      (propagationMachine Unit Unit).run { store := { capacity := 4 } } earlyReport = some t ∧
      t.Quiescent ∧
      t.thrown = [.confirmation (.accounting .propagatedExceedsSubmitted)] ∧
      t.accounting.submitted = 1 ∧
      t.transactions.countP (fun tx =>
        tx.counted && decide (tx.required ⊆ tx.confirmedReports)) = 1 ∧
      t.accounting.propagated = 0 ∧ t.accounting.confirmed = 0 :=
  ⟨_, rfl, ⟨fun _ => rfl, fun _ => rfl⟩, rfl, rfl, by decide, rfl, rfl⟩

end Failing

section Condition

/-- The report of this node is the last one the confirmation waits for. -/
def lastReport (tx : LoadTransaction) (nodeId : String) : Bool :=
  insert (tx.txid, nodeId) tx.confirmation.visibleObservations =
    tx.confirmation.expectedObservations

/--
Reports are visible ones of required nodes, a transaction is submitted while the
same nodes can be observed as when its room was reserved, counters have room, and
the last report of a transaction comes after its outcome is recorded.
-/
def orderly (s : PropagationState κ ι) : PropagationAction κ ι → Bool
  | .worker w (.submit _ observable) =>
    match s.workers w with
    | .reserved _ required => observable.toFinset = required.toFinset
    | _ => true
  | .worker _ (.record latency) => s.accounting.HasRoom latency
  | .observer _ (.record txid nodeId visible confirmed) =>
    (!confirmed || visible) && decide s.store.RecordRoom &&
      s.store.requires txid nodeId
  | .observer o .observe =>
    match s.observers o with
    | .recording ref _ nodeId _ =>
      decide (s.accounting.revision < 2 ^ 64 - 1) &&
        s.transactions[ref]?.all fun tx => !lastReport tx nodeId || tx.counted
    | .idle => true
  | _ => true

end Condition

section Invariant

/-- The transaction a worker is about to track or to count. -/
def pendingRef : SubmitterPc → Option Nat
  | .tracking _ _ ref => some ref
  | .submitted ref => some ref
  | _ => none

/-- Some observer is on its way to the confirmation with this report. -/
def Reporting (observers : ι → ObserverPc) (ref : Nat) (nodeId : String) (confirmed : Bool) :
    Prop :=
  ∃ o txid, observers o = .recording ref txid nodeId confirmed

/-- The confirmation knows every report that is not on its way to it. -/
structure Traced
    (observers : ι → ObserverPc) (ref : Nat) (tx : LoadTransaction) : Prop where
  exact : tx.confirmation.Exact
  expected : ∀ key, key ∈ tx.confirmation.expectedObservations ↔
    key.1 = tx.txid ∧ key.2 ∈ tx.required
  visible : ∀ n, n ∈ tx.visibleReports ↔ (tx.txid, n) ∈ tx.confirmation.visibleObservations ∨
      ∃ confirmed, Reporting observers ref n confirmed
  confirmed : ∀ n, n ∈ tx.confirmedReports ↔ (tx.txid, n) ∈ tx.confirmation.confirmedObservations ∨
      Reporting observers ref n true
  counted : tx.confirmation.propagationRecorded = true → tx.counted = true

/-- What every state of an orderly run satisfies. -/
structure Inv (s : PropagationState κ ι) : Prop where
  indexed : s.store.Indexed
  entries : ∀ e, e ∈ s.store.entries → ∀ ref, e.2.transaction.loadConfirmation = some ref →
      ∃ tx, s.transactions[ref]? = some tx ∧
        tx.txid = e.2.transaction.txid ∧ tx.required = e.2.requiredNodeIds
  traced : ∀ ref tx, s.transactions[ref]? = some tx → Traced s.observers ref tx
  observing : ∀ o ref txid nodeId confirmed, s.observers o = .recording ref txid nodeId confirmed →
      ∃ tx, s.transactions[ref]? = some tx ∧ tx.txid = txid ∧ nodeId ∈ tx.required
  holding : ∀ w ref, pendingRef (s.workers w) = some ref →
    ∃ tx, s.transactions[ref]? = some tx ∧ tx.counted = false
  apart : ∀ w w' ref, pendingRef (s.workers w) = some ref →
    pendingRef (s.workers w') = some ref → w = w'
  tracking : ∀ w r required ref, s.workers w = .tracking r required ref →
    ∀ tx, s.transactions[ref]? = some tx → tx.required = required.toFinset
  failing : ∀ w outcome held, s.workers w = .failed outcome held → outcome ≠ .submitted
  submitted : s.accounting.submitted = s.transactions.countP (·.counted)
  propagated : s.accounting.propagated = s.transactions.countP (·.confirmation.propagationRecorded)
  confirmed : s.accounting.confirmed = s.transactions.countP (·.confirmation.confirmationRecorded)
  bound : s.accounting.submitted ≤ 2 ^ 64 - 1
  thrown : s.thrown = []

variable {s t : PropagationState κ ι} {observers : ι → ObserverPc} {tx : LoadTransaction}
  {store : TransactionObservationStore} {ref : Nat} {txid nodeId : String}

/-- A report on its way is one that has just started, or was on its way before. -/
theorem reporting_start [DecidableEq ι] {o : ι} {confirmed : Bool} (hidle : observers o = .idle)
    (ref' : Nat) (n : String) (c : Bool) :
    Reporting (update observers o (.recording ref txid nodeId confirmed))
        ref' n c ↔
      (ref' = ref ∧ n = nodeId ∧ c = confirmed) ∨ Reporting observers ref' n c := by
  constructor
  · rintro ⟨o', txid', hrecording⟩
    rcases update_cases (P := (· = _)) hrecording with ⟨-, hnew⟩ | ⟨-, hold⟩
    · cases hnew
      exact .inl ⟨rfl, rfl, rfl⟩
    · exact .inr ⟨o', txid', hold⟩
  · rintro (⟨rfl, rfl, rfl⟩ | ⟨o', txid', hrecording⟩)
    · exact ⟨o, txid, update_self ..⟩
    · refine ⟨o', txid', ?_⟩
      rw [update_of_ne]
      · exact hrecording
      · rintro rfl
        rw [hidle] at hrecording
        cases hrecording

/-- The report of an observer arrives, and all others stay on their way. -/
theorem reporting_end [DecidableEq ι] {o : ι} {confirmed : Bool}
    (hrecording : observers o = .recording ref txid nodeId confirmed) (ref' : Nat) (n : String)
    (c : Bool) :
    Reporting observers ref' n c ↔
      (ref' = ref ∧ n = nodeId ∧ c = confirmed) ∨
        Reporting (update observers o .idle) ref' n c := by
  have hstart := @reporting_start ι (update observers o .idle) ref txid nodeId _ o confirmed
    (update_self ..) ref' n c
  rw [update_idem, ← hrecording, update_eq_self] at hstart
  exact hstart

/-- Entries that stem from entries of the store before keep what they stand for. -/
theorem entries_of_shrinks (h : s.Inv) (hstore : Shrinks s.store store) :
    ∀ e ∈ store.entries, ∀ ref,
      e.2.transaction.loadConfirmation = some ref →
        ∃ tx, s.transactions[ref]? = some tx ∧
          tx.txid = e.2.transaction.txid ∧ tx.required = e.2.requiredNodeIds := by
  intro e he ref href
  obtain ⟨e', he', _, htransaction, hrequired⟩ := hstore.entries e he
  rw [htransaction] at href ⊢
  rw [hrequired]
  exact h.entries e' he' ref href

theorem release_shrinks {held : Option TransactionObservationStore.Reservation}
    (h : s.release held = some t) : ∃ store, t = { s with store } ∧ Shrinks s.store store := by
  cases held with
  | none =>
    cases h
    exact ⟨s.store, rfl, .of_eq rfl rfl rfl⟩
  | some r =>
    simp only [release] at h
    split at h <;> cases h
    rename_i store hrelease
    exact ⟨store, rfl, releaseReservation_shrinks hrelease⟩

theorem lt_of_reporting {n : String} {c : Bool} (h : s.Inv)
    (hreporting : Reporting s.observers ref n c) : ref < s.transactions.length := by
  obtain ⟨o, txid, hrecording⟩ := hreporting
  obtain ⟨tx, htx, _⟩ := h.observing o ref txid n c hrecording
  exact (List.getElem?_eq_some_iff.mp htx).1

/-- The accounting lags behind by the transactions that are not complete yet. -/
theorem admits_of_inv (h : s.Inv) (htx : s.transactions[ref]? = some tx)
    (hlast : lastReport tx nodeId = true → tx.counted = true) :
    tx.confirmation.Admits { s.accounting with revision := 0 } (tx.txid, nodeId) := by
  have hmem : tx ∈ s.transactions := mem_of_getElem? htx
  have htraced : ∀ tx' ∈ s.transactions, ∃ ref', Traced s.observers ref' tx' := by
    intro tx' htx'
    obtain ⟨ref', hlt, hget⟩ := List.getElem_of_mem htx'
    exact ⟨ref', h.traced ref' tx' (List.getElem?_eq_some_iff.mpr ⟨hlt, hget⟩)⟩
  have hconfirmed : ∀ tx' ∈ s.transactions, tx'.confirmation.confirmationRecorded = true →
      tx'.confirmation.propagationRecorded = true := by
    intro tx' htx' hrecorded
    obtain ⟨ref', htraced'⟩ := htraced tx' htx'
    exact htraced'.exact.confirmation_le hrecorded
  have hcounted : ∀ tx' ∈ s.transactions,
      tx'.confirmation.propagationRecorded = true → tx'.counted = true := by
    intro tx' htx' hrecorded
    obtain ⟨ref', htraced'⟩ := htraced tx' htx'
    exact htraced'.counted hrecorded
  refine ⟨by simp, h.bound, ⟨?_, ?_⟩, ?_, ?_⟩
  · rw [h.confirmed, h.propagated]
    exact countP_mono_left hconfirmed
  · rw [h.propagated, h.submitted]
    exact countP_mono_left hcounted
  · intro hopen hfull
    rw [h.propagated, h.submitted]
    exact countP_lt_countP_of_mem hcounted hmem hopen (hlast (decide_eq_true hfull))
  · intro hpropagated hopen
    rw [h.confirmed, h.propagated]
    exact countP_lt_countP_of_mem hconfirmed hmem hopen hpropagated

/--
One transaction changes, and with it the counters of the accounting by what its
flags have changed.
-/
theorem Inv.updateTransaction (f : LoadTransaction → LoadTransaction) (h : s.Inv)
    (htx : s.transactions[ref]? = some tx)
    (hf : ∀ tx, (f tx).txid = tx.txid ∧ (f tx).required = tx.required)
    (hstore : Shrinks s.store t.store)
    (htransactions : t.transactions = s.transactions.modify ref f)
    (hworkers : t.workers = s.workers) (hthrown : t.thrown = s.thrown)
    (htraced : ∀ (ref' : Nat) (tx' : LoadTransaction),
      s.transactions[ref']? = some tx' →
        Traced t.observers ref' (if ref = ref' then f tx' else tx'))
    (hobserving : ∀ o ref' txid nodeId confirmed,
      t.observers o = .recording ref' txid nodeId confirmed →
        ∃ tx', s.transactions[ref']? = some tx' ∧ tx'.txid = txid ∧ nodeId ∈ tx'.required)
    (hpending : ∀ w, pendingRef (s.workers w) = some ref → (f tx).counted = tx.counted)
    (hsubmitted : t.accounting.submitted + tx.counted.toNat =
      s.accounting.submitted + (f tx).counted.toNat) (hbound : t.accounting.submitted ≤ 2 ^ 64 - 1)
    (hpropagated : t.accounting.propagated +
        tx.confirmation.propagationRecorded.toNat =
      s.accounting.propagated + (f tx).confirmation.propagationRecorded.toNat)
    (hconfirmed : t.accounting.confirmed +
        tx.confirmation.confirmationRecorded.toNat =
      s.accounting.confirmed + (f tx).confirmation.confirmationRecorded.toNat) : t.Inv := by
  have hkept : ∀ (ref' : Nat) (tx' : LoadTransaction), s.transactions[ref']? = some tx' →
      ∃ tx'', t.transactions[ref']? = some tx'' ∧
        tx''.txid = tx'.txid ∧ tx''.required = tx'.required := by
    intro ref' tx' htx'
    rw [htransactions]
    refine ⟨_, getElem?_modify_eq_some_iff.mpr ⟨tx', htx', rfl⟩, ?_⟩
    split
    · exact hf tx'
    · exact ⟨rfl, rfl⟩
  refine
    { indexed := hstore.indexed h.indexed, entries := ?_, traced := ?_
      observing := ?_, holding := ?_, apart := ?_, tracking := ?_, failing := ?_
      submitted := ?_, propagated := ?_, confirmed := ?_, bound := hbound
      thrown := hthrown.trans h.thrown }
  · intro e he ref' href'
    obtain ⟨tx', htx', htxid, hrequired⟩ := entries_of_shrinks h hstore e he ref' href'
    obtain ⟨tx'', htx'', htxid', hrequired'⟩ := hkept ref' tx' htx'
    exact ⟨tx'', htx'', htxid'.trans htxid, hrequired'.trans hrequired⟩
  · intro ref' tx'' htx''
    rw [htransactions] at htx''
    obtain ⟨tx', htx', rfl⟩ := getElem?_modify_eq_some_iff.mp htx''
    exact htraced ref' tx' htx'
  · intro o ref' txid nodeId confirmed ho
    obtain ⟨tx', htx', htxid, hnode⟩ := hobserving o ref' txid nodeId confirmed ho
    obtain ⟨tx'', htx'', htxid', hrequired'⟩ := hkept ref' tx' htx'
    exact ⟨tx'', htx'', htxid'.trans htxid, by rw [hrequired']; exact hnode⟩
  · intro w ref' hw
    rw [hworkers] at hw
    obtain ⟨tx', htx', huncounted⟩ := h.holding w ref' hw
    rw [htransactions]
    refine ⟨_, getElem?_modify_eq_some_iff.mpr ⟨tx', htx', rfl⟩, ?_⟩
    split
    next hsame =>
      subst hsame
      rw [htx] at htx'
      cases htx'
      exact (hpending w hw).trans huncounted
    · exact huncounted
  · rw [hworkers]
    exact h.apart
  · intro w r required ref' hw tx'' htx''
    rw [hworkers] at hw
    rw [htransactions] at htx''
    obtain ⟨tx', htx', rfl⟩ := getElem?_modify_eq_some_iff.mp htx''
    have hrequired := h.tracking w r required ref' hw tx' htx'
    split
    · exact (hf tx').2.trans hrequired
    · exact hrequired
  · rw [hworkers]
    exact h.failing
  · have hcount := countP_modify_add (p := (·.counted)) htx f
    have hbefore := h.submitted
    rw [htransactions]
    omega
  · have hcount := countP_modify_add (p := (·.confirmation.propagationRecorded)) htx f
    have hbefore := h.propagated
    rw [htransactions]
    omega
  · have hcount := countP_modify_add (p := (·.confirmation.confirmationRecorded)) htx f
    have hbefore := h.confirmed
    rw [htransactions]
    omega

section Workers

variable [DecidableEq κ] {w : κ} {required observable : List String}
  {r : TransactionObservationStore.Reservation}
variable (h : s.Inv)

include h

/-- A worker goes on, and holds no transaction that it did not hold before. -/
theorem Inv.moveWorker {pc : SubmitterPc} (hstore : Shrinks s.store store)
    (href : ∀ ref, pendingRef pc = some ref → pendingRef (s.workers w) = some ref)
    (htracking : ∀ r required ref, pc ≠ .tracking r required ref)
    (hfailing : ∀ outcome held, pc = .failed outcome held → outcome ≠ .submitted) :
    Inv { s with store, workers := update s.workers w pc } := by
  have hrefs : ∀ w' ref, pendingRef (update s.workers w pc w') = some ref →
      pendingRef (s.workers w') = some ref := by
    intro w' ref hw'
    rcases update_cases (P := (pendingRef · = some ref)) hw' with ⟨rfl, hnew⟩ | ⟨-, hw'⟩
    · exact href ref hnew
    · exact hw'
  have hentries := entries_of_shrinks h hstore
  refine
    { h with
      indexed := hstore.indexed h.indexed
      entries := hentries
      holding := fun w' ref hw' => h.holding w' ref (hrefs w' ref hw')
      apart := fun w₁ w₂ ref h₁ h₂ => h.apart w₁ w₂ ref (hrefs w₁ ref h₁) (hrefs w₂ ref h₂)
      tracking := ?_, failing := ?_ }
  · intro w' r required ref hw'
    rcases update_cases (P := (· = _)) hw' with ⟨-, hw'⟩ | ⟨-, hw'⟩
    · exact absurd hw' (htracking r required ref)
    · exact h.tracking w' r required ref hw'
  · intro w' outcome held hw'
    rcases update_cases (P := (· = _)) hw' with ⟨-, hw'⟩ | ⟨-, hw'⟩
    · exact hfailing outcome held hw'
    · exact h.failing w' outcome held hw'

/-- A worker that holds no transaction any more. -/
theorem Inv.leave {pc : SubmitterPc} (hstore : Shrinks s.store store) (hpc : pendingRef pc = none)
    (hfailing : ∀ outcome held, pc = .failed outcome held → outcome ≠ .submitted) :
    Inv { s with store, workers := update s.workers w pc } := by
  refine h.moveWorker hstore ?_ ?_ hfailing
  · intro ref href
    rw [hpc] at href
    cases href
  · rintro r required ref rfl
    cases hpc

theorem reserveStep_inv (observable : List String) : Inv (s.reserveStep w observable) := by
  have hstore := tryReserve_shrinks (s := s.store) 1
  simp only [reserveStep]
  split
  · refine h.leave (.of_eq rfl rfl rfl) rfl ?_
    rintro outcome held ⟨⟩
    decide
  refine h.leave hstore ?_ ?_
  · split <;> rfl
  · intro outcome held
    split
    · rintro ⟨⟩
      decide
    · rintro ⟨⟩
      decide
    · rintro ⟨⟩

omit h in
theorem makeConfirmation_traced {confirmation : TransactionLoadConfirmation}
    (hmade : makeConfirmation txid observable = some confirmation)
    (hsame : observable.toFinset = required.toFinset)
    (hquiet : ∀ n c, ¬ Reporting observers ref n c) :
    Traced observers ref
      { confirmation, txid, required := required.toFinset } ∧
    confirmation.propagationRecorded = false ∧
    confirmation.confirmationRecorded = false := by
  simp only [makeConfirmation] at hmade
  split at hmade
  · cases hmade
  split at hmade
  · cases hmade
  rename_i expected hexpected
  obtain ⟨hfresh, hexact⟩ := TransactionLoadConfirmation.create_exact (eq_ok_of_toOption hmade)
  simp only [expectedTransactionLoadObservations] at hexpected
  split at hexpected <;> cases hexpected
  refine ⟨⟨hexact, ?_, ?_, ?_, ?_⟩, ?_, ?_⟩
  · rintro ⟨txid', nodeId⟩
    rw [hfresh, ← hsame]
    simp only [mem_toFinset, mem_map, Prod.mk.injEq]
    constructor
    · rintro ⟨n, hn, rfl, rfl⟩
      exact ⟨rfl, hn⟩
    · rintro ⟨rfl, hn⟩
      exact ⟨nodeId, hn, rfl, rfl⟩
  · intro n
    simp [hfresh, hquiet]
  · intro n
    simp [hfresh, hquiet]
  · simp [hfresh]
  · rw [hfresh]
  · rw [hfresh]

/-- A new transaction starts without reports and is not counted. -/
theorem newTransaction_inv (htraced : Traced s.observers s.transactions.length tx)
    (hrequired : tx.required = required.toFinset) (hcounted : tx.counted = false)
    (hpropagation : tx.confirmation.propagationRecorded = false)
    (hconfirmation : tx.confirmation.confirmationRecorded = false) :
    Inv
      { s with
        transactions := s.transactions ++ [tx]
        workers := update s.workers w (.tracking r required s.transactions.length) } := by
  have hold : ∀ (ref : Nat) (tx' : LoadTransaction),
      s.transactions[ref]? = some tx' → (s.transactions ++ [tx])[ref]? = some tx' := by
    intro ref tx' htx'
    rw [List.getElem?_append_left (List.getElem?_eq_some_iff.mp htx').1]
    exact htx'
  have hcases : ∀ (ref : Nat) (tx' : LoadTransaction), (s.transactions ++ [tx])[ref]? = some tx' →
      s.transactions[ref]? = some tx' ∨ ref = s.transactions.length ∧ tx' = tx := by
    intro ref tx' htx'
    rw [List.getElem?_append] at htx'
    split at htx'
    · exact .inl htx'
    next hlength =>
      right
      rw [getElem?_singleton] at htx'
      split at htx'
      · cases htx'
        exact ⟨by omega, rfl⟩
      · cases htx'
  have hbelow : ∀ w' ref, pendingRef (s.workers w') = some ref → ref < s.transactions.length := by
    intro w' ref hw'
    obtain ⟨tx', htx', _⟩ := h.holding w' ref hw'
    exact (List.getElem?_eq_some_iff.mp htx').1
  have hpending : ∀ w' ref, pendingRef
      (update s.workers w (.tracking r required s.transactions.length) w') = some ref →
      w' = w ∧ ref = s.transactions.length ∨ pendingRef (s.workers w') = some ref := by
    intro w' ref hw'
    rcases update_cases (P := (pendingRef · = some ref)) hw' with ⟨rfl, hnew⟩ | ⟨-, hw'⟩
    · exact .inl ⟨rfl, (Option.some.inj hnew).symm⟩
    · exact .inr hw'
  refine
    { h with
      entries := ?_, traced := ?_, observing := ?_, holding := ?_, apart := ?_
      tracking := ?_, failing := ?_, submitted := ?_, propagated := ?_
      confirmed := ?_ }
  · intro e he ref href
    obtain ⟨tx', htx', hsame⟩ := h.entries e he ref href
    exact ⟨tx', hold ref tx' htx', hsame⟩
  · intro ref tx' htx'
    rcases hcases ref tx' htx' with htx' | ⟨rfl, rfl⟩
    · exact h.traced ref tx' htx'
    · exact htraced
  · intro o ref txid nodeId confirmed ho
    obtain ⟨tx', htx', hsame⟩ := h.observing o ref txid nodeId confirmed ho
    exact ⟨tx', hold ref tx' htx', hsame⟩
  · intro w' ref hw'
    rcases hpending w' ref hw' with ⟨-, rfl⟩ | hw'
    · exact ⟨tx, by simp, hcounted⟩
    · obtain ⟨tx', htx', hsame⟩ := h.holding w' ref hw'
      exact ⟨tx', hold ref tx' htx', hsame⟩
  · intro w₁ w₂ ref h₁ h₂
    rcases hpending w₁ ref h₁ with ⟨hw₁, hnew⟩ | hold₁ <;>
      rcases hpending w₂ ref h₂ with ⟨hw₂, hnew'⟩ | hold₂
    · rw [hw₁, hw₂]
    · exact absurd (hbelow w₂ ref hold₂) (hnew ▸ Nat.lt_irrefl _)
    · exact absurd (hbelow w₁ ref hold₁) (hnew' ▸ Nat.lt_irrefl _)
    · exact h.apart w₁ w₂ ref hold₁ hold₂
  · intro w' r' required' ref hw' tx' htx'
    rcases update_cases (P := (· = _)) hw' with ⟨-, hw'⟩ | ⟨-, hw'⟩
    · cases hw'
      rcases hcases _ tx' htx' with hbefore | ⟨_, rfl⟩
      · exact absurd (List.getElem?_eq_some_iff.mp hbefore).1 (Nat.lt_irrefl _)
      · exact hrequired
    rcases hcases ref tx' htx' with hbefore | ⟨rfl, _⟩
    · exact h.tracking w' r' required' ref hw' tx' hbefore
    · have hlt := hbelow w' s.transactions.length (by rw [hw']; rfl)
      exact absurd hlt (Nat.lt_irrefl _)
  · intro w' outcome held hw'
    rcases update_cases (P := (· = _)) hw' with ⟨-, hw'⟩ | ⟨-, hw'⟩
    · cases hw'
    · exact h.failing w' outcome held hw'
  · rw [countP_append, h.submitted]
    simp [hcounted]
  · rw [countP_append, h.propagated]
    simp [hpropagation]
  · rw [countP_append, h.confirmed]
    simp [hconfirmation]

theorem submitStep_inv {answer : Except TransactionLoadOutcome String}
    (hpc : s.workers w = .reserved r required)
    (horderly : s.orderly (.worker w (.submit answer observable)) = true)
    (hstep : s.submitStep w r required answer observable = some t) : t.Inv := by
  have hsame : observable.toFinset = required.toFinset := by
    simpa [orderly, hpc] using horderly
  simp only [submitStep] at hstep
  split at hstep
  next outcome =>
    split at hstep <;> cases hstep
    rename_i hother
    refine h.leave (.of_eq rfl rfl rfl) rfl ?_
    rintro _ _ ⟨⟩
    exact hother
  · split at hstep
    · cases hstep
      refine h.leave (.of_eq rfl rfl rfl) rfl ?_
      rintro _ _ ⟨⟩
      decide
    rename_i confirmation hmade
    cases hstep
    have hquiet : ∀ n c, ¬ Reporting s.observers s.transactions.length n c := by
      intro n c hreporting
      exact Nat.lt_irrefl _ (lt_of_reporting h hreporting)
    obtain ⟨htraced, hpropagation, hconfirmation⟩ := makeConfirmation_traced hmade hsame hquiet
    exact newTransaction_inv h htraced rfl rfl hpropagation hconfirmation

theorem trackStep_inv {workloadId : String} (hpc : s.workers w = .tracking r required ref)
    (hstep : s.trackStep w r required ref workloadId = some t) : t.Inv := by
  simp only [trackStep] at hstep
  split at hstep
  · cases hstep
  rename_i tx htx
  rcases commitReservation_cases (s := s.store) r
      [{ txid := tx.txid, workloadId, loadConfirmation := some ref }] required with
    ⟨e, hcommit⟩ | ⟨r', store, staged, hcommit, htracks⟩
  · rw [hcommit] at hstep
    obtain ⟨u, hrelease, rfl⟩ := Option.map_eq_some_iff.mp hstep
    obtain ⟨store, rfl, hshrinks⟩ := release_shrinks hrelease
    refine h.leave hshrinks rfl ?_
    rintro _ _ ⟨⟩
    decide
  · rw [hcommit] at hstep
    cases hstep
    have hmoved : Inv
        { s with
          store := s.store
          workers := update s.workers w (.submitted ref) } := by
      refine h.moveWorker (.of_eq rfl rfl rfl) ?_ (by simp) (by simp)
      rintro _ ⟨⟩
      rw [hpc]
      rfl
    refine { hmoved with indexed := htracks.indexed h.indexed, entries := ?_ }
    intro e he ref' href'
    rcases mem_append.mp (htracks.entries ▸ he) with he | he
    · exact h.entries e he ref' href'
    · obtain ⟨htransaction, hrequired⟩ := htracks.staged e he
      rw [mem_singleton] at htransaction
      rw [htransaction] at href' ⊢
      cases href'
      refine ⟨tx, htx, rfl, ?_⟩
      rw [hrequired]
      exact h.tracking w r required ref hpc tx htx

theorem recordFailureStep_inv {outcome : TransactionLoadOutcome}
    {held : Option TransactionObservationStore.Reservation} {latency : Nat}
    (hpc : s.workers w = .failed outcome held)
    (hstep : s.recordFailureStep w outcome held latency = some t) : t.Inv := by
  simp only [recordFailureStep] at hstep
  split at hstep
  · obtain ⟨u, hrelease, rfl⟩ := Option.map_eq_some_iff.mp hstep
    obtain ⟨store, rfl, hshrinks⟩ := release_shrinks hrelease
    exact h.leave hshrinks rfl nofun
  rename_i accounting hrecorded
  cases hstep
  obtain ⟨hpropagated, hconfirmed, hsubmitted⟩ :=
    TransactionLoadSnapshot.recordOutcome_counts hrecorded
  rw [if_neg (h.failing w outcome held hpc), Nat.add_zero] at hsubmitted
  have hleft : Inv
      { s with
        store := s.store
        workers := update s.workers w (.ending held) } :=
    h.leave (.of_eq rfl rfl rfl) rfl nofun
  exact
    { hleft with
      submitted := hsubmitted.trans h.submitted
      propagated := hpropagated.trans h.propagated
      confirmed := hconfirmed.trans h.confirmed
      bound := hsubmitted.trans_le h.bound }

theorem recordSubmittedStep_inv {ref latency : Nat} (hpc : s.workers w = .submitted ref)
    (hroom : s.accounting.HasRoom latency) : Inv (s.recordSubmittedStep w ref latency) := by
  obtain ⟨tx, htx, huncounted⟩ := h.holding w ref (by rw [hpc]; rfl)
  obtain ⟨accounting, hrecorded, _⟩ :=
    TransactionLoadSnapshot.recordOutcome_of_room hroom .submitted
  obtain ⟨hpropagated, hconfirmed, hsubmitted⟩ :=
    TransactionLoadSnapshot.recordOutcome_counts hrecorded
  rw [if_pos rfl] at hsubmitted
  have hleft : Inv
      { s with
        store := s.store
        workers := update s.workers w (.ending none) } :=
    h.leave (.of_eq rfl rfl rfl) rfl nofun
  have hfree : ∀ w', pendingRef (update s.workers w (.ending none) w') ≠ some ref := by
    intro w' hw'
    rcases update_cases (P := (pendingRef · = some ref)) hw' with ⟨-, hw'⟩ | ⟨hne, hw'⟩
    · cases hw'
    · exact hne (h.apart w' w ref hw' (by rw [hpc]; rfl))
  have hlast := hroom.outcomes .submitted
  simp only [TransactionLoadSnapshot.counterOf] at hlast
  simp only [recordSubmittedStep, hrecorded, PropagationState.moveWorker]
  refine hleft.updateTransaction LoadTransaction.count htx (fun _ => ⟨rfl, rfl⟩)
    (.of_eq rfl rfl rfl) rfl rfl rfl ?_ h.observing
    (fun w' hw' => absurd hw' (hfree w')) ?_ ?_ ?_ ?_
  · intro ref' tx' htx'
    have htraced := h.traced ref' tx' htx'
    split
    · exact { htraced with counted := fun _ => rfl }
    · exact htraced
  · simp only [LoadTransaction.count, huncounted, Bool.toNat_false, Bool.toNat_true]
    omega
  · simp only
    omega
  all_goals
    simp only [LoadTransaction.count]
    omega

theorem workerStep_inv {input : SubmitterInput} [DecidableEq ι]
    (horderly : s.orderly (.worker w input) = true)
    (hstep : s.workerStep w input = some t) : t.Inv := by
  cases input with
  | skip outcome =>
    simp only [workerStep] at hstep
    split at hstep
    · split at hstep <;> cases hstep
      rename_i hother
      refine h.leave (.of_eq rfl rfl rfl) rfl ?_
      rintro _ _ ⟨⟩
      exact hother
    · cases hstep
  | reserve observable =>
    simp only [workerStep] at hstep
    split at hstep <;> cases hstep
    exact reserveStep_inv h observable
  | submit answer observable =>
    simp only [workerStep] at hstep
    split at hstep
    next r required hpc => exact submitStep_inv h hpc horderly hstep
    · cases hstep
  | track workloadId =>
    simp only [workerStep] at hstep
    split at hstep
    next r required ref hpc => exact trackStep_inv h hpc hstep
    · cases hstep
  | record latency =>
    simp only [workerStep] at hstep
    split at hstep
    next outcome held hpc => exact recordFailureStep_inv h hpc hstep
    next ref hpc =>
      cases hstep
      exact recordSubmittedStep_inv h hpc (of_decide_eq_true horderly)
    · cases hstep
  | finish =>
    simp only [workerStep] at hstep
    split at hstep
    · obtain ⟨u, hrelease, rfl⟩ := Option.map_eq_some_iff.mp hstep
      obtain ⟨store, rfl, hshrinks⟩ := release_shrinks hrelease
      exact h.leave hshrinks rfl nofun
    · cases hstep

end Workers

section Observers

variable [DecidableEq ι] {o : ι} {confirmed : Bool}

/-- A report of a tracked transaction is on its way from now on. -/
theorem report_traced {ref' : Nat} (hidle : observers o = .idle) (h : Traced observers ref' tx) :
    Traced (update observers o (.recording ref txid nodeId confirmed)) ref'
      (if ref = ref' then tx.report nodeId confirmed else tx) := by
  have hstart := @reporting_start ι observers ref txid nodeId _ o confirmed hidle ref'
  split
  next hsame =>
    subst hsame
    refine { h with visible := ?_, confirmed := ?_ }
    · intro n
      simp only [LoadTransaction.report, Finset.mem_insert, h.visible n, hstart,
        true_and, exists_or, exists_and_left, exists_eq, and_true]
      exact or_left_comm
    · intro n
      simp only [LoadTransaction.report, hstart, true_and]
      cases confirmed with
      | true =>
        simp only [if_true, Finset.mem_insert, h.confirmed n, and_true]
        exact or_left_comm
      | false =>
        simp only [Bool.false_eq_true, if_false, h.confirmed n, and_false,
          Bool.true_eq_false, false_or]
  next hother =>
    have hne : ¬ ref' = ref := fun heq => hother heq.symm
    refine { h with visible := ?_, confirmed := ?_ }
    · intro n
      simp only [hstart, hne, false_and, false_or]
      exact h.visible n
    · intro n
      simp only [hstart, hne, false_and, false_or]
      exact h.confirmed n

theorem recordStep_inv {visible : Bool} (h : s.Inv) (hidle : s.observers o = .idle)
    (hvisible : confirmed = true → visible = true) (hroom : s.store.RecordRoom)
    (hrequired : s.store.requires txid nodeId = true) :
    Inv (s.recordStep o txid nodeId visible confirmed) := by
  have hstore := record_shrinks txid nodeId visible confirmed h.indexed
  have hentries := entries_of_shrinks h hstore
  rcases record_cases txid nodeId visible confirmed h.indexed hroom hvisible
      hrequired with ⟨hnothing, hsame⟩ |
      ⟨id, entry, transition, ⟨rfl, htracked⟩, hmem, htxid, hnode, hok⟩
  · have hlog : s.logReport txid nodeId visible confirmed = s.transactions := by
      unfold logReport
      rcases hnothing with rfl | hnone
      · split <;> rfl
      · rw [hnone]
        rfl
    simp only [recordStep, hsame, hlog]
    exact h
  · simp only [recordStep, hok, logReport, htracked, Option.bind_some, if_true]
    cases hload : entry.transaction.loadConfirmation with
    | none => exact { h with indexed := hstore.indexed h.indexed, entries := hentries }
    | some ref =>
      obtain ⟨tx, htx, htxid', hrequired'⟩ := h.entries _ hmem ref hload
      refine h.updateTransaction (LoadTransaction.report nodeId confirmed) htx
        (fun _ => ⟨rfl, rfl⟩) hstore rfl rfl rfl ?_ ?_ (fun _ _ => rfl) rfl
        h.bound rfl rfl
      · intro ref' tx' htx'
        exact report_traced hidle (h.traced ref' tx' htx')
      · intro o' ref' txid' nodeId' confirmed' ho'
        rcases update_cases (P := (· = _)) ho' with ⟨-, ho'⟩ | ⟨-, ho'⟩
        · cases ho'
          exact ⟨tx, htx, htxid'.trans htxid, by rw [hrequired']; exact hnode⟩
        · exact h.observing o' ref' txid' nodeId' confirmed' ho'

/-- The report arrives at the confirmation. -/
theorem arrive_traced {c' : TransactionLoadConfirmation}
    {accounting accounting' : TransactionLoadSnapshot}
    (hrecording : observers o = .recording ref tx.txid nodeId confirmed)
    (h : Traced observers ref tx)
    (hobserved : TransactionLoadConfirmation.Observed tx.confirmation accounting
      (tx.txid, nodeId) confirmed c' accounting')
    (hlast : lastReport tx nodeId = true → tx.counted = true) :
    Traced (update observers o .idle) ref (tx.setConfirmation c') := by
  have hend := reporting_end hrecording ref
  refine ⟨hobserved.exact, ?_, ?_, ?_, ?_⟩
  · intro key
    rw [LoadTransaction.setConfirmation, hobserved.expected]
    exact h.expected key
  · intro n
    simp only [LoadTransaction.setConfirmation, hobserved.visible, h.visible n, hend,
      true_and, exists_or, exists_and_left, exists_eq, and_true,
      TransactionLoadConfirmation.noted, Finset.mem_insert, Prod.mk.injEq]
    rw [or_left_comm, or_assoc]
  · intro n
    simp only [LoadTransaction.setConfirmation, hobserved.confirmed, h.confirmed n,
      hend, true_and, TransactionLoadConfirmation.noted]
    cases confirmed with
    | true =>
      simp only [if_true, Finset.mem_insert, Prod.mk.injEq, true_and, and_true]
      rw [or_left_comm, or_assoc]
    | false => simp only [Bool.false_eq_true, if_false, and_false, Bool.true_eq_false, false_or]
  · intro hrecorded
    apply hlast
    have hfull := hobserved.exact.propagation.mp hrecorded
    rw [hobserved.visible, hobserved.expected] at hfull
    exact decide_eq_true hfull

theorem observeStep_inv (h : s.Inv) (hpc : s.observers o = .recording ref txid nodeId confirmed)
    (horderly : s.orderly (.observer o .observe) = true)
    (hstep : s.observeStep o ref txid nodeId confirmed = some t) : t.Inv := by
  obtain ⟨tx, htx, rfl, hnode⟩ := h.observing o ref txid nodeId confirmed hpc
  have htraced := h.traced ref tx htx
  simp only [orderly, hpc, htx, Option.all_some, Bool.and_eq_true,
    decide_eq_true_eq, Bool.or_eq_true, Bool.not_eq_true'] at horderly
  obtain ⟨hrevision, hordered⟩ := horderly
  have hlast : lastReport tx nodeId = true → tx.counted = true := by
    intro hreport
    rcases hordered with hearly | hcounted
    · rw [hreport] at hearly
      cases hearly
    · exact hcounted
  obtain ⟨progress, c', accounting', hrun, hobserved⟩ :=
    TransactionLoadConfirmation.recordObservation_spec confirmed htraced.exact
      ((htraced.expected (tx.txid, nodeId)).mpr ⟨rfl, hnode⟩)
      (Nat.ne_of_lt hrevision) (admits_of_inv h htx hlast)
  simp only [observeStep, htx, hrun] at hstep
  cases hstep
  refine h.updateTransaction (LoadTransaction.setConfirmation c') htx
    (fun _ => ⟨rfl, rfl⟩) (.of_eq rfl rfl rfl) rfl rfl rfl ?_ ?_ (fun _ _ => rfl)
    ?_ ?_ hobserved.propagatedCount hobserved.confirmedCount
  · intro ref' tx' htx'
    split
    next hsame =>
      subst hsame
      rw [htx] at htx'
      cases htx'
      exact arrive_traced hpc htraced hobserved hlast
    rename_i hother
    have htraced' := h.traced ref' tx' htx'
    have hend := reporting_end hpc ref'
    have hne : ¬ ref' = ref := fun heq => hother heq.symm
    simp only [hne, false_and, false_or] at hend
    refine { htraced' with visible := ?_, confirmed := ?_ }
    · intro n
      simp only [moveObserver, ← hend]
      exact htraced'.visible n
    · intro n
      simp only [moveObserver, ← hend]
      exact htraced'.confirmed n
  · intro o' ref' txid' nodeId' confirmed' ho'
    rcases update_cases (P := (· = _)) ho' with ⟨-, ho'⟩ | ⟨-, ho'⟩
    · cases ho'
    · exact h.observing o' ref' txid' nodeId' confirmed' ho'
  · simp only [moveObserver, hobserved.submitted, LoadTransaction.setConfirmation]
  · simp only [moveObserver, hobserved.submitted]
    exact h.bound

theorem observerStep_inv {input : ObserverInput}
    (h : s.Inv) (horderly : s.orderly (.observer o input) = true)
    (hstep : s.observerStep o input = some t) : t.Inv := by
  cases input with
  | record txid nodeId visible confirmed =>
    simp only [observerStep] at hstep
    split at hstep <;> cases hstep
    rename_i hidle
    simp only [orderly, Bool.and_eq_true, Bool.or_eq_true, Bool.not_eq_true',
      decide_eq_true_eq] at horderly
    obtain ⟨⟨hvisible, hroom⟩, hrequired⟩ := horderly
    refine recordStep_inv h hidle ?_ hroom hrequired
    intro hconfirmed
    rcases hvisible with hnot | hvisible
    · rw [hconfirmed] at hnot
      cases hnot
    · exact hvisible
  | observe =>
    simp only [observerStep] at hstep
    split at hstep
    · cases hstep
    next ref txid nodeId confirmed hpc => exact observeStep_inv h hpc horderly hstep

end Observers

section Runs

variable [DecidableEq κ] [DecidableEq ι]

omit [DecidableEq ι] in
/-- With no report on its way the flags say what has been reported. -/
theorem Traced.atRest (h : Traced observers ref tx)
    (hquiet : ∀ n c, ¬ Reporting observers ref n c) :
    (tx.confirmation.propagationRecorded = true ↔
      tx.counted = true ∧ tx.required ⊆ tx.visibleReports) ∧
    (tx.confirmation.confirmationRecorded = true ↔
      tx.counted = true ∧ tx.required ⊆ tx.confirmedReports) := by
  constructor
  · constructor
    · intro hrecorded
      refine ⟨h.counted hrecorded, ?_⟩
      intro n hn
      rw [h.visible, h.exact.propagation.mp hrecorded]
      exact .inl ((h.expected (tx.txid, n)).mpr ⟨rfl, hn⟩)
    · rintro ⟨_, hreported⟩
      rw [h.exact.propagation]
      refine Finset.Subset.antisymm h.exact.visible ?_
      rintro ⟨txid, n⟩ hkey
      obtain ⟨rfl, hn⟩ := (h.expected (txid, n)).mp hkey
      rcases (h.visible n).mp (hreported hn) with hseen | ⟨c, hreporting⟩
      · exact hseen
      · exact absurd hreporting (hquiet n c)
  · constructor
    · intro hrecorded
      refine ⟨h.counted (h.exact.confirmation_le hrecorded), ?_⟩
      intro n hn
      rw [h.confirmed, h.exact.confirmation.mp hrecorded]
      exact .inl ((h.expected (tx.txid, n)).mpr ⟨rfl, hn⟩)
    · rintro ⟨_, hreported⟩
      rw [h.exact.confirmation]
      refine Finset.Subset.antisymm (h.exact.confirmed.trans h.exact.visible) ?_
      rintro ⟨txid, n⟩ hkey
      obtain ⟨rfl, hn⟩ := (h.expected (txid, n)).mp hkey
      rcases (h.confirmed n).mp (hreported hn) with hseen | hreporting
      · exact hseen
      · exact absurd hreporting (hquiet n true)

theorem step_inv {a : PropagationAction κ ι}
    (h : s.Inv) (horderly : s.orderly a = true) (hstep : s.step a = some t) : t.Inv := by
  cases a with
  | worker w input => exact workerStep_inv h horderly hstep
  | observer o input => exact observerStep_inv h horderly hstep
  | cancelWorkload workloadId =>
    cases hstep
    have hstore := cancelWorkload_shrinks (s := s.store) workloadId
    have hentries := entries_of_shrinks h hstore
    exact { h with indexed := hstore.indexed h.indexed, entries := hentries }

omit [DecidableEq κ] [DecidableEq ι] in
theorem start_inv {capacity : Nat} (h : create capacity = .ok store) :
    Inv ({ store } : PropagationState κ ι) := by
  simp only [create] at h
  split at h <;> cases h
  constructor <;> simp [pendingRef]
  constructor <;> simp

/--
In an orderly run no report is thrown away, and whenever all workers and observers
have come to rest the accounting counts exactly the submitted transactions that
every required node has reported as visible, and as confirmed.
-/
theorem propagation_is_exact {store : TransactionObservationStore} {capacity : Nat}
    {t : PropagationState κ ι} {actions : List (PropagationAction κ ι)}
    (hstore : TransactionObservationStore.create capacity = .ok store)
    (hmeets : (propagationMachine κ ι).Meets (fun s a => s.orderly a = true)
      { store } actions)
    (hrun : (propagationMachine κ ι).run { store } actions = some t) :
    t.thrown = [] ∧
    (t.Quiescent → t.accounting.submitted = t.transactions.countP (·.counted) ∧
      t.accounting.propagated = t.transactions.countP (fun tx =>
        tx.counted && decide (tx.required ⊆ tx.visibleReports)) ∧
      t.accounting.confirmed = t.transactions.countP (fun tx =>
        tx.counted && decide (tx.required ⊆ tx.confirmedReports))) := by
  have h : t.Inv := (propagationMachine κ ι).meets_preserves
    (fun s a u hstep horderly hs => step_inv hs horderly hstep) hmeets hrun
    (start_inv hstore)
  refine ⟨h.thrown, ?_⟩
  rintro ⟨_, hidle⟩
  have hquiet : ∀ ref n c, ¬ Reporting t.observers ref n c := by
    rintro ref n c ⟨o, txid, hrecording⟩
    rw [hidle o] at hrecording
    cases hrecording
  have hrest : ∀ tx, tx ∈ t.transactions → ∃ ref, Traced t.observers ref tx := by
    intro tx htx
    obtain ⟨ref, hlt, hget⟩ := List.getElem_of_mem htx
    exact ⟨ref, h.traced ref tx (List.getElem?_eq_some_iff.mpr ⟨hlt, hget⟩)⟩
  refine ⟨h.submitted, ?_, ?_⟩
  · rw [h.propagated]
    apply List.countP_congr
    intro tx htx
    obtain ⟨ref, htraced⟩ := hrest tx htx
    rw [Bool.and_eq_true, decide_eq_true_eq]
    exact (htraced.atRest (hquiet ref)).1
  · rw [h.confirmed]
    apply countP_congr
    intro tx htx
    obtain ⟨ref, htraced⟩ := hrest tx htx
    rw [Bool.and_eq_true, decide_eq_true_eq]
    exact (htraced.atRest (hquiet ref)).2

/-- The reports of the only node come after the outcome is recorded. -/
def lateReport : List (PropagationAction Unit Unit) :=
  [.worker () (.reserve ["node-1"]), .worker () (.submit (.ok "tx") ["node-1"]),
    .worker () (.track "load"), .worker () (.record 5),
    .observer () (.record "tx" "node-1" true false), .observer () .observe,
    .observer () (.record "tx" "node-1" true true), .observer () .observe,
    .worker () .finish]

theorem late_report_is_counted :
    ∃ t,
      (propagationMachine Unit Unit).run { store := { capacity := 4 } } lateReport = some t ∧
      t.thrown = [] ∧ t.accounting.propagated = 1 ∧ t.accounting.confirmed = 1 ∧
      t.transactions.countP (fun tx =>
        tx.counted && decide (tx.required ⊆ tx.visibleReports)) = 1 := by
  have h := @propagation_is_exact Unit Unit _ _ { capacity := 4 } 4 _ lateReport rfl (by decide) rfl
  have hrest := h.2 ⟨fun _ => rfl, fun _ => rfl⟩
  exact ⟨_, rfl, h.1, rfl, rfl, hrest.2.1.symm⟩

end Runs

end Invariant

end PropagationState

end Bbp.Simulator
