import Bbp.Library.Custody
import Bbp.Simulator.LedgerSafety
import Bbp.Simulator.LoadEpoch

/-!
# Who holds which task of an epoch

Every transaction index that the producer hands out is in the custody of exactly
one party until its outcome is recorded, and of exactly one party until its
reservation is settled.  The weights below say what each party holds; the
invariant `Accounted` equates them with the log of the run and with the keys of
the ledger.

The invariant speaks about the components of the state, not about the state, so
that a change of one thread is a change of one argument.
-/

namespace Bbp.Simulator

open Library ProducerPc Function List
open TransactionLoadBalanceReservations

section Holdings

/-- The indexes of a list of tasks. -/
def indexesOf (tasks : List WalletTransactionLoadTask) : List Nat :=
  tasks.map WalletTransactionLoadTask.transactionIndex

/-- The tasks of a cursor that still have to be settled. -/
def DropCursor.unsettled (cursor : DropCursor) : List WalletTransactionLoadTask :=
  if cursor.headSettled then cursor.tasks.tail else cursor.tasks

namespace ProducerPc

/-- The weight of the tasks that the producer has to record. -/
def unrecorded (f : Nat → Nat) : ProducerPc → Nat
  | .backpressured rest _ => tally f (indexesOf rest)
  | .dropping cursor _ => tally f (indexesOf cursor.tasks)
  | _ => 0

/-- The weight of the tasks that the producer has to settle. -/
def unsettled (f : Nat → Nat) : ProducerPc → Nat
  | .dropping cursor _ => tally f (indexesOf cursor.unsettled)
  | _ => 0

/-- The weight of the staged reservations that no task stands for. -/
def staged (f : Nat → Nat) : ProducerPc → Nat
  | .admitting _ indexes => tally f indexes
  | .answered _ _ _ (.ok true) => 0
  | .answered _ indexes _ _ => tally f indexes
  | _ => 0

/-- How many indexes are handed out beyond the producer's index. -/
def ahead : ProducerPc → Nat
  | .answered plans _ _ (.ok true) => plans.length
  | .backpressured _ count => count
  | _ => 0

/-- The number of tasks in the producer's cursor. -/
def dropped : ProducerPc → Nat
  | .dropping cursor _ => cursor.tasks.length
  | _ => 0

/-- The batch whose rollback is still to come. -/
def refusing : ProducerPc → List (List Nat)
  | .answered _ _ _ (.ok true) => []
  | .answered _ indexes _ _ => [indexes]
  | _ => []

/-- The producer has left its loop and will push nothing any more. -/
def shut : ProducerPc → Bool
  | .joining => true
  | .dropping _ .join => true
  | .dropping _ .conclude => true
  | .concluding => true
  | .done _ => true
  | _ => false

/-- The producer has joined the workers. -/
def joined : ProducerPc → Bool
  | .dropping _ .conclude => true
  | .concluding => true
  | .done _ => true
  | _ => false

/-- A place at which the producer holds nothing. -/
def idle : ProducerPc → Bool
  | .admitting .. => false
  | .answered .. => false
  | .backpressured .. => false
  | .dropping .. => false
  | _ => true

/-- What an idle producer holds. -/
structure Nothing (pc : ProducerPc) : Prop where
  unrecorded : ∀ f, pc.unrecorded f = 0
  unsettled : ∀ f, pc.unsettled f = 0
  staged : ∀ f, pc.staged f = 0
  ahead : pc.ahead = 0
  dropped : pc.dropped = 0
  refusing : pc.refusing = []

theorem nothing_of_idle {pc : ProducerPc} (h : pc.idle = true) : pc.Nothing := by
  cases pc with
  | admitting | answered | backpressured | dropping => cases h
  | _ => exact ⟨fun _ => rfl, fun _ => rfl, fun _ => rfl, rfl, rfl, rfl⟩

end ProducerPc

def WorkerNext.unrecorded (f : Nat → Nat) : WorkerNext → Nat
  | .record task _ => f task.transactionIndex
  | .pop => 0

namespace WorkerPc

/-- The weight of the tasks that a worker has to record. -/
def unrecorded (f : Nat → Nat) : WorkerPc → Nat
  | .working task => f task.transactionIndex
  | .settling task _ => f task.transactionIndex
  | .cancelling next => next.unrecorded f
  | .dropping cursor next => tally f (indexesOf cursor.tasks) + next.unrecorded f
  | .recording task _ => f task.transactionIndex
  | _ => 0

/-- The weight of the tasks that a worker has to settle. -/
def unsettled (f : Nat → Nat) : WorkerPc → Nat
  | .working task => f task.transactionIndex
  | .settling task _ => f task.transactionIndex
  | .dropping cursor _ => tally f (indexesOf cursor.unsettled)
  | _ => 0

/-- The number of tasks in a worker's cursor. -/
def dropped : WorkerPc → Nat
  | .dropping cursor _ => cursor.tasks.length
  | _ => 0

/-- A worker settles at most one task besides those of its cursor. -/
theorem unsettled_each_le (pc : WorkerPc) : pc.unsettled each ≤ 1 + pc.dropped := by
  cases pc with
  | dropping cursor next =>
    simp only [unsettled, dropped, DropCursor.unsettled, tally_each, indexesOf, length_map]
    split
    · simp only [length_tail]
      omega
    · omega
  | working | settling => simp [unsettled, each]
  | popping | cancelling | recording | observing | exited => simp [unsettled]

end WorkerPc

end Holdings

section Invariant

variable {n : Nat}

/-- The weight of all tasks whose outcome is still to be recorded. -/
def unrecordedTotal (f : Nat → Nat) (queue : BoundedWalletTransactionQueue)
    (producer : ProducerPc) (workers : Fin n → WorkerPc) : Nat :=
  tally f (indexesOf queue.tasks) + producer.unrecorded f + held (WorkerPc.unrecorded f) workers

/-- The weight of all tasks whose reservation is still to be settled. -/
def unsettledTotal (f : Nat → Nat) (queue : BoundedWalletTransactionQueue)
    (producer : ProducerPc) (workers : Fin n → WorkerPc) : Nat :=
  tally f (indexesOf queue.tasks) + producer.unsettled f + held (WorkerPc.unsettled f) workers

/-- The number of tasks in all cursors. -/
def droppedTotal (producer : ProducerPc) (workers : Fin n → WorkerPc) : Nat :=
  producer.dropped + held WorkerPc.dropped workers

variable {E : RandomEngine}

variable (E) in
/-- The ledger carries a staged batch on top of what it held before. -/
def Staging (ledger : TransactionLoadBalanceReservations) (index : Nat)
    (plans : List WalletTransactionPlanEntry) (indexes : List Nat) : Prop :=
  ∃ (p : LoadPlannerState E) (base : TransactionLoadBalanceReservations)
    (staged : List (Nat × Reservation)) (remaining : Nat),
    base.Planned p (index + 1) remaining plans staged ledger ∧
    base.Balanced ∧ indexes = staged.map Prod.fst

variable (E) in
/-- What holds of the ledger while the producer is inside `PlanAndReserve`. -/
def InAdmission (ledger : TransactionLoadBalanceReservations) (index : Nat) : ProducerPc → Prop
  | .admitting plans indexes => Staging E ledger index plans indexes
  | .answered plans indexes tasks _ =>
    Staging E ledger index plans indexes ∧ indexesOf tasks = indexes
  | _ => True

/-- No index is lost and none is handled twice. -/
structure Accounted
    (c : EpochConfig E) (attempted₀ : Nat)
    (ledger : TransactionLoadBalanceReservations) (planner : LoadPlannerState E)
    (queue : BoundedWalletTransactionQueue) (attempted : Nat) (stop : Bool)
    (producer : ProducerPc) (index : Nat) (workers : Fin n → WorkerPc)
    (history : EpochHistory) : Prop where
  recorded : ∀ f, tally f history.outcomes + unrecordedTotal f queue producer workers =
      tally f (range' (c.nextTransactionIndex + 1)
        (index + producer.ahead - c.nextTransactionIndex))
  settled : ∀ f, tally f history.settled + unsettledTotal f queue producer workers =
      tally f history.admitted
  keys : ∀ f, tally f (ledger.reservations.map Prod.fst) =
      unsettledTotal f queue producer workers + producer.staged f
  started : c.nextTransactionIndex ≤ index
  admittedNodup : history.admitted.Nodup
  admittedBound : ∀ i, i ∈ history.admitted → i ≤ index + producer.ahead
  rolledBack : history.refused = history.rolledBack ++ producer.refusing
  counted : attempted = attempted₀ + history.outcomes.length
  noErrors : LedgerError.settledMoreThanOnce ∉ history.ledgerErrors ∧
    LedgerError.reservationBound ∉ history.ledgerErrors
  balanced : ledger.Balanced
  fee : ledger.feeReserveSatoshis = effectiveWalletTransactionFeeReserveSatoshis c.workload
  maximum : ledger.maximumReservations = c.workload.queueCapacity + n + c.planner.val.batchSize
  advanced : Advanced c.planner.val planner
  inAdmission : InAdmission E ledger index producer
  capacity : queue.capacity = c.workload.queueCapacity
  fits : queue.tasks.length + droppedTotal producer workers ≤ queue.capacity
  openQueue : queue.closed = false → droppedTotal producer workers = 0
  cancelledQueue : queue.cancelled = true → queue.closed = true ∧ queue.tasks = []
  exited : ∀ w, workers w = .exited → stop = true ∨ queue.closed = true ∧ queue.tasks = []
  shutQueue : producer.shut = true → queue.closed = true
  joinedQueue : producer.joined = true → queue.tasks = [] ∧ ∀ w, workers w = .exited

end Invariant

section Steps

variable {n : Nat} {E : RandomEngine} {c : EpochConfig E} {attempted₀ : Nat}
  {ledger ledger' : TransactionLoadBalanceReservations} {planner planner' : LoadPlannerState E}
  {queue : BoundedWalletTransactionQueue} {attempted : Nat} {stop : Bool}
  {producer producer' : ProducerPc} {index : Nat} {workers : Fin n → WorkerPc}
  {history : EpochHistory} {p : LoadPlannerState E} {base : TransactionLoadBalanceReservations}
  {remaining : Nat} {plans : List WalletTransactionPlanEntry} {staged : List (Nat × Reservation)}
  {tasks : List WalletTransactionLoadTask} {answer : Except String Bool}

theorem unrecordedTotal_update (f : Nat → Nat) (queue : BoundedWalletTransactionQueue)
    (producer : ProducerPc) (workers : Fin n → WorkerPc) (w : Fin n) (pc : WorkerPc) :
    unrecordedTotal f queue producer (update workers w pc) +
        (workers w).unrecorded f =
      unrecordedTotal f queue producer workers + pc.unrecorded f := by
  have hupdate := held_update (WorkerPc.unrecorded f) workers w pc
  unfold unrecordedTotal
  omega

theorem unsettledTotal_update (f : Nat → Nat) (queue : BoundedWalletTransactionQueue)
    (producer : ProducerPc) (workers : Fin n → WorkerPc) (w : Fin n) (pc : WorkerPc) :
    unsettledTotal f queue producer (update workers w pc) +
        (workers w).unsettled f =
      unsettledTotal f queue producer workers + pc.unsettled f := by
  have hupdate := held_update (WorkerPc.unsettled f) workers w pc
  unfold unsettledTotal
  omega

theorem droppedTotal_update (producer : ProducerPc) (workers : Fin n → WorkerPc) (w : Fin n)
    (pc : WorkerPc) :
    droppedTotal producer (update workers w pc) + (workers w).dropped =
      droppedTotal producer workers + pc.dropped := by
  have hupdate := held_update WorkerPc.dropped workers w pc
  unfold droppedTotal
  omega

/-- Two places of the producer that agree on everything but its tasks. -/
structure SameShape (producer producer' : ProducerPc) : Prop where
  staged : ∀ f, producer'.staged f = producer.staged f
  ahead : producer'.ahead = producer.ahead
  refusing : producer'.refusing = producer.refusing
  shut : producer'.shut = producer.shut
  joined : producer'.joined = producer.joined

theorem SameShape.refl (producer : ProducerPc) : SameShape producer producer :=
  ⟨fun _ => rfl, rfl, rfl, rfl, rfl⟩

/-- The keys of a staged batch lie on top of those of the ledger below. -/
theorem tally_keys_planned {first : Nat}
    (h : base.Planned p first remaining plans staged ledger) (f : Nat → Nat) :
    tally f (ledger.reservations.map Prod.fst) =
      tally f (base.reservations.map Prod.fst) +
        tally f (staged.map Prod.fst) := by
  rw [h.adds.reservations, map_append, tally_append]

theorem Staging.indexes {indexes : List Nat} (h : Staging E ledger index plans indexes) :
    indexes = range' (index + 1) plans.length := by
  obtain ⟨p, base, staged, remaining, hplanned, _, rfl⟩ := h
  exact hplanned.keys

/-- Handing out one more batch extends the row of indexes. -/
theorem tally_handedOut {indexes : List Nat} (h : Staging E ledger index plans indexes)
    {start : Nat} (hstart : start ≤ index) (f : Nat → Nat) :
    tally f (range' (start + 1) (index + plans.length - start)) =
      tally f (range' (start + 1) (index - start)) + tally f indexes := by
  have hsplit : index + plans.length - start = index - start + plans.length := by
    omega
  have hrow : start + 1 + (index - start) = index + 1 := by
    omega
  rw [hsplit, tally_range'_add, hrow, h.indexes]

section Moves

variable (h : Accounted c attempted₀ ledger planner queue attempted stop producer
  index workers history)

include h

theorem Accounted.requestStop :
    Accounted c attempted₀ ledger planner queue attempted true producer
      index workers history :=
  { h with exited := fun _ _ => .inl rfl }

/-- An idle producer moves on, perhaps with a new planner or ledger. -/
theorem Accounted.moveProducer
    (hidle : producer.idle = true) (hidle' : producer'.idle = true) (hkeeps : Keeps ledger ledger')
    (hreservations : ledger'.reservations = ledger.reservations)
    (hadvanced : Advanced c.planner.val planner')
    (hshut : producer'.shut = true → queue.closed = true)
    (hjoined : producer'.joined = true → queue.tasks = [] ∧ ∀ w, workers w = .exited) :
    Accounted c attempted₀ ledger' planner' queue attempted stop producer'
      index workers history := by
  have hold := nothing_of_idle hidle
  have hnew := nothing_of_idle hidle'
  refine
    { h with
      recorded := ?_, settled := ?_, keys := ?_, admittedBound := ?_
      rolledBack := ?_, balanced := hkeeps.balanced
      fee := hkeeps.fee.trans h.fee, maximum := hkeeps.maximum.trans h.maximum
      advanced := hadvanced, inAdmission := ?_, fits := ?_, openQueue := ?_
      shutQueue := hshut, joinedQueue := hjoined }
  · intro f
    have hrecorded := h.recorded f
    simp only [unrecordedTotal, hold.unrecorded, hold.ahead] at hrecorded
    simp only [unrecordedTotal, hnew.unrecorded, hnew.ahead]
    exact hrecorded
  · intro f
    have hsettled := h.settled f
    simp only [unsettledTotal, hold.unsettled] at hsettled
    simp only [unsettledTotal, hnew.unsettled]
    exact hsettled
  · intro f
    have hkeys := h.keys f
    simp only [unsettledTotal, hold.unsettled, hold.staged] at hkeys
    simp only [unsettledTotal, hnew.unsettled, hnew.staged, hreservations]
    exact hkeys
  · intro i hi
    have hbound := h.admittedBound i hi
    rw [hold.ahead] at hbound
    rw [hnew.ahead]
    exact hbound
  · rw [hnew.refusing, ← hold.refusing]
    exact h.rolledBack
  · cases producer' with
    | admitting | answered => cases hidle'
    | _ => trivial
  · have hfits := h.fits
    simp only [droppedTotal, hold.dropped] at hfits
    simp only [droppedTotal, hnew.dropped]
    exact hfits
  · intro hopen
    have hempty := h.openQueue hopen
    simp only [droppedTotal, hold.dropped] at hempty
    simp only [droppedTotal, hnew.dropped]
    exact hempty

/-- What an idle producer holds does not depend on its place. -/
theorem Accounted.atHead (hidle : producer.idle = true) :
    Accounted c attempted₀ ledger planner queue attempted stop .head index workers history :=
  h.moveProducer hidle rfl ⟨h.balanced, rfl, rfl⟩ rfl h.advanced nofun nofun

/-- An error of the ledger other than the two in question may be logged. -/
theorem Accounted.logError {e : LedgerError}
    (hkind : e ≠ .settledMoreThanOnce ∧ e ≠ .reservationBound) :
    Accounted c attempted₀ ledger planner queue attempted stop producer
      index workers
      { history with ledgerErrors := history.ledgerErrors ++ [e] } := by
  obtain ⟨hsettled, hbound⟩ := h.noErrors
  refine { h with noErrors := ⟨?_, ?_⟩ }
  · simp only [mem_append, mem_singleton, not_or]
    exact ⟨hsettled, Ne.symm hkind.1⟩
  · simp only [mem_append, mem_singleton, not_or]
    exact ⟨hbound, Ne.symm hkind.2⟩

section Transfers

variable {outcomes settled : List Nat} {errors : List LedgerError} {attempted' : Nat}
  (hcounted : attempted' = attempted₀ + outcomes.length)
  (hkeeps : Keeps ledger ledger')
  (hkeys : ∀ f, tally f (ledger'.reservations.map Prod.fst) + tally f settled =
    tally f (ledger.reservations.map Prod.fst) + tally f history.settled)
  (herrors : LedgerError.settledMoreThanOnce ∉ errors ∧ LedgerError.reservationBound ∉ errors)

include hcounted hkeeps hkeys herrors

/-- Indexes pass from the parties that hold them to the log. -/
theorem Accounted.transfer {workers' : Fin n → WorkerPc}
    (hfree : InAdmission E ledger' index producer') (hshape : SameShape producer producer')
    (hrecorded : ∀ f, tally f outcomes + unrecordedTotal f queue producer' workers' =
      tally f history.outcomes + unrecordedTotal f queue producer workers)
    (hsettled : ∀ f, tally f settled + unsettledTotal f queue producer' workers' =
      tally f history.settled + unsettledTotal f queue producer workers)
    (hdropped : droppedTotal producer' workers' ≤ droppedTotal producer workers)
    (hexited : ∀ w, workers' w = .exited →
      workers w = .exited ∨ stop = true ∨ queue.closed = true ∧ queue.tasks = [])
    (hjoined : producer.joined = true → workers' = workers) :
    Accounted c attempted₀ ledger' planner queue attempted' stop producer' index workers'
      { history with outcomes, settled, ledgerErrors := errors } := by
  refine
    { h with
      recorded := ?_, settled := ?_, keys := ?_, admittedBound := ?_
      rolledBack := ?_, counted := hcounted, noErrors := herrors, balanced := hkeeps.balanced
      fee := hkeeps.fee.trans h.fee, maximum := hkeeps.maximum.trans h.maximum
      inAdmission := hfree, fits := ?_, openQueue := ?_, exited := ?_
      shutQueue := ?_, joinedQueue := ?_ }
  · intro f
    rw [hrecorded, hshape.ahead]
    exact h.recorded f
  · intro f
    rw [hsettled]
    exact h.settled f
  · intro f
    have hbefore := h.keys f
    have hgone := hsettled f
    have herased := hkeys f
    rw [hshape.staged]
    omega
  · rw [hshape.ahead]
    exact h.admittedBound
  · rw [hshape.refusing]
    exact h.rolledBack
  · have hbefore := h.fits
    omega
  · intro hopen
    have hbefore := h.openQueue hopen
    omega
  · intro w hw
    exact (hexited w hw).elim (h.exited w) id
  · rw [hshape.shut]
    exact h.shutQueue
  · rw [hshape.joined]
    intro hj
    rw [hjoined hj]
    exact h.joinedQueue hj

variable {w : Fin n} {old pc : WorkerPc}

theorem Accounted.handOver (hfree : InAdmission E ledger' index producer)
    (hw : workers w = old) (hrunning : old ≠ .exited)
    (hrecorded : ∀ f, tally f outcomes + pc.unrecorded f =
      tally f history.outcomes + old.unrecorded f)
    (hsettled : ∀ f, tally f settled + pc.unsettled f = tally f history.settled + old.unsettled f)
    (hdropped : pc.dropped ≤ old.dropped)
    (hexited : pc = .exited → stop = true ∨ queue.closed = true ∧ queue.tasks = []) :
    Accounted c attempted₀ ledger' planner queue attempted' stop producer index
      (update workers w pc) { history with outcomes, settled, ledgerErrors := errors } := by
  subst hw
  refine h.transfer hcounted hkeeps hkeys herrors hfree (.refl _) ?_ ?_ ?_ ?_ ?_
  · intro f
    have hupdate := unrecordedTotal_update f queue producer workers w pc
    have hpassed := hrecorded f
    omega
  · intro f
    have hupdate := unsettledTotal_update f queue producer workers w pc
    have hpassed := hsettled f
    omega
  · have hupdate := droppedTotal_update producer workers w pc
    omega
  · intro v hv
    rcases update_cases (P := (· = WorkerPc.exited)) hv with ⟨-, hv⟩ | ⟨-, hv⟩
    · exact .inr (hexited hv)
    · exact .inl hv
  · intro hjoined
    exact absurd ((h.joinedQueue hjoined).2 w) hrunning

omit hcounted hkeeps hkeys herrors

/-- A worker moves on without taking or giving anything. -/
theorem Accounted.moveWorker (hw : workers w = old) (hrunning : old ≠ .exited)
    (hunrecorded : ∀ f, pc.unrecorded f = old.unrecorded f)
    (hunsettled : ∀ f, pc.unsettled f = old.unsettled f) (hdropped : pc.dropped = old.dropped)
    (hexited : pc = .exited → stop = true ∨ queue.closed = true ∧ queue.tasks = []) :
    Accounted c attempted₀ ledger planner queue attempted stop producer
      index (update workers w pc) history := by
  refine h.handOver h.counted ⟨h.balanced, rfl, rfl⟩ (fun _ => rfl) h.noErrors h.inAdmission hw
    hrunning ?_ ?_ hdropped.le hexited
  · intro f
    rw [hunrecorded]
  · intro f
    rw [hunsettled]

end Transfers

theorem Accounted.takeQueue (hidle : producer.idle = true) (cancelled : Bool) (next : ProducerNext)
    (hnext : next = .conclude → ∀ w, workers w = .exited) :
    Accounted c attempted₀ ledger planner
      { queue with closed := true, cancelled, tasks := [] } attempted stop
      (.dropping { tasks := queue.tasks, headSettled := false } next)
      index workers history := by
  have hhead := h.atHead hidle
  have hunsettled : ∀ f, unsettledTotal f { queue with closed := true, cancelled, tasks := [] }
      (.dropping { tasks := queue.tasks, headSettled := false } next) workers =
        unsettledTotal f queue .head workers := by
    intro f
    simp only [unsettledTotal, unsettled, DropCursor.unsettled,
      indexesOf, map_nil, tally_nil, Bool.false_eq_true, if_false]
    omega
  refine
    { hhead with
      recorded := ?_, settled := ?_, keys := ?_, inAdmission := trivial, fits := ?_
      openQueue := nofun, cancelledQueue := fun _ => ⟨rfl, rfl⟩
      exited := fun _ _ => .inr ⟨rfl, rfl⟩, shutQueue := fun _ => rfl
      joinedQueue := ?_ }
  · intro f
    have hbefore := hhead.recorded f
    simp only [unrecordedTotal, unrecorded, ahead, indexesOf, map_nil, tally_nil] at hbefore ⊢
    omega
  · intro f
    rw [hunsettled]
    exact hhead.settled f
  · intro f
    rw [hunsettled]
    exact hhead.keys f
  · have hbefore := hhead.fits
    simp only [droppedTotal, dropped, length_nil] at hbefore ⊢
    omega
  · intro hjoined
    refine ⟨rfl, hnext ?_⟩
    cases next with
    | finish | join => cases hjoined
    | conclude => rfl

theorem Accounted.cancelQueue {w : Fin n} {next : WorkerNext} (hw : workers w = .cancelling next) :
    Accounted c attempted₀ ledger planner
      { queue with closed := true, cancelled := true, tasks := [] } attempted
      stop producer index
      (update workers w (.dropping { tasks := queue.tasks, headSettled := false } next))
      history := by
  generalize hpc : WorkerPc.dropping { tasks := queue.tasks, headSettled := false } next = pc
  have hunsettled : ∀ f, unsettledTotal f
      { queue with closed := true, cancelled := true, tasks := [] } producer
      (update workers w pc) = unsettledTotal f queue producer workers := by
    intro f
    have hupdate := held_update (WorkerPc.unsettled f) workers w pc
    rw [hw, ← hpc] at hupdate
    simp only [unsettledTotal, WorkerPc.unsettled, DropCursor.unsettled,
      indexesOf, map_nil, tally_nil, Bool.false_eq_true, if_false, ← hpc] at hupdate ⊢
    omega
  refine
    { h with
      recorded := ?_, settled := ?_, keys := ?_, fits := ?_, openQueue := nofun
      cancelledQueue := fun _ => ⟨rfl, rfl⟩
      exited := fun _ _ => .inr ⟨rfl, rfl⟩, shutQueue := fun _ => rfl
      joinedQueue := ?_ }
  · intro f
    have hbefore := h.recorded f
    have hupdate := held_update (WorkerPc.unrecorded f) workers w pc
    rw [hw, ← hpc] at hupdate
    simp only [unrecordedTotal, WorkerPc.unrecorded, indexesOf, map_nil,
      tally_nil, ← hpc] at hbefore hupdate ⊢
    omega
  · intro f
    rw [hunsettled]
    exact h.settled f
  · intro f
    rw [hunsettled]
    exact h.keys f
  · have hbefore := h.fits
    have hupdate := droppedTotal_update producer workers w pc
    rw [hw, ← hpc] at hupdate
    simp only [WorkerPc.dropped, length_nil, ← hpc] at hupdate ⊢
    omega
  · intro hjoined
    have hexited := (h.joinedQueue hjoined).2 w
    rw [hw] at hexited
    cases hexited

theorem Accounted.popTask
    {w : Fin n} {task : WalletTransactionLoadTask} {rest : List WalletTransactionLoadTask}
    (hw : workers w = .popping) (htasks : queue.tasks = task :: rest) :
    Accounted c attempted₀ ledger planner { queue with tasks := rest } attempted
      stop producer index (update workers w (.working task))
      history := by
  have hunsettled : ∀ f, unsettledTotal f { queue with tasks := rest } producer
          (update workers w (.working task)) =
        unsettledTotal f queue producer workers := by
    intro f
    have hupdate := held_update (WorkerPc.unsettled f) workers w (.working task)
    rw [hw] at hupdate
    simp only [unsettledTotal, WorkerPc.unsettled, htasks, indexesOf,
      map_cons, tally_cons] at hupdate ⊢
    omega
  have hdropped : droppedTotal producer (update workers w (.working task)) =
        droppedTotal producer workers := by
    have hupdate := droppedTotal_update producer workers w (.working task)
    rw [hw] at hupdate
    simpa only [WorkerPc.dropped, Nat.add_zero] using hupdate
  have hnonempty : queue.tasks ≠ [] := by
    rw [htasks]
    exact cons_ne_nil _ _
  refine
    { h with
      recorded := ?_, settled := ?_, keys := ?_, fits := ?_, openQueue := ?_
      cancelledQueue := ?_, exited := ?_, joinedQueue := ?_ }
  · intro f
    have hbefore := h.recorded f
    have hupdate := held_update (WorkerPc.unrecorded f) workers w (.working task)
    rw [hw] at hupdate
    simp only [unrecordedTotal, WorkerPc.unrecorded, htasks, indexesOf,
      map_cons, tally_cons] at hbefore hupdate ⊢
    omega
  · intro f
    rw [hunsettled]
    exact h.settled f
  · intro f
    rw [hunsettled]
    exact h.keys f
  · have hbefore := h.fits
    rw [htasks, length_cons] at hbefore
    rw [hdropped]
    simp only
    omega
  · rw [hdropped]
    exact h.openQueue
  · intro hcancelled
    exact absurd (h.cancelledQueue hcancelled).2 hnonempty
  · intro v hv
    rcases update_cases (P := (· = WorkerPc.exited)) hv with ⟨-, hv⟩ | ⟨-, hv⟩
    · cases hv
    rcases h.exited v hv with hstop | ⟨_, hempty⟩
    · exact .inl hstop
    · exact absurd hempty hnonempty
  · intro hjoined
    exact absurd (h.joinedQueue hjoined).1 hnonempty

theorem Accounted.stage (hidle : producer.idle = true)
    (hplanned : ledger.Planned p (index + 1) remaining plans staged ledger')
    (hadvanced : Advanced c.planner.val planner') :
    Accounted c attempted₀ ledger' planner' queue attempted stop
      (.admitting plans (staged.map Prod.fst)) index workers history := by
  have hhead := h.atHead hidle
  refine
    { hhead with
      keys := ?_, balanced := hplanned.balanced
      fee := hplanned.adds.fee.trans h.fee
      maximum := hplanned.adds.maximum.trans h.maximum, advanced := hadvanced
      inAdmission := ⟨p, ledger, staged, remaining, hplanned, h.balanced, rfl⟩ }
  intro f
  have hbefore := hhead.keys f
  rw [tally_keys_planned hplanned]
  simp only [unsettledTotal, ProducerPc.unsettled, ProducerPc.staged] at hbefore ⊢
  omega

/-- The indexes of a refused batch are used up, one outcome each. -/
theorem Accounted.handOut {count : Nat}
    (hidle : producer.idle = true) (htasks : indexesOf tasks = range' (index + 1) count) :
    Accounted c attempted₀ ledger planner queue attempted stop
      (.backpressured tasks count) index workers history := by
  have hhead := h.atHead hidle
  have hstart := h.started
  refine { hhead with recorded := ?_, admittedBound := ?_, inAdmission := trivial }
  · intro f
    have hbefore := hhead.recorded f
    have hsplit : index + count - c.nextTransactionIndex =
        index - c.nextTransactionIndex + count := by
      omega
    have hrow : c.nextTransactionIndex + 1 + (index - c.nextTransactionIndex) = index + 1 := by
      omega
    simp only [unrecordedTotal, unrecorded, ahead, Nat.add_zero] at hbefore ⊢
    rw [hsplit, tally_range'_add, hrow, ← hbefore, htasks]
    omega
  · intro i hi
    exact (hhead.admittedBound i hi).trans (Nat.le_add_right _ _)

end Moves

theorem Accounted.pushAdmitted {indexes : List Nat} {maximumSize : Nat}
    (h : Accounted c attempted₀ ledger planner queue attempted stop
      (.admitting plans indexes) index workers history)
    (htasks : indexesOf tasks = indexes) (hopen : queue.closed = false)
    (hroom : queue.tasks.length + tasks.length ≤ queue.capacity) :
    Accounted c attempted₀ ledger planner
      { queue with tasks := queue.tasks ++ tasks, maximumSize } attempted stop
      (.answered plans indexes tasks (.ok true)) index workers
      { history with admitted := history.admitted ++ indexesOf tasks } := by
  have hstaging : Staging E ledger index plans indexes := h.inAdmission
  have hrow := hstaging.indexes
  have hnone := h.openQueue hopen
  refine
    { h with
      recorded := ?_, settled := ?_, keys := ?_, admittedNodup := ?_
      admittedBound := ?_, inAdmission := ⟨hstaging, htasks⟩, fits := ?_
      cancelledQueue := ?_, exited := ?_, shutQueue := nofun, joinedQueue := nofun }
  · intro f
    have hbefore := h.recorded f
    have hextended := tally_handedOut hstaging h.started f
    simp only [unrecordedTotal, unrecorded, ahead, Nat.add_zero] at hbefore
    simp only [unrecordedTotal, unrecorded, ahead]
    rw [hextended, ← hbefore, ← htasks]
    simp only [indexesOf, map_append, tally_append]
    omega
  · intro f
    have hbefore := h.settled f
    simp only [unsettledTotal, unsettled] at hbefore ⊢
    simp only [indexesOf, map_append, tally_append] at hbefore ⊢
    omega
  · intro f
    have hbefore := h.keys f
    rw [← htasks] at hbefore
    simp only [unsettledTotal, unsettled, staged] at hbefore ⊢
    simp only [indexesOf, map_append, tally_append] at hbefore ⊢
    omega
  · rw [htasks, hrow]
    refine List.Nodup.append h.admittedNodup nodup_range' ?_
    intro i hold hnew
    have hbound := h.admittedBound i hold
    have hlow := (mem_range'_1.mp hnew).1
    simp only [ahead] at hbound
    omega
  · intro i hi
    simp only [ahead]
    rcases mem_append.mp hi with hold | hnew
    · have hbound := h.admittedBound i hold
      simp only [ahead] at hbound
      omega
    · rw [htasks, hrow] at hnew
      have hhigh := (mem_range'_1.mp hnew).2
      omega
  · have hsame : droppedTotal (.answered plans indexes tasks (.ok true)) workers = 0 := hnone
    rw [hsame]
    simp only [length_append]
    omega
  · intro hcancelled
    have hclosed := (h.cancelledQueue hcancelled).1
    rw [hopen] at hclosed
    cases hclosed
  · intro w hw
    rcases h.exited w hw with hstop | ⟨hclosed, _⟩
    · exact .inl hstop
    · rw [hopen] at hclosed
      cases hclosed

theorem Accounted.pushRefused {indexes : List Nat}
    (h : Accounted c attempted₀ ledger planner queue attempted stop
      (.admitting plans indexes) index workers history) (htasks : indexesOf tasks = indexes)
    (hanswer : answer ≠ .ok true) :
    Accounted c attempted₀ ledger planner queue attempted stop
      (.answered plans indexes tasks answer) index workers
      { history with refused := history.refused ++ [indexes] } := by
  have hstaging : Staging E ledger index plans indexes := h.inAdmission
  have hbefore := h.rolledBack
  simp only [refusing, append_nil] at hbefore
  match answer, hanswer with
  | .error message, _ =>
    exact
      { h with
        rolledBack := by
          simp only [refusing, hbefore]
        inAdmission := ⟨hstaging, htasks⟩ }
  | .ok false, _ =>
    exact
      { h with
        rolledBack := by
          simp only [refusing, hbefore]
        inAdmission := ⟨hstaging, htasks⟩ }
  | .ok true, hne => exact absurd rfl hne

theorem Accounted.finishAdmitted {indexes : List Nat}
    (h : Accounted c attempted₀ ledger planner queue attempted stop
      (.answered plans indexes tasks (.ok true)) index workers history) :
    Accounted c attempted₀ ledger planner queue attempted stop .head
      (index + plans.length) workers history :=
  { h with
    recorded := h.recorded
    started := Nat.le_trans h.started (Nat.le_add_right _ _)
    admittedBound := h.admittedBound
    inAdmission := trivial }

theorem Accounted.rollBack (maximumSize : Nat)
    (h : Accounted c attempted₀ ledger planner queue attempted stop
      (.answered plans (staged.map Prod.fst) tasks answer) index workers history)
    (hanswer : answer ≠ .ok true)
    (hplanned : base.Planned p (index + 1) remaining plans staged ledger) (hbase : base.Balanced) :
    Accounted c attempted₀ { base with maximumSize } planner queue attempted stop
      .finishing index workers
      { history with
        rolledBack := history.rolledBack ++ [staged.map Prod.fst] } := by
  have hkeys := tally_keys_planned hplanned
  have hshape : (∀ f, ProducerPc.staged f (.answered plans (staged.map Prod.fst) tasks answer) =
        tally f (staged.map Prod.fst)) ∧
      ProducerPc.ahead (.answered plans (staged.map Prod.fst) tasks answer) = 0 ∧
      ProducerPc.refusing (.answered plans (staged.map Prod.fst) tasks answer) =
        [staged.map Prod.fst] := by
    match answer, hanswer with
    | .error message, _ => exact ⟨fun _ => rfl, rfl, rfl⟩
    | .ok false, _ => exact ⟨fun _ => rfl, rfl, rfl⟩
    | .ok true, hne => exact absurd rfl hne
  obtain ⟨hstaged, hahead, hrefusing⟩ := hshape
  refine
    { h with
      recorded := ?_, keys := ?_, admittedBound := ?_, rolledBack := ?_
      balanced := hbase.withMaximumSize maximumSize
      fee := hplanned.adds.fee.symm.trans h.fee
      maximum := hplanned.adds.maximum.symm.trans h.maximum
      inAdmission := trivial, shutQueue := nofun, joinedQueue := nofun }
  · intro f
    have hbefore := h.recorded f
    rw [hahead] at hbefore
    exact hbefore
  · intro f
    have hbefore := h.keys f
    have hsplit := hkeys f
    rw [hstaged] at hbefore
    simp only [unsettledTotal, ProducerPc.unsettled, ProducerPc.staged] at hbefore ⊢
    omega
  · intro i hi
    have hbound := h.admittedBound i hi
    rw [hahead] at hbound
    exact hbound
  · have hbefore := h.rolledBack
    rw [hrefusing] at hbefore
    simpa only [ProducerPc.refusing, append_nil] using hbefore

/-- After the last outcome of a refused batch the index moves on. -/
theorem Accounted.advance {count : Nat}
    (h : Accounted c attempted₀ ledger planner queue attempted stop
      (.backpressured [] count) index workers history) :
    Accounted c attempted₀ ledger planner queue attempted stop .head
      (index + count) workers history :=
  { h with
    recorded := h.recorded
    started := Nat.le_trans h.started (Nat.le_add_right _ _)
    admittedBound := h.admittedBound
    inAdmission := trivial }

/-- The producer goes on once nothing is left in its cursor. -/
theorem Accounted.leaveDrop {headSettled : Bool} {next : ProducerNext}
    (h : Accounted c attempted₀ ledger planner queue attempted stop
      (.dropping { tasks := [], headSettled } next) index workers history) :
    Accounted c attempted₀ ledger planner queue attempted stop next.pc index workers history := by
  have hunsettled : ∀ f, unsettledTotal f queue
      (.dropping { tasks := [], headSettled } next) workers =
        unsettledTotal f queue next.pc workers := by
    intro f
    cases headSettled with
    | false | true => cases next <;> rfl
  have hsettled := h.settled
  have hkeys := h.keys
  simp only [hunsettled] at hsettled hkeys
  cases next with
  | finish | join | conclude =>
    exact { h with recorded := h.recorded, settled := hsettled, keys := hkeys }

end Steps

end Bbp.Simulator
