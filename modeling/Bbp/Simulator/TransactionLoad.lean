import Bbp.Simulator.WalletTransactionPlan

/-!
# The task queue and the accounting of a transaction load

The queue is bounded, takes whole batches, and is closed for good once it is
closed or cancelled.  The accounting counts every terminal outcome of an attempt
once and, later, how many of the submitted transactions were seen and confirmed.
-/

namespace Bbp.Simulator

open Library

section Queue

structure WalletTransactionLoadTask where
  transactionIndex : Nat
  plan : WalletTransactionPlanEntry
deriving DecidableEq

structure BoundedWalletTransactionQueue where
  capacity : Nat
  tasks : List WalletTransactionLoadTask
  maximumSize : Nat
  closed : Bool
  cancelled : Bool
deriving DecidableEq

namespace BoundedWalletTransactionQueue

def create (capacity : Nat) : Except String BoundedWalletTransactionQueue :=
  if capacity = 0 then .error "transaction load queue capacity must be greater than zero"
  else
    .ok { capacity, tasks := [], maximumSize := 0, closed := false
          cancelled := false }

/-- The text of the exception that a push to a closed queue throws. -/
def closedMessage : String := "transaction load queue is closed"

/-- Push a whole batch, unless it does not fit. -/
def tryPushBatch (q : BoundedWalletTransactionQueue) (tasks : List WalletTransactionLoadTask)
    (beforePublish : Except String Unit) : Except String Bool × BoundedWalletTransactionQueue :=
  if q.closed then (.error closedMessage, q)
  else if tasks.length > q.capacity ∨ q.tasks.length > q.capacity - tasks.length then (.ok false, q)
  else
    match beforePublish with
    | .error message => (.error message, q)
    | .ok () =>
      let q := { q with tasks := q.tasks ++ tasks }
      (.ok true, { q with maximumSize := max q.maximumSize q.tasks.length })

/-- How a call of `Pop` returns, if it returns now. -/
inductive Popped where
  | nothing
  | task (task : WalletTransactionLoadTask)
deriving DecidableEq

/-- Pop the first task; a call with neither a task nor a reason to end waits. -/
def pop (q : BoundedWalletTransactionQueue) (stopRequested : Bool) :
    Option (Popped × BoundedWalletTransactionQueue) :=
  if stopRequested ∨ q.cancelled then some (.nothing, q)
  else
    match q.tasks with
    | [] => if q.closed then some (.nothing, q) else none
    | task :: rest => some (.task task, { q with tasks := rest })

def close (q : BoundedWalletTransactionQueue) : BoundedWalletTransactionQueue :=
  { q with closed := true }

def dropPendingAndClose (q : BoundedWalletTransactionQueue) :
    List WalletTransactionLoadTask × BoundedWalletTransactionQueue :=
  (q.tasks, { q with closed := true, tasks := [] })

def cancel (q : BoundedWalletTransactionQueue) :
    List WalletTransactionLoadTask × BoundedWalletTransactionQueue :=
  (q.tasks, { q with closed := true, cancelled := true, tasks := [] })

end BoundedWalletTransactionQueue

end Queue

section Accounting

inductive TransactionLoadOutcome where
  | submitted
  | rejected
  | timedOut
  | backpressured
  | dropped
  | cancelled
  | failed
deriving DecidableEq

instance : Fintype TransactionLoadOutcome where
  elems := {.submitted, .rejected, .timedOut, .backpressured, .dropped,
    .cancelled, .failed}
  complete outcome := by cases outcome <;> decide

/-- The counters of a load that its accounting keeps. -/
structure TransactionLoadSnapshot where
  revision : Nat := 0
  attempted : Nat := 0
  submitted : Nat := 0
  rejected : Nat := 0
  timedOut : Nat := 0
  backpressured : Nat := 0
  dropped : Nat := 0
  cancelled : Nat := 0
  failed : Nat := 0
  propagated : Nat := 0
  confirmed : Nat := 0
  observationErrors : Nat := 0
  latencySampleCount : Nat := 0
  latencyTotalUs : Nat := 0
  latencyMinUs : Nat := 0
  latencyMaxUs : Nat := 0
deriving DecidableEq

/-- What the accounting throws. -/
inductive AccountingError where
  | negativeLatency
  | counterOverflow (field : String)
  | latencyTotalOverflow
  | propagatedExceedsSubmitted
  | confirmedExceedsPropagated
deriving DecidableEq

def AccountingError.message : AccountingError → String
  | .negativeLatency => "transaction load latency must not be negative"
  | .counterOverflow field => "transaction load " ++ field ++ " counter overflow"
  | .latencyTotalOverflow => "transaction load latency total overflow"
  | .propagatedExceedsSubmitted => "transaction load propagated count exceeds submitted count"
  | .confirmedExceedsPropagated => "transaction load confirmed count exceeds propagated count"

namespace TransactionLoadSnapshot

/-- The counter of an outcome, with the name its errors use. -/
def counterOf (c : TransactionLoadSnapshot) : TransactionLoadOutcome → Nat × String
  | .submitted => (c.submitted, "submitted")
  | .rejected => (c.rejected, "rejected")
  | .timedOut => (c.timedOut, "timed_out")
  | .backpressured => (c.backpressured, "backpressured")
  | .dropped => (c.dropped, "dropped")
  | .cancelled => (c.cancelled, "cancelled")
  | .failed => (c.failed, "failed")

/-- Count one more of an outcome. -/
def incrementOutcome (c : TransactionLoadSnapshot) :
    TransactionLoadOutcome → TransactionLoadSnapshot
  | .submitted => { c with submitted := c.submitted + 1 }
  | .rejected => { c with rejected := c.rejected + 1 }
  | .timedOut => { c with timedOut := c.timedOut + 1 }
  | .backpressured => { c with backpressured := c.backpressured + 1 }
  | .dropped => { c with dropped := c.dropped + 1 }
  | .cancelled => { c with cancelled := c.cancelled + 1 }
  | .failed => { c with failed := c.failed + 1 }

/-- The latency fields after one more sample. -/
def addLatency (c : TransactionLoadSnapshot) (latencyUs : Nat) : TransactionLoadSnapshot :=
  let c :=
    { c with
      latencyTotalUs := c.latencyTotalUs + latencyUs
      latencySampleCount := c.latencySampleCount + 1 }
  if c.latencySampleCount = 1 then { c with latencyMinUs := latencyUs, latencyMaxUs := latencyUs }
  else
    { c with
      latencyMinUs := min c.latencyMinUs latencyUs
      latencyMaxUs := max c.latencyMaxUs latencyUs }

/-- Count one terminal outcome; every check comes before the first write. -/
def recordOutcome (c : TransactionLoadSnapshot) (outcome : TransactionLoadOutcome)
    (latency : Int) : Except AccountingError TransactionLoadSnapshot :=
  if latency < 0 then .error .negativeLatency
  else if c.revision = 2 ^ 64 - 1 then .error (.counterOverflow "revision")
  else if c.attempted = 2 ^ 64 - 1 then .error (.counterOverflow "attempted")
  else if c.latencySampleCount = 2 ^ 64 - 1 then .error (.counterOverflow "latency sample")
  else if c.latencyTotalUs > 2 ^ 64 - 1 - latency.toNat then .error .latencyTotalOverflow
  else if (c.counterOf outcome).1 = 2 ^ 64 - 1 then
    .error (.counterOverflow (c.counterOf outcome).2)
  else
    let c := incrementOutcome { c with attempted := c.attempted + 1 } outcome
    let c := c.addLatency latency.toNat
    .ok { c with revision := c.revision + 1 }

/-- Count a transaction that every node has seen, and perhaps confirmed. -/
def recordPropagated (c : TransactionLoadSnapshot) (confirmed : Bool) :
    Except AccountingError Unit × TransactionLoadSnapshot :=
  if c.revision = 2 ^ 64 - 1 then (.error (.counterOverflow "revision"), c)
  else if c.propagated = c.submitted then (.error .propagatedExceedsSubmitted, c)
  else if c.propagated = 2 ^ 64 - 1 then (.error (.counterOverflow "propagated"), c)
  else
    let c := { c with propagated := c.propagated + 1 }
    if confirmed then
      if c.confirmed = 2 ^ 64 - 1 then (.error (.counterOverflow "confirmed"), c)
      else (.ok (), { c with confirmed := c.confirmed + 1, revision := c.revision + 1 })
    else (.ok (), { c with revision := c.revision + 1 })

/-- Count a propagated transaction that every node has confirmed by now. -/
def recordConfirmed (c : TransactionLoadSnapshot) :
    Except AccountingError Unit × TransactionLoadSnapshot :=
  if c.revision = 2 ^ 64 - 1 then (.error (.counterOverflow "revision"), c)
  else if c.confirmed = c.propagated then (.error .confirmedExceedsPropagated, c)
  else if c.confirmed = 2 ^ 64 - 1 then (.error (.counterOverflow "confirmed"), c)
  else (.ok (), { c with confirmed := c.confirmed + 1, revision := c.revision + 1 })

def recordObservationError (c : TransactionLoadSnapshot) :
    Except AccountingError Unit × TransactionLoadSnapshot :=
  if c.revision = 2 ^ 64 - 1 then (.error (.counterOverflow "revision"), c)
  else if c.observationErrors = 2 ^ 64 - 1 then (.error (.counterOverflow "observation error"), c)
  else
    (.ok (), { c with observationErrors := c.observationErrors + 1
                      revision := c.revision + 1 })

/-- No counter that `recordOutcome` moves is at its end. -/
structure HasRoom (c : TransactionLoadSnapshot) (latency : Nat) : Prop where
  revision : c.revision < 2 ^ 64 - 1
  attempted : c.attempted < 2 ^ 64 - 1
  latencySampleCount : c.latencySampleCount < 2 ^ 64 - 1
  latencyTotalUs : c.latencyTotalUs + latency ≤ 2 ^ 64 - 1
  outcomes : ∀ outcome, (c.counterOf outcome).1 < 2 ^ 64 - 1

instance (c : TransactionLoadSnapshot) (latency : Nat) :
    Decidable (c.HasRoom latency) :=
  decidable_of_iff (c.revision < 2 ^ 64 - 1 ∧ c.attempted < 2 ^ 64 - 1 ∧
      c.latencySampleCount < 2 ^ 64 - 1 ∧
      c.latencyTotalUs + latency ≤ 2 ^ 64 - 1 ∧
      ∀ outcome, (c.counterOf outcome).1 < 2 ^ 64 - 1)
    ⟨fun ⟨hr, ha, hn, ht, ho⟩ => ⟨hr, ha, hn, ht, ho⟩,
      fun h => ⟨h.revision, h.attempted, h.latencySampleCount, h.latencyTotalUs, h.outcomes⟩⟩

/-- One more sample changes the latency fields only. -/
theorem addLatency_frame (c : TransactionLoadSnapshot) (latencyUs : Nat) :
    ∃ low high, c.addLatency latencyUs =
      { c with
        latencyTotalUs := c.latencyTotalUs + latencyUs
        latencySampleCount := c.latencySampleCount + 1
        latencyMinUs := low
        latencyMaxUs := high } := by
  simp only [addLatency]
  split
  all_goals exact ⟨_, _, rfl⟩

/-- With room left an outcome is counted as one more attempt. -/
theorem recordOutcome_of_room {c : TransactionLoadSnapshot} {latency : Nat}
    (h : c.HasRoom latency) (outcome : TransactionLoadOutcome) :
    ∃ c', c.recordOutcome outcome latency = .ok c' ∧
      c'.attempted = c.attempted + 1 := by
  have hrevision := h.revision
  have hattempted := h.attempted
  have hsamples := h.latencySampleCount
  have htotal := h.latencyTotalUs
  have houtcome := h.outcomes outcome
  simp only [recordOutcome, Int.toNat_natCast]
  rw [if_neg (by omega), if_neg (by omega), if_neg (by omega),
    if_neg (by omega), if_neg (by omega), if_neg (by omega)]
  refine ⟨_, rfl, ?_⟩
  obtain ⟨low, high, hframe⟩ := addLatency_frame
    (incrementOutcome { c with attempted := c.attempted + 1 } outcome) latency
  rw [hframe]
  cases outcome <;> rfl

variable {outcome : TransactionLoadOutcome} {c c' : TransactionLoadSnapshot}

theorem recordOutcome_ok {latency : Int} (h : c.recordOutcome outcome latency = .ok c') :
    ∃ low high, c.attempted ≠ 2 ^ 64 - 1 ∧
      c' = { incrementOutcome { c with attempted := c.attempted + 1 } outcome with
        latencyTotalUs := c.latencyTotalUs + latency.toNat
        latencySampleCount := c.latencySampleCount + 1
        latencyMinUs := low
        latencyMaxUs := high
        revision := c.revision + 1 } := by
  simp only [recordOutcome] at h
  repeat' split at h
  all_goals cases h
  obtain ⟨low, high, hframe⟩ := addLatency_frame
    (incrementOutcome { c with attempted := c.attempted + 1 } outcome) latency.toNat
  refine ⟨low, high, by assumption, ?_⟩
  rw [hframe]
  cases outcome <;> rfl

/-- Only a submission moves the counter of submitted transactions. -/
theorem recordOutcome_counts {latency : Int} (h : c.recordOutcome outcome latency = .ok c') :
    c'.propagated = c.propagated ∧ c'.confirmed = c.confirmed ∧
    c'.submitted = c.submitted + (if outcome = .submitted then 1 else 0) := by
  obtain ⟨_, _, -, rfl⟩ := recordOutcome_ok h
  cases outcome <;> exact ⟨rfl, rfl, rfl⟩

end TransactionLoadSnapshot

end Accounting

end Bbp.Simulator
