import Bbp.Simulator.WalletTransactionPlan
import Bbp.Library.Transition

/-!
# The balance reservation ledger of a transaction load

The ledger holds, for every wallet, the balance that is still available, the
amount reserved by outstanding transactions and their number, together with the
map from transaction index to reservation.

`planAndReserve` asks the planner for a batch on a copy of the balances in which
every busy sender counts as empty, stages a reservation for each entry, merges
them and only then calls the admission callback.  A callback that refuses or
throws makes the ledger roll the batch back entry by entry.  `settle` ends one
reservation in one of three ways, and `refreshAvailableBalances` replaces the
balances while nothing is outstanding.

Every operation returns what it threw together with the ledger it leaves, since
some of them throw after they have written.
-/

namespace Bbp.Simulator

open Library

section Errors

/-- What the ledger operations throw. -/
inductive LedgerError where
  | walletRequired
  | feeReserveRequired
  | boundRequired
  | plannerRequired
  | invalidAttemptRange
  | callbackRequired
  | invalidBatchSize
  | reservationBound
  | indexOverflow
  | duplicateIndex
  | senderOutsideLedger
  | busySender
  | amountPlusFeeOverflow
  | exceedsAvailableBalance
  | outstandingTotalOverflow
  | balanceDeltaMismatch
  | stagingDuplicate
  | settledMoreThanOnce
  | outstandingTotalUnderflow
  | senderCountUnderflow
  | actualBelowOutstanding
  | releasedOverflow
  | revisionOverflow
  | refreshWithOutstanding
  | refreshWalletCount
  | rollbackLost
  | rollbackUnderflow
  | rollbackOverflow
  | rollbackCountUnderflow
  | planner (error : PlanError)
  | callback (message : String)
deriving DecidableEq

/-- The text of each ledger error. -/
def LedgerError.message : LedgerError → String
  | .walletRequired => "transaction load balance ledger requires a wallet"
  | .feeReserveRequired => "transaction load balance ledger requires a fee reserve"
  | .boundRequired => "transaction load balance ledger requires a positive bound"
  | .plannerRequired => "transaction load balance ledger requires a planner"
  | .invalidAttemptRange => "transaction load balance ledger requires a valid attempt range"
  | .callbackRequired => "transaction load balance ledger requires an admission callback"
  | .invalidBatchSize => "transaction load planner returned an invalid batch size"
  | .reservationBound => "transaction load reservation bound would be exceeded"
  | .indexOverflow => "transaction load reservation transaction index overflows uint64"
  | .duplicateIndex => "transaction load reservation transaction index is duplicated"
  | .senderOutsideLedger => "transaction load reservation sender is outside the balance ledger"
  | .busySender => "transaction load planner reused a busy sender"
  | .amountPlusFeeOverflow => "transaction load reservation amount plus fee overflows uint64"
  | .exceedsAvailableBalance => "transaction load reservation exceeds the available balance"
  | .outstandingTotalOverflow => "transaction load outstanding reservation total overflows uint64"
  | .balanceDeltaMismatch => "transaction load planner balance delta does not match reservations"
  | .stagingDuplicate => "transaction load reservation staging contains a duplicate"
  | .settledMoreThanOnce => "transaction load reservation was settled more than once"
  | .outstandingTotalUnderflow => "transaction load outstanding reservation total underflows"
  | .senderCountUnderflow => "transaction load sender reservation count underflows"
  | .actualBelowOutstanding => "transaction load actual balance is below outstanding reservations"
  | .releasedOverflow => "transaction load released reservation overflows balance"
  | .revisionOverflow => "transaction load balance revision overflows uint64"
  | .refreshWithOutstanding => "transaction load balances cannot refresh with outstanding work"
  | .refreshWalletCount => "transaction load balance refresh has an invalid wallet count"
  | .rollbackLost => "transaction load admission rollback lost a reservation"
  | .rollbackUnderflow => "transaction load admission rollback underflows reservations"
  | .rollbackOverflow => "transaction load admission rollback overflows balance"
  | .rollbackCountUnderflow => "transaction load admission rollback underflows sender count"
  | .planner error => error.message
  | .callback message => message

/--
The errors that report a broken ledger or a planner whose batch does not fit it,
as opposed to those that reject an argument of the call.
-/
def LedgerError.isInternal : LedgerError → Bool
  | .senderOutsideLedger => true
  | .busySender => true
  | .amountPlusFeeOverflow => true
  | .exceedsAvailableBalance => true
  | .outstandingTotalOverflow => true
  | .balanceDeltaMismatch => true
  | .stagingDuplicate => true
  | .outstandingTotalUnderflow => true
  | .senderCountUnderflow => true
  | .releasedOverflow => true
  | .rollbackLost => true
  | .rollbackUnderflow => true
  | .rollbackOverflow => true
  | .rollbackCountUnderflow => true
  | _ => false

end Errors

section Ledger

structure Reservation where
  senderIndex : Nat
  amountSatoshis : Nat
deriving DecidableEq

structure TransactionLoadBalanceReservations where
  feeReserveSatoshis : Nat
  maximumReservations : Nat
  availableBalances : List Nat
  reservedBySender : List Nat
  outstandingBySender : List Nat
  reservations : List (Nat × Reservation)
  maximumSize : Nat
  balanceRevision : Nat
deriving DecidableEq

structure TransactionLoadBatchAdmission where
  plans : List WalletTransactionPlanEntry
  admitted : Bool
  balanceRevision : Nat
deriving DecidableEq

/-- What an admission callback answers: a decision or an exception. -/
abbrev AdmissionCallback : Type := List WalletTransactionPlanEntry → Except String Bool

namespace TransactionLoadBalanceReservations

/-- A ledger with nothing outstanding. -/
def create (availableBalances : List Nat) (feeReserveSatoshis maximumReservations : Nat) :
    Except LedgerError TransactionLoadBalanceReservations :=
  if availableBalances = [] then .error .walletRequired
  else if feeReserveSatoshis = 0 then .error .feeReserveRequired
  else if maximumReservations = 0 then .error .boundRequired
  else
    .ok
      { feeReserveSatoshis, maximumReservations, availableBalances
        reservedBySender := List.replicate availableBalances.length 0
        outstandingBySender := List.replicate availableBalances.length 0
        reservations := [], maximumSize := 0, balanceRevision := 0 }

/-- Overwrite the positions of the senders that have work outstanding. -/
def overwriteBusy (l : TransactionLoadBalanceReservations)
    (value : Nat → Nat) (balances : List Nat) : List Nat :=
  balances.mapIdx fun sender balance =>
    if slot l.outstandingBySender sender ≠ 0 then value sender else balance

/--
Stage one reservation for each planned entry.  The staged keys are the
transaction indexes of the batch, in order.
-/
def stageEntries (l : TransactionLoadBalanceReservations) (firstTransactionIndex : Nat) :
    Nat → List Nat → List Nat → List WalletTransactionPlanEntry →
    Except LedgerError (List Nat × List Nat × List (Nat × Reservation))
  | _, balances, reserved, [] => .ok (balances, reserved, [])
  | offset, balances, reserved, entry :: rest =>
    if offset > 2 ^ 64 - 1 - firstTransactionIndex then .error .indexOverflow
    else
      let transactionIndex := firstTransactionIndex + offset
      if (l.reservations.lookup transactionIndex).isSome then .error .duplicateIndex
      else if entry.senderIndex ≥ balances.length then .error .senderOutsideLedger
      else if slot l.outstandingBySender entry.senderIndex ≠ 0 then .error .busySender
      else if entry.amountSatoshis > 2 ^ 64 - 1 - l.feeReserveSatoshis then
        .error .amountPlusFeeOverflow
      else
        let reservedAmount := entry.amountSatoshis + l.feeReserveSatoshis
        if slot balances entry.senderIndex < reservedAmount then .error .exceedsAvailableBalance
        else if slot reserved entry.senderIndex > 2 ^ 64 - 1 - reservedAmount then
          .error .outstandingTotalOverflow
        else
          match stageEntries l firstTransactionIndex (offset + 1) (balances.set entry.senderIndex
                (slot balances entry.senderIndex - reservedAmount))
              (reserved.set entry.senderIndex
                (slot reserved entry.senderIndex + reservedAmount)) rest with
          | .error e => .error e
          | .ok (balances, reserved, staged) =>
            .ok (balances, reserved, (transactionIndex,
                { senderIndex := entry.senderIndex
                  amountSatoshis := reservedAmount }) :: staged)

/-- Count one more outstanding reservation for each staged sender. -/
def countStaged
    (outstanding : List Nat) (staged : List (Nat × Reservation)) : List Nat :=
  staged.foldl (fun counts entry =>
      counts.set entry.2.senderIndex (slot counts entry.2.senderIndex + 1))
    outstanding

/-- Take the reservations of a batch back, in order. -/
def rollBackReservations :
    TransactionLoadBalanceReservations → List Nat →
    Except LedgerError Unit × TransactionLoadBalanceReservations
  | l, [] => (.ok (), l)
  | l, transactionIndex :: rest =>
    match l.reservations.lookup transactionIndex with
    | none => (.error .rollbackLost, l)
    | some reservation =>
      let sender := reservation.senderIndex
      let amount := reservation.amountSatoshis
      if slot l.reservedBySender sender < amount then (.error .rollbackUnderflow, l)
      else if slot l.availableBalances sender > 2 ^ 64 - 1 - amount then
        (.error .rollbackOverflow, l)
      else
        let l :=
          { l with
            reservedBySender := l.reservedBySender.set sender
              (slot l.reservedBySender sender - amount) }
        if slot l.outstandingBySender sender = 0 then (.error .rollbackCountUnderflow, l)
        else
          rollBackReservations
            { l with
              outstandingBySender := l.outstandingBySender.set sender
                (slot l.outstandingBySender sender - 1)
              availableBalances := l.availableBalances.set sender
                (slot l.availableBalances sender + amount)
              reservations := eraseKey transactionIndex l.reservations }
            rest

/-- How far a call gets before its admission callback. -/
inductive PlanStep where
  | threw (error : LedgerError)
  | noPlan
  | staged (plans : List WalletTransactionPlanEntry) (indexes : List Nat)
deriving DecidableEq

variable {E : RandomEngine}

/-- The part of `planAndReserve` before the callback. -/
def planAndStage (fuel : Nat) (l : TransactionLoadBalanceReservations)
    (planner : LoadPlannerState E) (firstTransactionIndex remainingAttempts : Nat) :
    PlanStep × TransactionLoadBalanceReservations × LoadPlannerState E :=
  let plannedBalances := l.overwriteBusy (fun _ => 0) l.availableBalances
  match planner.nextBatch fuel plannedBalances remainingAttempts with
  | .error e => (.threw (.planner e), l, planner)
  | .ok (none, _, planner) => (.noPlan, l, planner)
  | .ok (some plans, plannedBalances, planner) =>
    if plans = [] ∨ plans.length > remainingAttempts then (.threw .invalidBatchSize, l, planner)
    else if l.reservations.length > l.maximumReservations ∨
        plans.length > l.maximumReservations - l.reservations.length then
      (.threw .reservationBound, l, planner)
    else
      match l.stageEntries firstTransactionIndex 0 l.availableBalances l.reservedBySender plans with
      | .error e => (.threw e, l, planner)
      | .ok (expectedBalances, expectedReserved, staged) =>
        if expectedBalances ≠ l.overwriteBusy (slot expectedBalances) plannedBalances then
          (.threw .balanceDeltaMismatch, l, planner)
        else
          let known := fun entry : Nat × Reservation => (l.reservations.lookup entry.1).isSome
          let l :=
            { l with
              availableBalances := expectedBalances
              reservedBySender := expectedReserved
              outstandingBySender := countStaged l.outstandingBySender staged
              reservations := l.reservations ++ staged.filter (fun entry => !known entry) }
          if staged.filter known ≠ [] then (.threw .stagingDuplicate, l, planner)
          else
            (.staged plans (staged.map Prod.fst),
              { l with
                maximumSize := max l.maximumSize l.reservations.length },
              planner)

/-- The part of `planAndReserve` after the callback has answered. -/
def finishAdmission (l : TransactionLoadBalanceReservations)
    (plans : List WalletTransactionPlanEntry) (indexes : List Nat) (answer : Except String Bool) :
    Except LedgerError TransactionLoadBatchAdmission ×
      TransactionLoadBalanceReservations :=
  match answer with
  | .error message =>
    match l.rollBackReservations indexes with
    | (.error e, l) => (.error e, l)
    | (.ok (), l) => (.error (.callback message), l)
  | .ok false =>
    match l.rollBackReservations indexes with
    | (.error e, l) => (.error e, l)
    | (.ok (), l) =>
      (.ok { plans, admitted := false
             balanceRevision := l.balanceRevision }, l)
  | .ok true => (.ok { plans, admitted := true, balanceRevision := l.balanceRevision }, l)

/-- Plan the next batch, reserve it and let the callback accept it. -/
def planAndReserve (fuel : Nat) (l : TransactionLoadBalanceReservations)
    (planner : Option (LoadPlannerState E)) (firstTransactionIndex remainingAttempts : Nat)
    (admitBatch : Option AdmissionCallback) :
    Except LedgerError TransactionLoadBatchAdmission ×
      TransactionLoadBalanceReservations × Option (LoadPlannerState E) :=
  match planner with
  | none => (.error .plannerRequired, l, none)
  | some planner =>
    if firstTransactionIndex = 0 ∨ remainingAttempts = 0 then
      (.error .invalidAttemptRange, l, some planner)
    else
      match admitBatch with
      | none => (.error .callbackRequired, l, some planner)
      | some admitBatch =>
        match l.planAndStage fuel planner firstTransactionIndex remainingAttempts with
        | (.threw e, l, planner) => (.error e, l, some planner)
        | (.noPlan, l, planner) =>
          (.ok { plans := [], admitted := false
                 balanceRevision := l.balanceRevision },
            l, some planner)
        | (.staged plans indexes, l, planner) =>
          let (result, l) := l.finishAdmission plans indexes (admitBatch plans)
          (result, l, some planner)

/-- The balance a settlement leaves available, and whether it fell short. -/
def settledBalance (available remainingReserved amount : Nat) (actualAvailableBalance : Option Nat)
    (releaseIfBalanceUnavailable : Bool) : Except LedgerError (Nat × Bool) :=
  match actualAvailableBalance with
  | some actual =>
    if actual < remainingReserved then .ok (0, true)
    else .ok (actual - remainingReserved, false)
  | none =>
    if releaseIfBalanceUnavailable then
      if available > 2 ^ 64 - 1 - amount then .error .releasedOverflow
      else .ok (available + amount, false)
    else .ok (available, false)

/-- End one reservation. -/
def settle (l : TransactionLoadBalanceReservations) (transactionIndex : Nat)
    (actualAvailableBalance : Option Nat) (releaseIfBalanceUnavailable : Bool)
    (onSettled : Option (Nat → Except String Unit)) :
    Except LedgerError Unit × TransactionLoadBalanceReservations :=
  match l.reservations.lookup transactionIndex with
  | none => (.error .settledMoreThanOnce, l)
  | some reservation =>
    let sender := reservation.senderIndex
    let amount := reservation.amountSatoshis
    if slot l.reservedBySender sender < amount then (.error .outstandingTotalUnderflow, l)
    else
      let remainingReserved := slot l.reservedBySender sender - amount
      if slot l.outstandingBySender sender = 0 then (.error .senderCountUnderflow, l)
      else
        match settledBalance (slot l.availableBalances sender)
            remainingReserved amount actualAvailableBalance
            releaseIfBalanceUnavailable with
        | .error e => (.error e, l)
        | .ok (available, shortfall) =>
          if l.balanceRevision = 2 ^ 64 - 1 then (.error .revisionOverflow, l)
          else
            let l :=
              { l with
                availableBalances := l.availableBalances.set sender available
                reservedBySender := l.reservedBySender.set sender remainingReserved
                outstandingBySender := l.outstandingBySender.set sender
                  (slot l.outstandingBySender sender - 1)
                reservations := eraseKey transactionIndex l.reservations
                balanceRevision := l.balanceRevision + 1 }
            let notified : Except String Unit :=
              match onSettled with
              | none => .ok ()
              | some notify => notify amount
            match notified with
            | .error message => (.error (.callback message), l)
            | .ok () =>
              if shortfall then (.error .actualBelowOutstanding, l)
              else (.ok (), l)

/-- Replace the balances while nothing is outstanding; did they change? -/
def refreshAvailableBalances
    (l : TransactionLoadBalanceReservations) (availableBalances : List Nat) :
    Except LedgerError Bool × TransactionLoadBalanceReservations :=
  if l.reservations ≠ [] then (.error .refreshWithOutstanding, l)
  else if availableBalances.length ≠ l.availableBalances.length then (.error .refreshWalletCount, l)
  else
    let changed := decide (availableBalances ≠ l.availableBalances)
    let l := { l with availableBalances }
    if l.balanceRevision = 2 ^ 64 - 1 then (.error .revisionOverflow, l)
    else (.ok changed, { l with balanceRevision := l.balanceRevision + 1 })

end TransactionLoadBalanceReservations

end Ledger

end Bbp.Simulator
