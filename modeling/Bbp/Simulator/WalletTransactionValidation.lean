import Bbp.Simulator.WalletTransactionPlan

/-!
# The validation of a wallet transaction workload

A workload is validated for the number of wallets a run has at that time.  The checks
of fields that no other part of the development reads (the funding, the intervals, the
timeouts, the topology) are left out.

`AcceptedWorkload` is a workload together with the fact that it has been validated once,
so that a record cannot hold any other workload.
-/

namespace Bbp.Simulator

open Library

section Limits

def walletTransactionDurationAttemptLimit
    (duration : Int) (rate : WalletTransactionRate) : Except String Nat :=
  if duration ≤ 0 then .error "transaction load duration must be greater than zero"
  else if duration.toNat > (2 ^ 64 - 1) / rate.millionths then
    .error "transaction load duration and rate attempt count overflows uint64"
  else
    let numerator := duration.toNat * rate.millionths
    let quotient := numerator / 1000000000
    let remainder := numerator % 1000000000
    if quotient = 2 ^ 64 - 1 ∧ remainder ≠ 0 then
      .error "transaction load duration attempt count exceeds uint64"
    else .ok (quotient + if remainder = 0 then 0 else 1)

def explicitWalletTransactionAttemptLimit
    (workload : WalletTransactionsWorkload) : Except String (Option Nat) :=
  if workload.transactionCount ≠ 0 then .ok (some workload.transactionCount)
  else
    match workload.duration with
    | none => .ok none
    | some duration =>
      match workload.transactionRate with
      | none => .error "wallet transaction duration requires transaction_rate"
      | some rate => (walletTransactionDurationAttemptLimit duration rate).map some

end Limits

section Validation

def kMaximumWalletTransactionLoadConcurrency : Nat := 64

def kMaximumWalletTransactionLoadQueueCapacity : Nat := 65536

/-- The checks of the limits, the amounts and the fees. -/
def validateAmounts (workload : WalletTransactionsWorkload) : Except String Unit :=
  let feeReserve := effectiveWalletTransactionFeeReserveSatoshis workload
  if workload.amount.minimumSatoshis = 0 then
    .error "scenario wallet_transactions amount must be greater than zero"
  else if workload.amount.minimumSatoshis > workload.amount.maximumSatoshis then
    .error "scenario wallet_transactions amount distribution min must be <= max"
  else if workload.feeSatoshis = 0 then
    .error "scenario wallet_transactions fee must be greater than zero"
  else if feeReserve < workload.feeSatoshis then
    .error "scenario transaction load fee reserve must cover the requested fee rate"
  else if workload.amount.maximumSatoshis > 2 ^ 64 - 1 - feeReserve then
    .error "scenario wallet_transactions amount plus fee overflows uint64"
  else .ok ()

/-- The checks that only a transaction load has to pass. -/
def validateLoad (workload : WalletTransactionsWorkload) : Except String Unit :=
  if workload.concurrency = 0 ∨ workload.concurrency > kMaximumWalletTransactionLoadConcurrency then
    .error ("scenario transaction load concurrency must be in 1.." ++
      toString kMaximumWalletTransactionLoadConcurrency)
  else if workload.queueCapacity = 0 ∨
      workload.queueCapacity > kMaximumWalletTransactionLoadQueueCapacity then
    .error ("scenario transaction load queue_capacity must be in 1.." ++
      toString kMaximumWalletTransactionLoadQueueCapacity)
  else
    match workload.duration, workload.transactionRate with
    | some duration, some rate =>
      (walletTransactionDurationAttemptLimit duration rate).map fun _ => ()
    | _, _ => .ok ()

/-- The checks of an `equal_fanout`. -/
def validateEqualFanout
    (workload : WalletTransactionsWorkload) : Except String Unit :=
  let feeReserve := effectiveWalletTransactionFeeReserveSatoshis workload
  let receiverCount := workload.receiverWallets.length
  if workload.retainedBalanceBasisPoints.isSome then
    .error "scenario equal_fanout does not accept retained_balance_percentage"
  else if workload.senderWallets = [] ∨ workload.receiverWallets = [] then
    .error ("scenario transaction load requires nonempty sender_wallets and " ++ "receiver_wallets")
  else if workload.senderWallets.any (· ∈ workload.receiverWallets) then
    .error ("scenario transaction load sender_wallets and receiver_wallets " ++ "must be disjoint")
  else if feeReserve > (2 ^ 64 - 1) / receiverCount then
    .error "scenario equal_fanout fee total overflows uint64"
  else if workload.amount.minimumSatoshis >
      (2 ^ 64 - 1 - feeReserve * receiverCount) / receiverCount then
    .error "scenario equal_fanout minimum amount total overflows uint64"
  else if workload.queueCapacity < receiverCount then
    .error ("scenario equal_fanout queue_capacity must fit one complete " ++ "receiver batch")
  else
    match explicitWalletTransactionAttemptLimit workload with
    | .error message => .error message
    | .ok none => .ok ()
    | .ok (some limit) =>
      if limit % receiverCount ≠ 0 then
        .error ("scenario equal_fanout attempt limit must contain complete " ++ "receiver batches")
      else .ok ()

def validateStrategy (walletCount : Nat) (workload : WalletTransactionsWorkload) :
    Except String Unit :=
  match workload.strategy with
  | .roundRobin | .random =>
    if workload.senderWallets ≠ [] ∨ workload.receiverWallets ≠ [] then
      .error ("scenario wallet_transactions wallet selectors require fanout " ++
        "or hotspot strategy")
    else .ok ()
  | .fanout =>
    if workload.senderWallets = [] then
      .error "scenario wallet_transactions fanout requires sender_wallets"
    else if workload.receiverWallets ≠ [] then
      .error "scenario wallet_transactions fanout does not accept receiver_wallets"
    else if workload.senderWallets.length ≥ walletCount then
      .error ("scenario wallet_transactions fanout sender_wallets must leave " ++
        "at least one receiver")
    else .ok ()
  | .hotspot =>
    if workload.receiverWallets = [] then
      .error "scenario wallet_transactions hotspot requires receiver_wallets"
    else if workload.senderWallets ≠ [] then
      .error "scenario wallet_transactions hotspot does not accept sender_wallets"
    else if workload.receiverWallets.length ≥ walletCount then
      .error ("scenario wallet_transactions hotspot receiver_wallets must " ++
        "leave at least one sender")
    else .ok ()
  | .randomBruteforce =>
    if workload.senderWallets ≠ [] ∨ workload.receiverWallets ≠ [] then
      .error ("scenario random_bruteforce uses every wallet and does not " ++
        "accept sender_wallets or receiver_wallets")
    else if workload.retainedBalanceBasisPoints.all (· ≥ 10000) then
      .error ("scenario random_bruteforce requires " ++ "retained_balance_percentage in 0..99.99")
    else if workload.queueCapacity < walletCount then
      .error ("scenario random_bruteforce queue_capacity must fit one task " ++ "per wallet")
    else .ok ()
  | .equalFanout => validateEqualFanout workload

/-- Which limits may be given together. -/
def validateLimits (workload : WalletTransactionsWorkload) : Except String Unit :=
  if isTransactionLoadStrategy workload.strategy then
    if workload.transactionCount ≠ 0 ∧ workload.duration.isSome then
      .error ("scenario transaction load transaction_count and duration are " ++
        "mutually exclusive")
    else if workload.duration.isSome ∧ workload.transactionRate.isNone then
      .error "scenario transaction load duration requires transaction_rate"
    else .ok ()
  else if workload.transactionCount ≠ 0 ∧ workload.transactionRate.isSome then
    .error ("scenario wallet_transactions transaction_count and transaction_rate " ++
      "are mutually exclusive")
  else .ok ()

/-- A load planner can be built for the workload. -/
def validatePlanner (E : RandomEngine) (walletCount : Nat) (workload : WalletTransactionsWorkload) :
    Except String Unit :=
  match LoadPlannerState.create E walletCount workload 0 with
  | .error e => .error e.message
  | .ok _ => .ok ()

def validateWalletTransactionsWorkload
    (E : RandomEngine) (walletCount : Nat) (workload : WalletTransactionsWorkload) :
    Except String Unit :=
  if walletCount < 2 then
    .error ("scenario wallet_transactions workload requires at least two " ++ "WalletNode roles")
  else do
    validateLimits workload
    validateAmounts workload
    if isTransactionLoadStrategy workload.strategy then validateLoad workload
    validateStrategy walletCount workload
    if isTransactionLoadStrategy workload.strategy then validatePlanner E walletCount workload

/-- A workload that the validation has let through for some number of wallets. -/
def AcceptedWorkload (E : RandomEngine) : Type :=
  { workload : WalletTransactionsWorkload //
    ∃ walletCount, validateWalletTransactionsWorkload E walletCount workload = .ok () }

end Validation

section Planner

variable {E : RandomEngine} {walletCount : Nat} {workload : WalletTransactionsWorkload}
  {sequenceOffset : U64} {planner : LoadPlannerState E}

theorem resolveSelectedWallets_length {field : String} {unique wallets selected : List Nat}
    (h : resolveSelectedWallets walletCount field unique selected = .ok wallets) :
    wallets.length = selected.length := by
  induction selected generalizing unique wallets with
  | nil =>
    cases h
    rfl
  | cons wallet rest ih =>
    simp only [resolveSelectedWallets] at h
    split_ifs at h
    cases hrest : resolveSelectedWallets walletCount field (wallet :: unique) rest with
    | error e => simp only [hrest, reduceCtorEq] at h
    | ok result =>
      simp only [hrest] at h
      cases h
      simp [ih hrest]

/-- The fields that the planner takes from the workload. -/
theorem create_fields
    (h : LoadPlannerState.create E walletCount workload sequenceOffset = .ok planner) :
    planner.workload = workload ∧
      (workload.strategy = .equalFanout →
        planner.receivers.length = workload.receiverWallets.length) := by
  simp only [LoadPlannerState.create] at h
  split_ifs at h with hload hwallets hamount hfee hbruteforce hselectors
  · cases hpoints : workload.retainedBalanceBasisPoints with
    | none => simp only [hpoints, reduceCtorEq] at h
    | some points =>
      simp only [hpoints] at h
      split_ifs at h
      cases h
      refine ⟨rfl, fun hfanout => ?_⟩
      rw [hbruteforce] at hfanout
      cases hfanout
  · cases hsenders : resolveSelectedWallets walletCount "sender_wallets" []
        workload.senderWallets with
    | error e => simp only [hsenders, reduceCtorEq] at h
    | ok senders =>
      cases hreceivers : resolveSelectedWallets walletCount "receiver_wallets" []
          workload.receiverWallets with
      | error e => simp only [hsenders, hreceivers, reduceCtorEq] at h
      | ok receivers =>
        simp only [hsenders, hreceivers] at h
        split_ifs at h
        cases hdisjoint : requireDisjointWalletSets senders receivers with
        | error e => simp only [hdisjoint, reduceCtorEq] at h
        | ok _ =>
          simp only [hdisjoint] at h
          cases h
          exact ⟨rfl, fun _ => resolveSelectedWallets_length hreceivers⟩

end Planner

section Accepted

variable {E : RandomEngine} {walletCount : Nat} {workload : WalletTransactionsWorkload}

theorem bind_unit_ok {first second : Except String Unit}
    (h : (first >>= fun _ => second) = .ok ()) : first = .ok () ∧ second = .ok () := by
  cases first with
  | error message => cases h
  | ok _ => exact ⟨rfl, h⟩

theorem validate_load (h : validateWalletTransactionsWorkload E walletCount workload = .ok ())
    (hload : isTransactionLoadStrategy workload.strategy = true) :
    validateLoad workload = .ok () ∧ validateStrategy walletCount workload = .ok () := by
  unfold validateWalletTransactionsWorkload at h
  split_ifs at h with hwallets
  obtain ⟨-, h⟩ := bind_unit_ok h
  obtain ⟨-, h⟩ := bind_unit_ok h
  obtain ⟨hchecks, h⟩ := bind_unit_ok h
  obtain ⟨hstrategy, -⟩ := bind_unit_ok h
  exact ⟨hchecks, hstrategy⟩

/-- A load that has been accepted has workers. -/
theorem AcceptedWorkload.concurrency_pos (w : AcceptedWorkload E)
    (hload : isTransactionLoadStrategy w.val.strategy = true) : 0 < w.val.concurrency := by
  obtain ⟨walletCount, h⟩ := w.property
  obtain ⟨hchecks, -⟩ := validate_load h hload
  unfold validateLoad at hchecks
  split_ifs at hchecks with hconcurrency
  omega

/-- A fan-out that has been accepted is limited to whole batches. -/
theorem AcceptedWorkload.whole_batches (w : AcceptedWorkload E)
    (hfanout : w.val.strategy = .equalFanout) {limit : Nat}
    (hlimit : explicitWalletTransactionAttemptLimit w.val = .ok (some limit)) :
    limit % w.val.receiverWallets.length = 0 := by
  obtain ⟨walletCount, h⟩ := w.property
  have hload : isTransactionLoadStrategy w.val.strategy = true := by
    rw [hfanout]
    rfl
  obtain ⟨-, hstrategy⟩ := validate_load h hload
  simp only [validateStrategy, hfanout, validateEqualFanout, hlimit] at hstrategy
  split_ifs at hstrategy with h1 h2 h3 h4 h5 h6 hbatches
  simpa using hbatches

end Accepted

end Bbp.Simulator
