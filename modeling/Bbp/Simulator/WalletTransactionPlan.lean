import Bbp.Library.Stores

/-!
# Wallet transaction workloads and the transaction load planner

The workload record, the two balance-aware load strategies and the planner that
turns a vector of available balances into the next batch of transfers.

A batch of `random_bruteforce` visits the senders in order and takes one transfer
from each sender that can afford it.  A batch of `equal_fanout` takes the first
affordable sender after the rotation cursor and pays the same amount to every
receiver.  Both write what they spend back into the balance vector they are
given.

Random draws come from an abstract engine.  The rejection loop of the sampler is
given a number of draws; `PlanError.notReturned` means that the call has not
returned within them.

The main result is `nextBatch_spends`: the balances a batch leaves behind are
exactly those obtained by paying its entries one after the other.
-/

namespace Bbp.Simulator

open Library List

section Workload

inductive WalletTransferStrategy where
  | roundRobin
  | random
  | fanout
  | hotspot
  | randomBruteforce
  | equalFanout
deriving DecidableEq

/-- The strategies that run as a transaction load. -/
def isTransactionLoadStrategy : WalletTransferStrategy → Bool
  | .randomBruteforce => true
  | .equalFanout => true
  | _ => false

structure AmountDistribution where
  minimumSatoshis : Nat
  maximumSatoshis : Nat
deriving DecidableEq

/-- A transaction rate in millionths of a transaction per second. -/
structure WalletTransactionRate where
  millionths : Nat
deriving DecidableEq

/-- The workload fields that planning, admission and execution read. -/
structure WalletTransactionsWorkload where
  strategy : WalletTransferStrategy
  transactionCount : Nat := 0
  transactionRate : Option WalletTransactionRate := none
  duration : Option Int := none
  concurrency : Nat := 1
  queueCapacity : Nat := 64
  amount : AmountDistribution
  feeSatoshis : Nat
  feeReserveSatoshis : Nat := 0
  retainedBalanceBasisPoints : Option Nat := none
  randomSeed : U64 := 0
  senderWallets : List Nat := []
  receiverWallets : List Nat := []
deriving DecidableEq

/-- The fee that is set aside for each transfer. -/
def effectiveWalletTransactionFeeReserveSatoshis
    (workload : WalletTransactionsWorkload) : Nat :=
  if workload.feeReserveSatoshis = 0 then workload.feeSatoshis
  else workload.feeReserveSatoshis

end Workload

section Errors

/-- What the planner and its constructor throw. -/
inductive PlanError where
  | walletIndexOutOfRange (field : String)
  | duplicateWalletIndex (field : String)
  | emptySample
  | overlappingWalletSets
  | loadStrategyRequired
  | twoWalletsRequired
  | invalidAmountRange
  | feeRequired
  | selectorsNotAccepted
  | retainedPercentageRequired
  | explicitWalletsRequired
  | maximumEntriesRequired
  | ledgerDoesNotCoverSenders
  | feeTotalOverflow
  | amountTotalOverflow
  | unknownStrategy
  | notReturned
deriving DecidableEq

/-- The text of each planner error. -/
def PlanError.message : PlanError → String
  | .walletIndexOutOfRange field => field ++ " wallet index is out of range"
  | .duplicateWalletIndex field => field ++ " contains a duplicate wallet index"
  | .emptySample => "wallet transaction sample must not be empty"
  | .overlappingWalletSets =>
    "transaction load sender_wallets and receiver_wallets must be disjoint"
  | .loadStrategyRequired => "transaction load planner requires a load strategy"
  | .twoWalletsRequired => "transaction load planner requires at least two wallets"
  | .invalidAmountRange => "transaction load amount range is invalid"
  | .feeRequired => "transaction load fee must be greater than zero"
  | .selectorsNotAccepted =>
    "random_bruteforce uses every wallet and does not accept wallet selectors"
  | .retainedPercentageRequired =>
    "random_bruteforce requires retained_balance_percentage in 0..99.99"
  | .explicitWalletsRequired => "equal_fanout requires explicit sender and receiver wallets"
  | .maximumEntriesRequired => "transaction load planner maximum entries must be positive"
  | .ledgerDoesNotCoverSenders => "transaction load balance ledger does not cover every sender"
  | .feeTotalOverflow => "equal fan-out fee total overflows uint64"
  | .amountTotalOverflow => "equal fan-out amount total overflows uint64"
  | .unknownStrategy => "unknown transaction load strategy"
  | .notReturned => ""

end Errors

section Sampling

/--
A seeded engine of 64-bit draws with the shuffle of the standard library.
The shuffle only rearranges the list it is given.
-/
structure RandomEngine where
  State : Type
  seed : U64 → State
  next : State → U64 × State
  shuffle : State → List Nat → List Nat × State
  shuffle_perm : ∀ g xs, (shuffle g xs).1.Perm xs

/-- The engine that counts up from its seed and keeps every order. -/
def countingEngine : RandomEngine where
  State := Nat
  seed := Fin.val
  next g := (Fin.ofNat _ g, g + 1)
  shuffle g xs := (xs, g)
  shuffle_perm _ xs := List.Perm.refl xs

variable (E : RandomEngine)

/-- The rejection loop: draw until the value reaches the threshold. -/
def drawAtLeast (threshold : Nat) : Nat → E.State → Option (Nat × E.State)
  | 0, _ => none
  | fuel + 1, rng =>
    let (value, rng) := E.next rng
    if value.val < threshold then drawAtLeast threshold fuel rng
    else some (value.val, rng)

/-- A draw from the inclusive range `minimum..maximum`. -/
def sampleInclusive (fuel : Nat) (rng : E.State) (minimum maximum : Nat) :
    Except PlanError (Nat × E.State) :=
  if minimum = maximum then .ok (minimum, rng)
  else
    let range := wrapAdd (wrapSub maximum minimum) 1
    if range = 0 then
      let (value, rng) := E.next rng
      .ok (value.val, rng)
    else
      let rejectionThreshold := wrapSub 0 range % range
      match drawAtLeast E rejectionThreshold fuel rng with
      | none => .error .notReturned
      | some (value, rng) => .ok (wrapAdd minimum (value % range), rng)

/-- A draw of a position below `size`. -/
def sampleIndex (fuel : Nat) (rng : E.State) (size : Nat) : Except PlanError (Nat × E.State) :=
  if size = 0 then .error .emptySample
  else sampleInclusive E fuel rng 0 (size - 1)

/-- Every sample lies in the requested range. -/
theorem sampleInclusive_bounds {fuel : Nat} {rng rng' : E.State} {minimum maximum value : Nat}
    (hrange : minimum ≤ maximum) (hword : maximum < 2 ^ 64)
    (h : sampleInclusive E fuel rng minimum maximum = .ok (value, rng')) :
    minimum ≤ value ∧ value ≤ maximum := by
  unfold sampleInclusive at h
  split at h
  · cases h
    omega
  rename_i hne
  have hsub : wrapSub maximum minimum = maximum - minimum := wrapSub_of_le hword hrange
  simp only [hsub] at h
  split at h
  next hzero =>
    have hfull : maximum - minimum + 1 = 2 ^ 64 := by
      unfold wrapAdd at hzero
      omega
    cases h
    have hvalue := (E.next rng).1.isLt
    omega
  next hnonzero =>
    have hlength : maximum - minimum + 1 < 2 ^ 64 := by
      unfold wrapAdd at hnonzero
      omega
    split at h
    · cases h
    rename_i drawn _ _
    cases h
    have hmod : drawn % (maximum - minimum + 1) < maximum - minimum + 1 := Nat.mod_lt _ (by omega)
    rw [wrapAdd_of_le hlength]
    rw [wrapAdd_of_le (by omega)]
    omega

end Sampling

section LoadPlanner

structure WalletTransactionPlanEntry where
  senderIndex : Nat
  receiverIndex : Nat
  amountSatoshis : Nat
deriving DecidableEq

/-- One-based wallet numbers as positions, each in range and none twice. -/
def resolveSelectedWallets (walletCount : Nat) (field : String) :
    List Nat → List Nat → Except PlanError (List Nat)
  | _, [] => .ok []
  | unique, wallet :: rest =>
    if wallet = 0 ∨ wallet > walletCount then .error (.walletIndexOutOfRange field)
    else if wallet ∈ unique then .error (.duplicateWalletIndex field)
    else
      match resolveSelectedWallets walletCount field (wallet :: unique) rest with
      | .error e => .error e
      | .ok result => .ok ((wallet - 1) :: result)

def requireDisjointWalletSets
    (senders receivers : List Nat) : Except PlanError Unit :=
  if senders.any (fun sender => sender ∈ receivers) then .error .overlappingWalletSets
  else .ok ()

/-- The part of a balance that a sender keeps, rounded up. -/
def retainedBalance (balance retainedBasisPoints : Nat) : Nat :=
  let whole := wrapMul (balance / 10000) retainedBasisPoints
  let remainderProduct := wrapMul (balance % 10000) retainedBasisPoints
  wrapAdd (wrapAdd whole (remainderProduct / 10000)) (if remainderProduct % 10000 = 0 then 0 else 1)

/-- The engine seed of a planner that starts at a later transaction. -/
def seedForSequenceOffset (seed sequenceOffset : U64) : U64 :=
  if sequenceOffset = 0 then seed
  else
    let mixed := seed.val ^^^ wrapAdd sequenceOffset.val 0x9e3779b97f4a7c15
    let mixed := wrapMul (mixed ^^^ (mixed >>> 30)) 0xbf58476d1ce4e5b9
    let mixed := wrapMul (mixed ^^^ (mixed >>> 27)) 0x94d049bb133111eb
    Fin.ofNat _ (mixed ^^^ (mixed >>> 31))

variable (E : RandomEngine)

/-- The fields of a load planner. -/
structure LoadPlannerState where
  workload : WalletTransactionsWorkload
  walletCount : Nat
  senders : List Nat
  receivers : List Nat
  equalSenderOrder : List Nat
  rng : E.State
  equalSenderCursor : Nat

variable {E} in
/-- What the constructor has checked of a planner. -/
structure LoadPlannerState.Accepted (p : LoadPlannerState E) : Prop where
  loadStrategy : isTransactionLoadStrategy p.workload.strategy = true
  twoWallets : 2 ≤ p.walletCount
  amountPositive : 0 < p.workload.amount.minimumSatoshis
  amountRange : p.workload.amount.minimumSatoshis ≤ p.workload.amount.maximumSatoshis
  feePositive : 0 < p.workload.feeSatoshis
  retained : p.workload.strategy = .randomBruteforce → p.senders = range p.walletCount ∧
      ∃ points, p.workload.retainedBalanceBasisPoints = some points ∧ points < 10000
  explicitWallets : p.workload.strategy = .equalFanout → p.senders ≠ [] ∧ p.receivers ≠ [] ∧
      ∀ sender, sender ∈ p.senders → sender ∉ p.receivers
  orderPerm : p.equalSenderOrder.Perm p.senders

/-- A planner that its constructor has accepted. -/
def WalletTransactionLoadPlanner : Type := { p : LoadPlannerState E // p.Accepted }

/-- The checks and the initial fields of a load planner. -/
def LoadPlannerState.create (walletCount : Nat) (workload : WalletTransactionsWorkload)
    (sequenceOffset : U64) : Except PlanError (LoadPlannerState E) :=
  let rng := E.seed (seedForSequenceOffset workload.randomSeed sequenceOffset)
  if isTransactionLoadStrategy workload.strategy = false then .error .loadStrategyRequired
  else if walletCount < 2 then .error .twoWalletsRequired
  else if workload.amount.minimumSatoshis = 0 ∨
      workload.amount.minimumSatoshis > workload.amount.maximumSatoshis then
    .error .invalidAmountRange
  else if workload.feeSatoshis = 0 then .error .feeRequired
  else if workload.strategy = .randomBruteforce then
    if workload.senderWallets ≠ [] ∨ workload.receiverWallets ≠ [] then .error .selectorsNotAccepted
    else
      match workload.retainedBalanceBasisPoints with
      | none => .error .retainedPercentageRequired
      | some points =>
        if points ≥ 10000 then .error .retainedPercentageRequired
        else
          .ok
            { workload, walletCount, senders := range walletCount
              receivers := [], equalSenderOrder := range walletCount
              rng, equalSenderCursor := 0 }
  else
    match resolveSelectedWallets walletCount "sender_wallets" [] workload.senderWallets with
    | .error e => .error e
    | .ok senders =>
      match resolveSelectedWallets walletCount "receiver_wallets" [] workload.receiverWallets with
      | .error e => .error e
      | .ok receivers =>
        if senders = [] ∨ receivers = [] then .error .explicitWalletsRequired
        else
          match requireDisjointWalletSets senders receivers with
          | .error e => .error e
          | .ok () =>
            let (equalSenderOrder, rng) := E.shuffle rng senders
            .ok
              { workload, walletCount, senders, receivers
                equalSenderOrder, rng, equalSenderCursor := 0 }

/-- The sender loop of a `random_bruteforce` batch. -/
def bruteforceEntries (fuel : Nat) (amount : AmountDistribution)
    (walletCount feeReserveSatoshis retainedBasisPoints maximumEntries : Nat) :
    List Nat → List Nat → E.State → List WalletTransactionPlanEntry →
    Except PlanError (List WalletTransactionPlanEntry × List Nat × E.State)
  | [], balances, rng, batch => .ok (batch, balances, rng)
  | sender :: rest, balances, rng, batch =>
    let skip := bruteforceEntries fuel amount walletCount
      feeReserveSatoshis retainedBasisPoints maximumEntries
      rest balances rng batch
    let balance := slot balances sender
    let retained := retainedBalance balance retainedBasisPoints
    if balance < retained ∨ balance - retained ≤ feeReserveSatoshis then skip
    else
      let spendable := balance - retained - feeReserveSatoshis
      let maximum := min amount.maximumSatoshis spendable
      if maximum < amount.minimumSatoshis then skip
      else
        match sampleIndex E fuel rng (walletCount - 1) with
        | .error e => .error e
        | .ok (sampledReceiver, rng) =>
          let receiver :=
            if sampledReceiver ≥ sender then sampledReceiver + 1
            else sampledReceiver
          match sampleInclusive E fuel rng amount.minimumSatoshis maximum with
          | .error e => .error e
          | .ok (amountSatoshis, rng) =>
            let balances := balances.set sender (balance - amountSatoshis - feeReserveSatoshis)
            let batch := batch ++
              [{ senderIndex := sender, receiverIndex := receiver
                 amountSatoshis }]
            if batch.length = maximumEntries then .ok (batch, balances, rng)
            else
              bruteforceEntries fuel amount walletCount
                feeReserveSatoshis retainedBasisPoints maximumEntries
                rest balances rng batch

/-- The sender scan of an `equal_fanout` batch, over the offsets left to try. -/
def equalFanoutScan (p : LoadPlannerState E) (balances : List Nat) (totalFees : Nat) :
    List Nat →
    Except PlanError
      (Option (List WalletTransactionPlanEntry) × List Nat ×
        LoadPlannerState E)
  | [] => .ok (none, balances, p)
  | offset :: rest =>
    let receiverCount := p.receivers.length
    let position := (p.equalSenderCursor + offset) % p.equalSenderOrder.length
    let sender := slot p.equalSenderOrder position
    let balance := slot balances sender
    if balance ≤ totalFees then equalFanoutScan p balances totalFees rest
    else
      let feeSafeBudget := balance - totalFees
      let amount := min p.workload.amount.maximumSatoshis (feeSafeBudget / receiverCount)
      if amount < p.workload.amount.minimumSatoshis then equalFanoutScan p balances totalFees rest
      else if amount > (2 ^ 64 - 1 - totalFees) / receiverCount then .error .amountTotalOverflow
      else
        let totalAmount := wrapMul amount receiverCount
        .ok (some (p.receivers.map fun receiver =>
              { senderIndex := sender, receiverIndex := receiver
                amountSatoshis := amount }),
            balances.set sender (balance - totalFees - totalAmount),
            { p with
              equalSenderCursor := (position + 1) % p.equalSenderOrder.length })

variable {E} in
/-- The next batch, the balances it leaves and the planner after it. -/
def LoadPlannerState.nextBatch (fuel : Nat) (p : LoadPlannerState E)
    (balances : List Nat) (maximumEntries : Nat) :
    Except PlanError
      (Option (List WalletTransactionPlanEntry) × List Nat ×
        LoadPlannerState E) :=
  if maximumEntries = 0 then .error .maximumEntriesRequired
  else if p.senders.any (fun sender => sender ≥ balances.length) then
    .error .ledgerDoesNotCoverSenders
  else
    let feeReserveSatoshis := effectiveWalletTransactionFeeReserveSatoshis p.workload
    match p.workload.strategy with
    | .randomBruteforce =>
      match bruteforceEntries E fuel p.workload.amount p.walletCount feeReserveSatoshis
          (p.workload.retainedBalanceBasisPoints.getD 0)
          maximumEntries p.senders balances p.rng [] with
      | .error e => .error e
      | .ok (batch, balances, rng) =>
        if batch = [] then .ok (none, balances, { p with rng })
        else .ok (some batch, balances, { p with rng })
    | .equalFanout =>
      let receiverCount := p.receivers.length
      if feeReserveSatoshis > (2 ^ 64 - 1) / receiverCount then .error .feeTotalOverflow
      else
        equalFanoutScan E p balances (wrapMul feeReserveSatoshis receiverCount)
          (range p.equalSenderOrder.length)
    | _ => .error .unknownStrategy

variable {E} in
/-- The largest batch the planner hands out. -/
def LoadPlannerState.batchSize (p : LoadPlannerState E) : Nat :=
  if p.workload.strategy = .equalFanout then p.receivers.length
  else p.walletCount

end LoadPlanner

section Accepted

variable {E : RandomEngine}

variable {p : LoadPlannerState E}

theorem create_accepted {walletCount : Nat} {workload : WalletTransactionsWorkload}
    {sequenceOffset : U64}
    (h : LoadPlannerState.create E walletCount workload sequenceOffset = .ok p) : p.Accepted := by
  simp only [LoadPlannerState.create] at h
  split at h
  · cases h
  rename_i hload
  have hstrategy : isTransactionLoadStrategy workload.strategy = true := by
    simpa using hload
  split at h
  · cases h
  rename_i hcount
  have htwo : 2 ≤ walletCount := by omega
  split at h
  · cases h
  rename_i hamount
  have hpositive : 0 < workload.amount.minimumSatoshis := by omega
  have hrange : workload.amount.minimumSatoshis ≤ workload.amount.maximumSatoshis := by omega
  split at h
  · cases h
  rename_i hfee
  have hfeePositive : 0 < workload.feeSatoshis := by omega
  split at h
  next hbruteforce =>
    split at h
    · cases h
    split at h
    · cases h
    rename_i points hpoints
    split_ifs at h
    cases h
    refine ⟨hstrategy, htwo, hpositive, hrange, hfeePositive, ?_, ?_, List.Perm.refl _⟩
    · intro _
      exact ⟨rfl, points, hpoints, by omega⟩
    · intro hequal
      rw [hbruteforce] at hequal
      cases hequal
  next hbruteforce =>
    iterate 3
      split at h
      · cases h
    rename_i hnonempty
    split at h <;> cases h
    rename_i hdisjoint
    refine ⟨hstrategy, htwo, hpositive, hrange, hfeePositive,
      fun hother => absurd hother hbruteforce, ?_,
      E.shuffle_perm _ _⟩
    intro _
    refine ⟨fun hnil => hnonempty (Or.inl hnil),
      fun hnil => hnonempty (Or.inr hnil), ?_⟩
    unfold requireDisjointWalletSets at hdisjoint
    split_ifs at hdisjoint with hany
    simpa using hany

/-- Drawing numbers and moving the cursor keep a planner accepted. -/
theorem LoadPlannerState.Accepted.advance (h : p.Accepted)
    (rng : E.State) (equalSenderCursor : Nat) :
    LoadPlannerState.Accepted { p with rng, equalSenderCursor } :=
  { h with }

end Accepted

section Batches

variable {E : RandomEngine} {fuel maximumEntries : Nat} {e : PlanError}
  {balances after : List Nat} {batch : List WalletTransactionPlanEntry}

/-- A sample fails only by not having ended. -/
theorem sampleInclusive_error {rng : E.State} {minimum maximum : Nat}
    (h : sampleInclusive E fuel rng minimum maximum = .error e) : e = .notReturned := by
  unfold sampleInclusive at h
  split_ifs at h
  simp only at h
  split at h
  · cases h
  split at h <;> cases h
  rfl

section SenderLoop

variable {walletCount fee points : Nat} {amount : AmountDistribution} {rng : E.State}

/-- The sender loop passes over a sender, fails in a draw, or adds an entry it can pay. -/
theorem bruteforceEntries_cons (sender : Nat) (rest : List Nat) :
    let loop := bruteforceEntries E fuel amount walletCount fee points maximumEntries
    loop (sender :: rest) balances rng batch = loop rest balances rng batch ∨
    (∃ e, loop (sender :: rest) balances rng batch = .error e ∧
      (2 ≤ walletCount → e = .notReturned)) ∨
    ∃ receiver paid rng', 0 < slot balances sender ∧
      (slot balances sender < 2 ^ 64 → paid + fee ≤ slot balances sender) ∧
      let next := batch ++
        [{ senderIndex := sender, receiverIndex := receiver, amountSatoshis := paid }]
      let left := balances.set sender (slot balances sender - paid - fee)
      loop (sender :: rest) balances rng batch =
        if next.length = maximumEntries then .ok (next, left, rng')
        else loop rest left rng' next := by
  simp only [bruteforceEntries]
  split
  · exact .inl rfl
  rename_i haffordable
  split
  · exact .inl rfl
  rename_i hminimum
  refine .inr ?_
  split
  next e hsample =>
    refine .inl ⟨e, rfl, fun hwallets => ?_⟩
    unfold sampleIndex at hsample
    rw [if_neg (by omega)] at hsample
    exact sampleInclusive_error hsample
  split
  next e hsample => exact .inl ⟨e, rfl, fun _ => sampleInclusive_error hsample⟩
  next paid rng' hsample =>
    refine .inr ⟨_, paid, rng', by omega, fun hword => ?_, rfl⟩
    have hbounds := sampleInclusive_bounds E (by omega) (by omega) hsample
    omega

theorem bruteforceEntries_error {senders : List Nat} (hwallets : 2 ≤ walletCount)
    (h : bruteforceEntries E fuel amount walletCount fee points maximumEntries
      senders balances rng batch = .error e) :
    e = .notReturned := by
  induction senders generalizing balances rng batch with
  | nil => cases h
  | cons sender rest ih =>
    rcases bruteforceEntries_cons sender rest with
      hskip | ⟨_, hfailed, hreason⟩ | ⟨_, _, _, -, -, hadded⟩
    · exact ih (hskip ▸ h)
    · rw [hfailed] at h
      cases h
      exact hreason hwallets
    · rw [hadded] at h
      split_ifs at h
      exact ih h

/-- The sender loop takes no sender twice and stops at the largest batch it was asked for. -/
theorem bruteforceEntries_length {senders : List Nat} {rng' : E.State}
    {result : List WalletTransactionPlanEntry} (hbatch : batch.length < maximumEntries)
    (h : bruteforceEntries E fuel amount walletCount fee points maximumEntries
      senders balances rng batch = .ok (result, after, rng')) :
    result.length ≤ maximumEntries ∧ result.length ≤ batch.length + senders.length := by
  induction senders generalizing balances rng batch with
  | nil =>
    cases h
    exact ⟨by omega, by simp⟩
  | cons sender rest ih =>
    rw [length_cons]
    rcases bruteforceEntries_cons sender rest with
      hskip | ⟨_, hfailed, -⟩ | ⟨_, _, _, -, -, hadded⟩
    · have hlength := ih hbatch (hskip ▸ h)
      omega
    · rw [hfailed] at h
      cases h
    · rw [hadded] at h
      split at h
      next hfull =>
        cases h
        exact ⟨Nat.le_of_eq hfull, by simp⟩
      next hmore =>
        simp only [length_append, length_cons, length_nil] at hmore
        have hlength := ih (by simp only [length_append, length_cons, length_nil]; omega) h
        simp only [length_append, length_cons, length_nil] at hlength
        omega

end SenderLoop

variable {p p' : LoadPlannerState E} {result : Option (List WalletTransactionPlanEntry)}

/-- The sender scan finds nobody, or the first sender that can pay its receivers. -/
theorem equalFanoutScan_cases (balances : List Nat) (totalFees : Nat) (offsets : List Nat) :
    equalFanoutScan E p balances totalFees offsets = .ok (none, balances, p) ∨
    ∃ offset ∈ offsets, ∃ sender amount equalSenderCursor,
      sender = slot p.equalSenderOrder
        ((p.equalSenderCursor + offset) % p.equalSenderOrder.length) ∧
      totalFees < slot balances sender ∧
      amount ≤ (slot balances sender - totalFees) / p.receivers.length ∧
      equalFanoutScan E p balances totalFees offsets =
        if amount > (2 ^ 64 - 1 - totalFees) / p.receivers.length then .error .amountTotalOverflow
        else
          .ok (some (p.receivers.map fun receiver =>
                { senderIndex := sender, receiverIndex := receiver, amountSatoshis := amount }),
              balances.set sender
                (slot balances sender - totalFees - wrapMul amount p.receivers.length),
              { p with equalSenderCursor }) := by
  induction offsets with
  | nil => exact .inl rfl
  | cons offset rest ih =>
    simp only [equalFanoutScan]
    iterate 2
      split
      · exact ih.imp_right fun ⟨other, hother, hfound⟩ =>
          ⟨other, mem_cons_of_mem _ hother, hfound⟩
    exact .inr ⟨offset, by simp, _, _, _, rfl, by omega, Nat.min_le_right _ _, rfl⟩

/-- A returning call has planned by the sender loop or by the sender scan. -/
theorem nextBatch_ok (h : p.nextBatch fuel balances maximumEntries = .ok (result, after, p')) :
    maximumEntries ≠ 0 ∧ (∀ sender ∈ p.senders, sender < balances.length) ∧
    ((p.workload.strategy = .randomBruteforce ∧ ∃ entries rng,
        bruteforceEntries E fuel p.workload.amount p.walletCount
          (effectiveWalletTransactionFeeReserveSatoshis p.workload)
          (p.workload.retainedBalanceBasisPoints.getD 0)
          maximumEntries p.senders balances p.rng [] = .ok (entries, after, rng) ∧
        p' = { p with rng } ∧ ∀ batch, result = some batch → batch = entries ∧ batch ≠ []) ∨
      p.workload.strategy = .equalFanout ∧
        effectiveWalletTransactionFeeReserveSatoshis p.workload ≤
          (2 ^ 64 - 1) / p.receivers.length ∧
        equalFanoutScan E p balances
          (wrapMul (effectiveWalletTransactionFeeReserveSatoshis p.workload) p.receivers.length)
          (range p.equalSenderOrder.length) = .ok (result, after, p')) := by
  simp only [LoadPlannerState.nextBatch] at h
  split at h
  · cases h
  rename_i hmaximum
  split at h
  · cases h
  rename_i hany
  refine ⟨hmaximum, by simpa using hany, ?_⟩
  split at h
  next hstrategy =>
    refine .inl ⟨hstrategy, ?_⟩
    split at h
    · cases h
    rename_i hentries
    split at h <;> cases h
    · exact ⟨_, _, hentries, rfl, nofun⟩
    · rename_i hnonempty
      refine ⟨_, _, hentries, rfl, fun batch hbatch => ?_⟩
      cases hbatch
      exact ⟨rfl, hnonempty⟩
  next hstrategy =>
    split at h
    · cases h
    · exact .inr ⟨hstrategy, by omega, h⟩
  · cases h

/-- A returning call changes nothing of the planner but draws and cursor. -/
theorem nextBatch_planner
    (h : p.nextBatch fuel balances maximumEntries = .ok (result, after, p')) :
    ∃ rng equalSenderCursor, p' = { p with rng, equalSenderCursor } := by
  obtain ⟨-, -, ⟨-, _, _, -, rfl, -⟩ | ⟨-, -, hscan⟩⟩ := nextBatch_ok h
  · exact ⟨_, _, rfl⟩
  rcases equalFanoutScan_cases balances _ _ with hnone | ⟨_, -, _, _, _, -, -, -, hfound⟩
  · rw [hnone] at hscan
    cases hscan
    exact ⟨_, _, rfl⟩
  · rw [hfound] at hscan
    split_ifs at hscan
    cases hscan
    exact ⟨_, _, rfl⟩

/-- A batch is not empty, a fan-out batch is a whole one, and any other is what was asked for. -/
theorem nextBatch_size (haccepted : p.Accepted)
    (h : p.nextBatch fuel balances maximumEntries = .ok (some batch, after, p')) :
    batch ≠ [] ∧ batch.length ≤ p.batchSize ∧
    (p.workload.strategy = .equalFanout → batch.length = p.batchSize) ∧
    (p.workload.strategy ≠ .equalFanout → batch.length ≤ maximumEntries) := by
  obtain ⟨hmaximum, -, ⟨hstrategy, entries, rng, hentries, -, hbatch⟩ |
    ⟨hstrategy, -, hscan⟩⟩ := nextBatch_ok h
  · obtain ⟨rfl, hnonempty⟩ := hbatch _ rfl
    obtain ⟨hasked, hlength⟩ :=
      bruteforceEntries_length (by simp only [length_nil]; omega) hentries
    rw [(haccepted.retained hstrategy).1] at hlength
    refine ⟨hnonempty, ?_, by simp [hstrategy], fun _ => hasked⟩
    simpa [LoadPlannerState.batchSize, hstrategy] using hlength
  · have hreceivers := (haccepted.explicitWallets hstrategy).2.1
    rcases equalFanoutScan_cases balances _ _ with hnone | ⟨_, -, _, _, _, -, -, -, hfound⟩
    · rw [hnone] at hscan
      cases hscan
    · rw [hfound] at hscan
      split_ifs at hscan
      cases hscan
      exact ⟨by simpa using hreceivers, by simp [LoadPlannerState.batchSize, hstrategy],
        by simp [LoadPlannerState.batchSize, hstrategy], fun hother => absurd hstrategy hother⟩

end Batches

section Spending

/--
Pay the entries of a batch one after the other, each with its fee reserve.
The result is `none` when a sender cannot afford its entry.
-/
def spend (feeReserveSatoshis : Nat) :
    List Nat → List WalletTransactionPlanEntry → Option (List Nat)
  | balances, [] => some balances
  | balances, entry :: rest =>
    let cost := entry.amountSatoshis + feeReserveSatoshis
    if cost ≤ slot balances entry.senderIndex then
      spend feeReserveSatoshis (balances.set entry.senderIndex
          (slot balances entry.senderIndex - cost)) rest
    else none

theorem spend_append (fee : Nat) (balances : List Nat)
    (first second : List WalletTransactionPlanEntry) :
    spend fee balances (first ++ second) =
      (spend fee balances first).bind fun middle => spend fee middle second := by
  induction first generalizing balances with
  | nil => simp [spend]
  | cons entry rest ih =>
    simp only [cons_append, spend]
    split
    · exact ih _
    · rfl

variable {after : List Nat} {batch : List WalletTransactionPlanEntry}

theorem spend_length {fee : Nat} {balances : List Nat} (h : spend fee balances batch = some after) :
    after.length = balances.length := by
  induction batch generalizing balances with
  | nil =>
    cases h
    rfl
  | cons entry rest ih =>
    simp only [spend] at h
    split at h
    · simpa using ih h
    · cases h

/-- The same amount to each receiver costs one sender the product. -/
theorem spend_fanout (fee amount sender : Nat) (balances receivers : List Nat)
    (hsender : sender < balances.length)
    (hcost : receivers.length * (amount + fee) ≤ slot balances sender) :
    spend fee balances
        (receivers.map fun receiver =>
          { senderIndex := sender, receiverIndex := receiver
            amountSatoshis := amount })
      =
    some (balances.set sender (slot balances sender - receivers.length * (amount + fee))) := by
  induction receivers generalizing balances with
  | nil =>
    have hsame : balances.set sender (slot balances sender) = balances := by
      apply slot_ext (by simp)
      intro i _
      rw [slot_set _ _ _ _ hsender]
      split
      next heq => rw [heq]
      · rfl
    simp [spend, hsame]
  | cons receiver rest ih =>
    have hsplit : (rest.length + 1) * (amount + fee) =
        rest.length * (amount + fee) + (amount + fee) := by
      ring
    simp only [length_cons, hsplit] at hcost ⊢
    simp only [map_cons, spend]
    rw [if_pos (by omega)]
    have hslot := slot_set balances sender sender (slot balances sender - (amount + fee)) hsender
    simp only [if_true] at hslot
    rw [ih _ (by simpa using hsender) (by rw [hslot]; omega), hslot]
    simp only [set_set]
    congr 2
    omega

variable {E : RandomEngine}

/--
Every entry that the sender loop adds is paid out of the balances it finds, and
its sender had a positive balance before the batch.
-/
theorem bruteforceEntries_spends {fuel : Nat} {amount : AmountDistribution}
    {walletCount fee points maximumEntries : Nat} (start : List Nat)
    {senders balances : List Nat} {rng rng' : E.State} {result : List WalletTransactionPlanEntry}
    (hcover : ∀ sender ∈ senders, sender < start.length)
    (hstart : spend fee start batch = some balances) (hword : ∀ i, slot balances i < 2 ^ 64)
    (hbelow : ∀ i, slot balances i ≤ slot start i)
    (hpositive : ∀ entry ∈ batch,
      entry.senderIndex < start.length ∧ 0 < slot start entry.senderIndex)
    (h : bruteforceEntries E fuel amount walletCount fee points maximumEntries
      senders balances rng batch = .ok (result, after, rng')) :
    spend fee start result = some after ∧
    ∀ entry ∈ result,
      entry.senderIndex < start.length ∧ 0 < slot start entry.senderIndex := by
  induction senders generalizing balances rng batch with
  | nil =>
    cases h
    exact ⟨hstart, hpositive⟩
  | cons sender rest ih =>
    have hrest : ∀ other ∈ rest, other < start.length :=
      fun other hother => hcover other (mem_cons_of_mem _ hother)
    have hin : sender < start.length := hcover sender (by simp)
    have hsender : sender < balances.length := by
      rw [spend_length hstart]
      exact hin
    rcases bruteforceEntries_cons sender rest with
      hskip | ⟨_, hfailed, -⟩ | ⟨receiver, paid, rng₁, hfunds, hafford, hadded⟩
    · exact ih hrest hstart hword hbelow hpositive (hskip ▸ h)
    · rw [hfailed] at h
      cases h
    rw [hadded] at h
    have hcost := hafford (hword sender)
    have hnext : spend fee start (batch ++
        [{ senderIndex := sender, receiverIndex := receiver, amountSatoshis := paid }]) =
        some (balances.set sender (slot balances sender - paid - fee)) := by
      rw [spend_append, hstart]
      simp only [Option.bind_some, spend]
      rw [if_pos hcost]
      simp only [Nat.sub_sub]
    have hslot : ∀ i, slot (balances.set sender (slot balances sender - paid - fee)) i
          ≤ slot balances i := by
      intro i
      rw [slot_set _ _ _ _ hsender]
      split
      next heq =>
        rw [heq]
        omega
      · exact Nat.le_refl _
    have hentries : ∀ entry, entry ∈ batch ++
        [{ senderIndex := sender, receiverIndex := receiver, amountSatoshis := paid }] →
        entry.senderIndex < start.length ∧ 0 < slot start entry.senderIndex := by
      intro entry hentry
      rcases mem_append.mp hentry with hold | hnew
      · exact hpositive entry hold
      · simp only [mem_singleton] at hnew
        subst hnew
        exact ⟨hin, Nat.lt_of_lt_of_le hfunds (hbelow sender)⟩
    split at h
    · cases h
      exact ⟨hnext, hentries⟩
    · exact ih hrest hnext (fun i => Nat.lt_of_le_of_lt (hslot i) (hword i))
        (fun i => Nat.le_trans (hslot i) (hbelow i)) hentries h

variable {p p' : LoadPlannerState E}

/-- The scan pays one sender's whole fan-out. -/
theorem equalFanoutScan_spends {fee : Nat} {balances offsets : List Nat} (haccepted : p.Accepted)
    (hreceivers : p.receivers ≠ []) (hcover : ∀ sender ∈ p.senders, sender < balances.length)
    (horder : ∀ offset ∈ offsets, offset < p.equalSenderOrder.length)
    (hword : ∀ i, slot balances i < 2 ^ 64)
    (h : equalFanoutScan E p balances (fee * p.receivers.length) offsets =
      .ok (some batch, after, p')) :
    spend fee balances batch = some after ∧
    ∀ entry ∈ batch,
      entry.senderIndex < balances.length ∧ 0 < slot balances entry.senderIndex := by
  rcases equalFanoutScan_cases balances _ offsets with
    hnone | ⟨offset, hoffset, sender, amount, cursor, hslot, hfunds, hamount, hfound⟩
  · rw [hnone] at h
    cases h
  have hcount : 0 < p.receivers.length := length_pos_iff.mpr hreceivers
  have hposition : (p.equalSenderCursor + offset) % p.equalSenderOrder.length <
        p.equalSenderOrder.length := by
    apply Nat.mod_lt
    have := horder offset hoffset
    omega
  have hsender : sender < balances.length := by
    apply hcover
    rw [hslot]
    exact haccepted.orderPerm.mem_iff.mp (slot_mem hposition)
  have hbudget : amount * p.receivers.length ≤
      slot balances sender - fee * p.receivers.length :=
    (Nat.le_div_iff_mul_le hcount).mp hamount
  have hproduct : p.receivers.length * (amount + fee) =
      amount * p.receivers.length + fee * p.receivers.length := by
    ring
  have hbalance := hword sender
  rw [hfound, wrapMul_of_le (by omega)] at h
  split_ifs at h
  cases h
  constructor
  · rw [spend_fanout fee amount sender balances p.receivers hsender (by omega)]
    congr 2
    omega
  · intro entry hentry
    obtain ⟨receiver, _, rfl⟩ := mem_map.mp hentry
    exact ⟨hsender, by simp only; omega⟩

/--
What a returned batch does: its senders had a positive balance, and the balances it
leaves are what remains after paying its entries.
-/
theorem nextBatch_spends {fuel maximumEntries : Nat} {balances : List Nat} (haccepted : p.Accepted)
    (hword : ∀ i, slot balances i < 2 ^ 64)
    (h : p.nextBatch fuel balances maximumEntries = .ok (some batch, after, p')) :
    spend (effectiveWalletTransactionFeeReserveSatoshis p.workload)
        balances batch = some after ∧
    ∀ entry ∈ batch,
      entry.senderIndex < balances.length ∧ 0 < slot balances entry.senderIndex := by
  obtain ⟨-, hcover, ⟨-, entries, rng, hentries, -, hbatch⟩ | ⟨hstrategy, hfee, hscan⟩⟩ :=
    nextBatch_ok h
  · obtain ⟨rfl, -⟩ := hbatch _ rfl
    exact bruteforceEntries_spends balances hcover rfl hword (fun _ => Nat.le_refl _) (by simp)
      hentries
  · have hreceivers := (haccepted.explicitWallets hstrategy).2.1
    have hfees := (Nat.le_div_iff_mul_le (length_pos_iff.mpr hreceivers)).mp hfee
    rw [wrapMul_of_le (by omega)] at hscan
    exact equalFanoutScan_spends haccepted hreceivers hcover (by simp) hword hscan

end Spending

section Failures

variable {E : RandomEngine} {p : LoadPlannerState E} {fuel maximumEntries : Nat} {e : PlanError}
  {balances : List Nat}

/-- What a sender can afford never overflows the total. -/
theorem equalFanoutScan_no_error {offsets : List Nat} {totalFees : Nat}
    (hword : ∀ i, slot balances i < 2 ^ 64) :
    equalFanoutScan E p balances totalFees offsets ≠ .error e := by
  intro h
  rcases equalFanoutScan_cases balances totalFees offsets with
    hnone | ⟨_, -, sender, amount, _, -, -, hamount, hfound⟩
  · rw [hnone] at h
    cases h
  have hbalance := hword sender
  have hbudget : (slot balances sender - totalFees) / p.receivers.length ≤
      (2 ^ 64 - 1 - totalFees) / p.receivers.length :=
    Nat.div_le_div_right (by omega)
  rw [hfound, if_neg (by omega)] at h
  cases h

/--
A planner that covers its ledger and whose fees fit fails only by not having
returned yet.
-/
theorem nextBatch_error (haccepted : p.Accepted)
    (hcover : ∀ sender ∈ p.senders, sender < balances.length)
    (hfees : p.workload.strategy = .equalFanout →
      effectiveWalletTransactionFeeReserveSatoshis p.workload ≤
        (2 ^ 64 - 1) / p.receivers.length)
    (hmaximum : maximumEntries ≠ 0) (hword : ∀ i, slot balances i < 2 ^ 64)
    (h : p.nextBatch fuel balances maximumEntries = .error e) : e = .notReturned := by
  have hcovered : p.senders.any (fun sender => sender ≥ balances.length) = false := by
    simpa using hcover
  simp only [LoadPlannerState.nextBatch, if_neg hmaximum, hcovered,
    Bool.false_eq_true, if_false] at h
  have hload := haccepted.loadStrategy
  cases hstrategy : p.workload.strategy with
  | randomBruteforce =>
    simp only [hstrategy] at h
    split at h
    next hentries =>
      cases h
      exact bruteforceEntries_error haccepted.twoWallets hentries
    · split at h <;> cases h
  | equalFanout =>
    have hfit := hfees hstrategy
    simp only [hstrategy] at h
    rw [if_neg (by omega)] at h
    exact absurd h (equalFanoutScan_no_error hword)
  | roundRobin | random | fanout | hotspot => simp [hstrategy, isTransactionLoadStrategy] at hload

end Failures

end Bbp.Simulator
