import Bbp.Simulator.EpochMoves
import Bbp.Simulator.WalletAdmission

/-!
# Reconfiguring a live wallet workload

A reconfiguration is checked against the progress that the last epoch has published, and
its wallets against nothing at all.  An epoch that is running meanwhile goes on, so that
the new configuration may meet a progress, and funding, that it was never compared with
(`reconfiguration_does_not_fit`).

An epoch moves its index by whole batches and never past its limit (`Strides`).  So a
configuration fits whatever the running epoch publishes if its receivers divide the
batches of the running one and its count is not below the running limit
(`accepted_reconfiguration_is_executable`).
-/

namespace Bbp.Simulator

open Library WalletTransactionsWorkload

variable {E : RandomEngine}

section Epoch

/-- The index moves by multiples of this number. -/
def EpochConfig.stride (c : EpochConfig E) : Nat :=
  if c.workload.strategy = .equalFanout then c.planner.val.batchSize else 1

namespace EpochState

variable {c : EpochConfig E} {s t : EpochState c} {base : Nat}

/-- The epoch has moved from `base` by whole batches and not past its limit. -/
structure Strides (base : Nat) (s : EpochState c) : Prop where
  advanced : TransactionLoadBalanceReservations.Advanced c.planner.val s.planner
  base_le : base ≤ s.transactionIndex
  whole : c.stride ∣ s.transactionIndex - base
  attempts : c.stride ∣ s.producer.attempts
  within : ∀ limit, c.attemptLimit = some limit →
    s.transactionIndex + s.producer.attempts ≤ max base limit

/-- Nothing has failed because the configuration does not fit. -/
structure Fits (s : EpochState c) : Prop where
  producerError : s.producerError.any EpochException.isMisfit = false
  infrastructure : s.infrastructureError.any EpochError.isMisfit = false
  result : ∀ result, s.producer = .done result → result.isMisfit = false

variable (h : s.Strides base)

include h

/-- The same index, and attempts that are whole batches within the limit. -/
theorem Strides.of_index
    (hadvanced :
      TransactionLoadBalanceReservations.Advanced c.planner.val t.planner)
    (hindex : t.transactionIndex = s.transactionIndex) (hattempts : c.stride ∣ t.producer.attempts)
    (hwithin : ∀ limit, c.attemptLimit = some limit →
      s.transactionIndex + t.producer.attempts ≤ max base limit) :
    t.Strides base :=
  ⟨hadvanced, hindex.symm ▸ h.base_le, hindex.symm ▸ h.whole, hattempts,
    hindex.symm ▸ hwithin⟩

/-- The same index, and a place at which no batch is under way. -/
theorem Strides.toPlace
    (hadvanced :
      TransactionLoadBalanceReservations.Advanced c.planner.val t.planner)
    (hindex : t.transactionIndex = s.transactionIndex) (hattempts : t.producer.attempts = 0) :
    t.Strides base := by
  refine h.of_index hadvanced hindex ?_ ?_
  · rw [hattempts]
    exact Nat.dvd_zero _
  · intro limit hlimit
    have hwithin := h.within limit hlimit
    omega

theorem Strides.step {a : EpochAction c} (hstep : s.step a = some t) : t.Strides base := by
  obtain ⟨hambient, hframe | ⟨input, rfl, hmove⟩⟩ := step_move h.advanced hstep
  · refine h.of_index (hambient.planner h.advanced) hframe.transactionIndex ?_ ?_
    · rw [hframe.producer]
      exact h.attempts
    · rw [hframe.producer]
      exact h.within
  · have hadvanced := hambient.planner h.advanced
    have hleft : ∀ {pc : ProducerPc}, pc.phase = .left → pc.attempts = 0 := by
      intro pc hphase
      exact ProducerPc.attempts_of_left (by rw [hphase]; decide)
    cases hmove with
    | stay _ hattempts hsame =>
      refine h.of_index hadvanced hsame.transactionIndex ?_ ?_
      · rw [hattempts]
        exact h.attempts
      · rw [hattempts]
        exact h.within
    | stage _ hwithin hwhole hsame =>
      refine h.of_index hadvanced hsame.transactionIndex ?_ ?_
      · unfold EpochConfig.stride
        split
        next hstrategy => rw [hwhole hstrategy]
        · exact Nat.one_dvd _
      · intro limit hlimit
        have hbound := h.within limit hlimit
        simp only [remainingAttempts, hlimit] at hwithin
        omega
    | advance _ hattempts hindex _ _ _ =>
      have hbase := h.base_le
      refine ⟨hadvanced, by omega, ?_, ?_, ?_⟩
      · have hsum : t.transactionIndex - base =
            (s.transactionIndex - base) + s.producer.attempts := by omega
        rw [hsum]
        exact Nat.dvd_add h.whole h.attempts
      · rw [hattempts]
        exact Nat.dvd_zero _
      · intro limit hlimit
        have hbound := h.within limit hlimit
        omega
    | limit hphase _ hsame | expire hphase _ _ hsame | shut _ hphase hsame =>
      exact h.toPlace hadvanced hsame.transactionIndex (hleft hphase)
    | yield hphase _ hindex _ _ | throw hphase _ _ hindex _ _ | refresh hphase hindex _ _ _ =>
      exact h.toPlace hadvanced hindex (hleft hphase)
    | conclude _ hdone hsame =>
      exact h.toPlace hadvanced hsame.transactionIndex (by rw [hdone]; rfl)

/-- Attempts are left for a whole batch, or for none. -/
theorem Strides.batch_le_remaining
    (hlimit : ∀ limit, c.attemptLimit = some limit → c.stride ∣ limit - base)
    (hroom : c.attemptLimit = none → s.transactionIndex + c.planner.val.batchSize ≤ 2 ^ 64 - 1)
    (hstrategy : c.workload.strategy = .equalFanout) (hremaining : s.remainingAttempts ≠ 0) :
    c.planner.val.batchSize ≤ s.remainingAttempts := by
  have hstride : c.stride = c.planner.val.batchSize := by
    unfold EpochConfig.stride
    rw [if_pos hstrategy]
  unfold remainingAttempts at hremaining ⊢
  split
  next limit hsome =>
    rw [hsome] at hremaining
    have hbase := h.base_le
    have hwhole := Nat.dvd_sub (hlimit limit hsome) h.whole
    have hrest : limit - base - (s.transactionIndex - base) = limit - s.transactionIndex := by omega
    rw [hrest, hstride] at hwhole
    exact Nat.le_of_dvd (Nat.pos_of_ne_zero hremaining) hwhole
  next hnone =>
    have hfits := hroom hnone
    omega

omit h in
/-- With a limit at a whole number of batches no step fails because of a batch size. -/
theorem Fits.step {a : EpochAction c} (hfits : s.Fits) (h : s.Strides base)
    (hlimit : ∀ limit, c.attemptLimit = some limit → c.stride ∣ limit - base)
    (hroom : (∃ fuel, a = .producer (.plan fuel)) → c.attemptLimit = none →
      s.transactionIndex + c.planner.val.batchSize ≤ 2 ^ 64 - 1)
    (hstep : s.step a = some t) : t.Fits := by
  obtain ⟨hambient, hframe | ⟨input, rfl, hmove⟩⟩ := step_move h.advanced hstep
  · refine ⟨?_, hambient.infrastructure hfits.infrastructure, ?_⟩
    · rw [hframe.producerError]
      exact hfits.producerError
    · rw [hframe.producer]
      exact hfits.result
  · have hinfrastructure := hambient.infrastructure hfits.infrastructure
    have hopen : ∀ {pc : ProducerPc}, pc.phase ≠ .done →
        ∀ result, pc = .done result → result.isMisfit = false := by
      rintro pc hphase result rfl
      exact absurd rfl hphase
    have hsame : t.producerError = s.producerError → t.producer.phase ≠ .done → t.Fits := by
      intro herror hphase
      exact ⟨by rw [herror]; exact hfits.producerError, hinfrastructure, hopen hphase⟩
    cases hmove with
    | stay hphase _ hvars | stage hphase _ _ hvars | limit hphase _ hvars
    | expire hphase _ _ hvars | shut _ hphase hvars =>
      exact hsame hvars.producerError (by rw [hphase]; decide)
    | advance hphase _ _ _ _ herror | yield hphase _ _ _ herror | refresh hphase _ _ _ herror =>
      exact hsame herror (by rw [hphase]; decide)
    | throw hphase e hmisfit _ _ herror =>
      refine ⟨?_, hinfrastructure, hopen (by rw [hphase]; decide)⟩
      rw [herror]
      show e.isMisfit = false
      by_contra htrue
      obtain ⟨⟨fuel, hinput⟩, hstrategy, hremaining, hsmall⟩ :=
        hmisfit (Bool.eq_true_of_not_eq_false htrue)
      have hbatch := h.batch_le_remaining hlimit (hroom ⟨fuel, by rw [hinput]⟩) hstrategy hremaining
      omega
    | conclude _ hdone hvars =>
      refine ⟨?_, hinfrastructure, ?_⟩
      · rw [hvars.producerError]
        exact hfits.producerError
      · intro result hresult
        rw [hdone] at hresult
        cases hresult
        have hproducer := hfits.producerError
        have hworkers := hfits.infrastructure
        unfold conclusion
        split
        next e _ herror =>
          rw [herror] at hproducer
          exact hproducer
        next e _ herror =>
          rw [herror] at hworkers
          exact hworkers
        · split_ifs <;> rfl

end EpochState

end Epoch

section Configuration

namespace WalletTransactionsWorkload

/-- The explicit limit of the attempts, if there is one. -/
def attemptLimit (w : WalletTransactionsWorkload) : Option Nat :=
  match explicitWalletTransactionAttemptLimit w with
  | .ok limit => limit
  | .error _ => none

/-- The limit that the execution keeps: only a load looks at its duration. -/
def attemptBound (w : WalletTransactionsWorkload) : Option Nat :=
  if w.transactionCount ≠ 0 ∨ isTransactionLoadStrategy w.strategy = true then w.attemptLimit
  else none

/-- The index moves by multiples of this number. -/
def stride (w : WalletTransactionsWorkload) : Nat :=
  if w.strategy = .equalFanout then w.receiverWallets.length else 1

/-- `updated` fits wherever an epoch of `running` may end. -/
def continues (running updated : WalletTransactionsWorkload) : Bool :=
  (updated.transactionCount == 0 || running.attemptBound.any (· ≤ updated.transactionCount)) &&
    decide (updated.stride ∣ running.stride)

theorem attemptLimit_of_count {w : WalletTransactionsWorkload} (h : w.transactionCount ≠ 0) :
    w.attemptLimit = some w.transactionCount := by
  simp only [attemptLimit, explicitWalletTransactionAttemptLimit, if_pos h]

/-- A configuration can be executed from this progress on. -/
structure Ready (w : WalletTransactionsWorkload) (next : Nat) : Prop where
  within : w.transactionCount ≠ 0 → next ≤ w.transactionCount
  whole : ∀ limit, w.attemptLimit = some limit → w.stride ∣ limit - next

/-- How far an epoch of a configuration may have got. -/
structure Progress (w : WalletTransactionsWorkload) (base next : Nat) : Prop where
  base_le : base ≤ next
  whole : w.stride ∣ next - base
  within : ∀ limit, w.attemptBound = some limit → next ≤ max base limit

variable {w running updated : WalletTransactionsWorkload} {base next : Nat}

theorem Progress.refl (w : WalletTransactionsWorkload) (base : Nat) : Progress w base base :=
  ⟨le_refl _, by simp, fun _ _ => le_max_left _ _⟩

/-- What is left of a limit after some progress is still a multiple. -/
theorem dvd_sub_of_progress {k limit : Nat} (hbase : base ≤ next) (hlimit : k ∣ limit - base)
    (hnext : k ∣ next - base) : k ∣ limit - next := by
  have hdiff := Nat.dvd_sub hlimit hnext
  have hrest : limit - base - (next - base) = limit - next := by omega
  rwa [hrest] at hdiff

/-- The configuration of an epoch is ready wherever the epoch ends. -/
theorem Ready.advance (h : Ready w base) (hprogress : Progress w base next) : Ready w next := by
  refine ⟨?_, ?_⟩
  · intro hcount
    have hwithin := h.within hcount
    have hbound : w.attemptBound = some w.transactionCount := by
      unfold attemptBound
      rw [if_pos (.inl hcount)]
      exact attemptLimit_of_count hcount
    have hnext := hprogress.within _ hbound
    omega
  · intro limit hlimit
    exact dvd_sub_of_progress hprogress.base_le (h.whole limit hlimit) hprogress.whole

/-- So is one that continues it. -/
theorem Ready.follow (h : Ready updated base) (hcontinues : continues running updated = true)
    (hprogress : Progress running base next) : Ready updated next := by
  simp only [continues, Bool.and_eq_true, Bool.or_eq_true, beq_iff_eq,
    decide_eq_true_eq] at hcontinues
  obtain ⟨hcount, hstride⟩ := hcontinues
  refine ⟨?_, ?_⟩
  · intro hnonzero
    have hwithin := h.within hnonzero
    have hany := hcount.resolve_left hnonzero
    cases hbound : running.attemptBound with
    | none =>
      rw [hbound] at hany
      cases hany
    | some limit =>
      rw [hbound] at hany
      have hbelow : limit ≤ updated.transactionCount := of_decide_eq_true hany
      have hnext := hprogress.within limit hbound
      omega
  · intro limit hlimit
    exact dvd_sub_of_progress hprogress.base_le (h.whole limit hlimit)
      (hstride.trans hprogress.whole)

end WalletTransactionsWorkload

/-- An accepted workload is ready where nothing has been attempted. -/
theorem AcceptedWorkload.ready (w : AcceptedWorkload E) : w.val.Ready 0 := by
  refine ⟨fun _ => Nat.zero_le _, ?_⟩
  intro limit hlimit
  unfold stride
  split
  next hfanout =>
    refine Nat.dvd_of_mod_eq_zero (w.whole_batches hfanout ?_)
    unfold attemptLimit at hlimit
    split at hlimit
    next hexplicit => rw [hexplicit, hlimit, Nat.sub_zero]
    · cases hlimit
  · exact Nat.one_dvd _

/-- The configuration of a load has the limit and the stride of its workload. -/
theorem AcceptedWorkload.loadConfig_fields (w : AcceptedWorkload E)
    {hload : isTransactionLoadStrategy w.val.strategy = true}
    {walletCount next : Nat} {c : EpochConfig E} (h : w.loadConfig hload walletCount next = .ok c) :
    c.attemptLimit = w.val.attemptLimit ∧ c.stride = w.val.stride ∧
      c.nextTransactionIndex = next := by
  unfold AcceptedWorkload.loadConfig at h
  split at h
  · cases h
  rename_i limit hlimit
  split at h <;> cases h
  rename_i planner hplanner
  refine ⟨?_, ?_, rfl⟩
  · simp only [attemptLimit, hlimit]
  · obtain ⟨hworkload, hreceivers⟩ := create_fields hplanner
    simp only [EpochConfig.stride, stride, EpochConfig.workload, hworkload]
    split
    next hfanout =>
      have hplannerFanout : planner.workload.strategy = .equalFanout := by
        rw [hworkload]
        exact hfanout
      simp only [LoadPlannerState.batchSize, hplannerFanout, hreceivers hfanout, if_true]
    · rfl

theorem EpochConfig.start_fields
    {c : EpochConfig E} {balances : List U64} {accounting : TransactionLoadSnapshot}
    {s : EpochState c} (h : c.start balances accounting = .ok s) :
    s.planner = c.planner.val ∧ s.transactionIndex = c.nextTransactionIndex ∧
      s.producer = .head ∧ s.producerError = none ∧ s.infrastructureError = none ∧
      s.yielded = false ∧ s.balanceRefreshRequired = false := by
  simp only [EpochConfig.start] at h
  split at h
  · cases h
  split at h
  · cases h
  split at h <;> cases h
  exact ⟨rfl, rfl, rfl, rfl, rfl, rfl, rfl⟩

end Configuration

section Record

open WalletTransactionsWorkload (Ready Progress continues)

/-- What is known of an epoch that has started at the index `base`. -/
def LiveEpoch.Fits (base : Nat) (e : LiveEpoch E) : Prop :=
  match e.pc with
  | .funding | .starting | .preparing => e.nextTransactionIndex = base
  | .loading c s =>
    isTransactionLoadStrategy e.workload.val.strategy = true ∧
      c.attemptLimit = e.workload.val.attemptLimit ∧
      c.stride = e.workload.val.stride ∧
      s.Strides base ∧ s.Fits ∧ s.producer.phase ≠ .done
  | .sequential pc =>
    isTransactionLoadStrategy e.workload.val.strategy = false ∧
      Progress e.workload.val base e.nextTransactionIndex ∧
      (pc ≠ .head → e.workload.val.transactionCount ≠ 0 →
        e.nextTransactionIndex < e.workload.val.transactionCount)
  | .done result =>
    Progress e.workload.val base e.nextTransactionIndex ∧ result.isMisfit = false ∧
      ∀ ending next, result = .returned ending next → next = e.nextTransactionIndex

namespace LiveWalletWorkloadRecord

/-- A reconfiguration that can still be executed when it is applied. -/
def fitsLater (r : LiveWalletWorkloadRecord E) (updated : WalletTransactionsWorkload)
    (walletCount : Nat) : Bool :=
  r.preparedFunding.all (· == walletCount) &&
    (updated.duration.isNone || decide (updated.stride ∣ r.nextTransactionIndex)) &&
    (!r.worker.holdsEpoch || walletCount == r.walletCount && continues r.workload.val updated)

/-- The indexes of a load without a limit leave room for one more batch. -/
def hasRoom (r : LiveWalletWorkloadRecord E) : Bool :=
  match r.worker with
  | .executing e =>
    match e.pc with
    | .loading c s =>
      c.attemptLimit.isSome ||
        decide (s.transactionIndex + c.planner.val.batchSize ≤ 2 ^ 64 - 1)
    | _ => true
  | _ => true

/-- Reconfigurations that are not refused fit later, and indexes do not run out. -/
def reconfiguresSafely (r : LiveWalletWorkloadRecord E) : LiveAction E → Bool
  | .reconfigure updated walletCount =>
    (r.reconfigurationFailure updated.val).isSome || r.fitsLater updated.val walletCount
  | .apply (.producer (.plan _)) => r.hasRoom
  | _ => true

/-- What every run of safe reconfigurations keeps. -/
structure Fitting (r : LiveWalletWorkloadRecord E) : Prop where
  lifecycle : r.Lifecycle
  ready : Ready r.workload.val r.nextTransactionIndex
  pending : ∀ w, r.pendingWorkload = some w → Ready w.val r.nextTransactionIndex ∧
      (r.worker.holdsEpoch = true → continues r.workload.val w.val = true)
  funding : ∀ n, r.preparedFunding = some n → n = r.walletCount
  epoch : ∀ e, r.worker = .executing e → e.workload = r.workload ∧ e.walletCount = r.walletCount ∧
      e.Fits r.nextTransactionIndex

variable {r t : LiveWalletWorkloadRecord E} {e : LiveEpoch E}

theorem create_fitting (id : String) (workload : AcceptedWorkload E) (walletCount : Nat) :
    (create id workload walletCount).Fitting := by
  refine ⟨create_lifecycle id workload walletCount, workload.ready, ?_, ?_, ?_⟩
  · rintro w ⟨⟩
  · rintro n ⟨⟩
  · rintro e ⟨⟩

section Apply

variable {base : Nat}

/-- What the epoch has reached outside of a load. -/
theorem fits_progress (h : e.Fits base) (hplace : e.pc.isOutsideLoad = true) :
    Progress e.workload.val base e.nextTransactionIndex := by
  unfold LiveEpoch.Fits at h
  cases hpc : e.pc with
  | funding | starting | preparing =>
    rw [hpc] at h
    rw [h]
    exact .refl _ _
  | sequential pc =>
    rw [hpc] at h
    exact h.2.1
  | _ =>
    rw [hpc] at hplace
    cases hplace

variable {c : EpochConfig E} {accounting : TransactionLoadSnapshot} {s : EpochState c}

/-- A load starts at the index of its epoch. -/
theorem start_strides {balances : List U64}
    (h : c.start balances accounting = .ok s) (stop : Bool) :
    EpochState.Strides c.nextTransactionIndex { s with stopRequested := stop } ∧
      EpochState.Fits { s with stopRequested := stop } := by
  obtain ⟨hplanner, hindex, hproducer, herror, hinfrastructure, -⟩ := EpochConfig.start_fields h
  refine ⟨⟨?_, ?_, ?_, ?_, ?_⟩, ?_, ?_, ?_⟩
  · show TransactionLoadBalanceReservations.Advanced c.planner.val s.planner
    rw [hplanner]
    exact .refl _
  · exact hindex.ge
  · show c.stride ∣ s.transactionIndex - c.nextTransactionIndex
    rw [hindex, Nat.sub_self]
    exact Nat.dvd_zero _
  · show c.stride ∣ s.producer.attempts
    rw [hproducer]
    exact Nat.dvd_zero _
  · intro limit _
    show s.transactionIndex + s.producer.attempts ≤ max c.nextTransactionIndex limit
    rw [hindex, hproducer]
    exact le_max_left _ _
  · show s.producerError.any EpochException.isMisfit = false
    rw [herror]
    rfl
  · show s.infrastructureError.any EpochError.isMisfit = false
    rw [hinfrastructure]
    rfl
  · intro result hresult
    have hresult : s.producer = .done result := hresult
    rw [hproducer] at hresult
    cases hresult

theorem load_fits {balances : List U64}
    (hload : isTransactionLoadStrategy e.workload.val.strategy = true)
    (hconfig : e.workload.loadConfig hload e.walletCount e.nextTransactionIndex = .ok c)
    (hstart : c.start balances accounting = .ok s) (stop : Bool) :
    LiveEpoch.Fits e.nextTransactionIndex
      { e with pc := .loading c { s with stopRequested := stop } } := by
  obtain ⟨hlimit, hstride, hnext⟩ := e.workload.loadConfig_fields hconfig
  obtain ⟨hstrides, hfits⟩ := start_strides hstart stop
  rw [hnext] at hstrides
  refine ⟨hload, hlimit, hstride, hstrides, hfits, ?_⟩
  show s.producer.phase ≠ .done
  rw [(EpochConfig.start_fields hstart).2.2.1]
  decide

/-- The progress of a load is the progress of its workload. -/
theorem progress_of_strides {w : WalletTransactionsWorkload}
    (hload : isTransactionLoadStrategy w.strategy = true) (hlimit : c.attemptLimit = w.attemptLimit)
    (hstride : c.stride = w.stride) (h : s.Strides base) : Progress w base s.transactionIndex := by
  refine ⟨h.base_le, ?_, ?_⟩
  · rw [← hstride]
    exact h.whole
  · intro limit hbound
    unfold attemptBound at hbound
    rw [if_pos (.inr hload), ← hlimit] at hbound
    have hwithin := h.within limit hbound
    omega

/-- The index in the result of a load is the index it has reached. -/
theorem conclusion_returned {ending : WalletWorkloadExecutionEnd} {next : Nat}
    (h : s.conclusion = .returned ending next) : next = s.transactionIndex := by
  unfold EpochState.conclusion at h
  split at h
  · cases h
  · cases h
  · split_ifs at h <;> cases h <;> rfl

/-- A load is done only by its conclusion. -/
theorem step_done {u : EpochState c} {a : EpochAction c} {result : EpochResult} (h : s.Strides base)
    (hopen : s.producer.phase ≠ .done) (hstep : s.step a = some u)
    (hdone : u.producer = .done result) :
    result = s.conclusion ∧ u.transactionIndex = s.transactionIndex := by
  obtain ⟨-, hframe | ⟨input, rfl, hmove⟩⟩ := EpochState.step_move h.advanced hstep
  · rw [← hframe.producer, hdone] at hopen
    exact absurd rfl hopen
  · obtain ⟨-, hresult, hsame⟩ := hmove.concludes hdone
    exact ⟨hresult, hsame.transactionIndex⟩

theorem loaded_fits {u : EpochState c} {a : EpochAction c} {e' : LiveEpoch E}
    (hload : isTransactionLoadStrategy e.workload.val.strategy = true)
    (hlimit : c.attemptLimit = e.workload.val.attemptLimit)
    (hstride : c.stride = e.workload.val.stride)
    (hstrides : s.Strides base) (hfits : s.Fits) (hopen : s.producer.phase ≠ .done)
    (hready : Ready e.workload.val base)
    (hroom : (∃ fuel, a = .producer (.plan fuel)) → c.attemptLimit = none →
      s.transactionIndex + c.planner.val.batchSize ≤ 2 ^ 64 - 1)
    (hstep : s.step a = some u) (expired : Bool)
    (hnext : (r.loaded { e with expired } u).worker = .executing e') : e'.Fits base := by
  have hwhole : ∀ limit, c.attemptLimit = some limit → c.stride ∣ limit - base := by
    intro limit hsome
    rw [hstride]
    rw [hlimit] at hsome
    exact hready.whole limit hsome
  have hstrides' := hstrides.step hstep
  have hfits' := hfits.step hstrides hwhole hroom hstep
  unfold loaded at hnext
  split at hnext
  next result hdone =>
    obtain ⟨hresult, hindex⟩ := step_done hstrides hopen hstep hdone
    cases hnext
    refine ⟨progress_of_strides hload hlimit hstride hstrides', hfits'.result result hdone, ?_⟩
    intro ending next hreturned
    rw [hresult] at hreturned
    show next = u.transactionIndex
    rw [hindex]
    exact conclusion_returned hreturned
  next hnot =>
    cases hnext
    refine ⟨hload, hlimit, hstride, hstrides', hfits', ?_⟩
    intro hphase
    cases hpc : u.producer with
    | done result => exact hnot result hpc
    | _ =>
      rw [hpc] at hphase
      cases hphase

/-- The loop of the other strategies counts up to its limit, one by one. -/
theorem progress_succ {w : WalletTransactionsWorkload} {next : Nat}
    (hload : isTransactionLoadStrategy w.strategy = false) (h : Progress w base next)
    (hbelow : w.transactionCount ≠ 0 → next < w.transactionCount) :
    Progress w base (next + 1) := by
  have hbase := h.base_le
  refine ⟨by omega, ?_, ?_⟩
  · have hstride : w.stride = 1 := by
      unfold stride
      rw [if_neg]
      intro hfanout
      rw [hfanout] at hload
      cases hload
    rw [hstride]
    exact Nat.one_dvd _
  · intro limit hbound
    unfold attemptBound at hbound
    split at hbound
    next hcounted =>
      have hcount := hcounted.resolve_right (by rw [hload]; decide)
      rw [attemptLimit_of_count hcount] at hbound
      cases hbound
      have hless := hbelow hcount
      omega
    · cases hbound

theorem applyStep_fits {input : ApplyInput} {e' : LiveEpoch E} (h : r.Fitting)
    (hworker : r.worker = .executing e)
    (hroom : (∃ fuel, input = .producer (.plan fuel)) → r.hasRoom = true)
    (hstep : r.applyStep e input = some t) (hnext : t.worker = .executing e') :
    e'.Fits r.nextTransactionIndex := by
  obtain ⟨hworkload, hwallets, hfits⟩ := h.epoch e hworker
  have hprogress := fits_progress hfits
  unfold LiveEpoch.Fits at hfits
  cases applyStep_move hstep with
  | threw hplace _ hcause =>
    cases hnext
    refine ⟨hprogress hplace, ?_, nofun⟩
    rcases hcause with rfl | ⟨message, rfl⟩
    · rfl
    · rfl
  | unfunded _ hprepared hincomplete =>
    exact absurd ((h.funding _ hprepared).trans hwallets.symm) hincomplete
  | funded hpc | started hpc =>
    rw [hpc] at hfits
    cases hnext
    exact hfits
  | load hpc hload hconfig hstart =>
    rw [hpc] at hfits
    cases hnext
    rw [← hfits]
    exact load_fits hload hconfig hstart _
  | loaded hpc hload' _ hread =>
    rw [hpc] at hfits
    obtain ⟨hload, hlimit, hstride, hstrides, hfits, hopen⟩ := hfits
    have hready : Ready e.workload.val r.nextTransactionIndex := by
      rw [hworkload]
      exact h.ready
    refine loaded_fits hload hlimit hstride hstrides hfits hopen hready ?_ hload' _ hnext
    rintro ⟨fuel, rfl⟩ hnone
    have hfree := hroom ⟨fuel, (hread _ rfl).1⟩
    simp only [hasRoom, hworker, hpc, hnone, Option.isSome_none, Bool.false_or,
      decide_eq_true_eq] at hfree
    exact hfree
  | loop hpc hload =>
    cases hnext
    exact ⟨hload, hprogress (by rw [hpc]; rfl), fun hplace => absurd rfl hplace⟩
  | completed hpc =>
    cases hnext
    exact ⟨hprogress (by rw [hpc]; rfl), rfl, by rintro _ _ ⟨⟩; rfl⟩
  | yielded hpc =>
    cases hnext
    refine ⟨hprogress ?_, rfl, by rintro _ _ ⟨⟩; rfl⟩
    rcases hpc with hpc | hpc <;> rw [hpc] <;> rfl
  | continued hpc hcount =>
    rw [hpc] at hfits
    cases hnext
    refine ⟨hfits.1, hfits.2.1, fun _ hnonzero => ?_⟩
    by_contra hreached
    exact hcount ⟨hnonzero, not_lt.mp hreached⟩
  | worked hpc =>
    cases hnext
    rcases hpc with hpc | hpc
    all_goals
      rw [hpc] at hfits
      exact ⟨hfits.1, hfits.2.1, fun _ => hfits.2.2 (by decide)⟩
  | polled hpc =>
    rw [hpc] at hfits
    cases hnext
    exact ⟨hfits.1, hfits.2.1, fun _ => hfits.2.2 (by decide)⟩
  | submitted hpc =>
    rw [hpc] at hfits
    obtain ⟨hload, hreached, hbelow⟩ := hfits
    cases hnext
    exact ⟨hload, progress_succ hload hreached (hbelow (by decide)),
      fun hplace => absurd rfl hplace⟩

end Apply

section Steps

variable {a : LiveAction E}

variable {walletCount : Nat}

/-- A configuration that passes the check, and fits later, is ready. -/
theorem ready_of_accepted {updated : AcceptedWorkload E}
    (haccepted : r.reconfigurationFailure updated.val = none)
    (hfits : r.fitsLater updated.val walletCount = true) :
    Ready updated.val r.nextTransactionIndex := by
  unfold reconfigurationFailure at haccepted
  split_ifs at haccepted with _ _ hbelow hbatch
  refine ⟨?_, ?_⟩
  · intro hcount
    by_contra habove
    exact hbelow ⟨hcount, by omega⟩
  · intro limit hlimit
    by_cases hcount : updated.val.transactionCount = 0
    · have hduration : updated.val.duration.isSome = true := by
        unfold attemptLimit explicitWalletTransactionAttemptLimit at hlimit
        rw [if_neg (by simpa using hcount)] at hlimit
        cases hkind : updated.val.duration with
        | none =>
          rw [hkind] at hlimit
          cases hlimit
        | some duration => rfl
      have hprogress : updated.val.stride ∣ r.nextTransactionIndex := by
        simp only [fitsLater, Bool.and_eq_true, Bool.or_eq_true, decide_eq_true_eq] at hfits
        refine hfits.1.2.resolve_left ?_
        rw [Option.isNone_eq_false_iff.mpr hduration]
        decide
      have hwhole := updated.ready.whole limit hlimit
      rw [Nat.sub_zero] at hwhole
      exact Nat.dvd_sub hwhole hprogress
    · rw [attemptLimit_of_count hcount] at hlimit
      cases hlimit
      unfold stride
      split
      next hfanout =>
        refine Nat.dvd_of_mod_eq_zero ?_
        by_contra hrest
        exact hbatch ⟨hfanout, hcount, hrest⟩
      · exact Nat.one_dvd _

variable {updated : WalletTransactionsWorkload}

theorem fitsLater_funding (h : r.fitsLater updated walletCount = true) :
    ∀ n, r.preparedFunding = some n → n = walletCount := by
  intro n hn
  simp only [fitsLater, Bool.and_eq_true, hn, Option.all_some, beq_iff_eq] at h
  exact h.1.1

theorem fitsLater_running (h : r.fitsLater updated walletCount = true)
    (hholds : r.worker.holdsEpoch = true) :
    walletCount = r.walletCount ∧ continues r.workload.val updated = true := by
  simp only [fitsLater, Bool.and_eq_true, Bool.or_eq_true, beq_iff_eq, hholds,
    Bool.not_true, Bool.false_eq_true, false_or] at h
  exact h.2

variable (h : r.Fitting)

include h

/-- The worker is at a place where it holds no epoch. -/
theorem Fitting.toPlace (hlife : t.Lifecycle) (hworkload : t.workload = r.workload)
    (hnext : t.nextTransactionIndex = r.nextTransactionIndex)
    (hpending : t.pendingWorkload = r.pendingWorkload)
    (hprepared : t.preparedFunding = r.preparedFunding) (hwallets : t.walletCount = r.walletCount)
    (hplace : t.worker.holdsEpoch = false) : t.Fitting := by
  refine ⟨hlife, ?_, ?_, ?_, ?_⟩
  · rw [hworkload, hnext]
    exact h.ready
  · intro w hw
    rw [hpending] at hw
    rw [hnext]
    refine ⟨(h.pending w hw).1, fun hholds => ?_⟩
    rw [hplace] at hholds
    cases hholds
  · rw [hprepared, hwallets]
    exact h.funding
  · intro e he
    rw [he] at hplace
    cases hplace

omit h in
theorem signal_holdsEpoch (worker : LivePc E) : (signal worker).holdsEpoch = worker.holdsEpoch := by
  obtain ⟨e, c, s, rfl, -, hsignal⟩ | hsignal := signal_cases worker
  · rw [hsignal]
    rfl
  · rw [hsignal]

omit h in
/-- A stop request does not move the index of an epoch. -/
theorem signal_fits {worker : LivePc E} {e' : LiveEpoch E} {base : Nat}
    (hfits : ∀ e, worker = .executing e → e.Fits base) (h : signal worker = .executing e') :
    e'.Fits base := by
  obtain ⟨e, c, s, rfl, hpc, hsignal⟩ | hsignal := signal_cases worker
  · rw [hsignal] at h
    cases h
    have hepoch := hfits e rfl
    unfold LiveEpoch.Fits at hepoch ⊢
    rw [hpc] at hepoch
    obtain ⟨hload, hlimit, hstride, hstrides, hmisfit, hopen⟩ := hepoch
    exact ⟨hload, hlimit, hstride, { hstrides with }, { hmisfit with }, hopen⟩
  · exact hfits e' (hsignal.symm.trans h)

/-- The request, the state and the stop flags change, and nothing else. -/
theorem Fitting.signalled (hlife : t.Lifecycle)
    (hworkload : t.workload = r.workload) (hnext : t.nextTransactionIndex = r.nextTransactionIndex)
    (hpending : t.pendingWorkload = r.pendingWorkload)
    (hprepared : t.preparedFunding = r.preparedFunding) (hwallets : t.walletCount = r.walletCount)
    (hworker : t.worker = signal r.worker ∨ t.worker = r.worker) : t.Fitting := by
  refine ⟨hlife, ?_, ?_, ?_, ?_⟩
  · rw [hworkload, hnext]
    exact h.ready
  · intro w hw
    rw [hpending] at hw
    have hholds : t.worker.holdsEpoch = r.worker.holdsEpoch := by
      rcases hworker with hworker | hworker
      · rw [hworker]
        exact signal_holdsEpoch r.worker
      · rw [hworker]
    rw [hnext, hworkload, hholds]
    exact h.pending w hw
  · rw [hprepared, hwallets]
    exact h.funding
  · intro e he
    rw [hnext, hworkload, hwallets]
    rcases hworker with hworker | hworker
    · rw [hworker] at he
      obtain ⟨e₀, hexecuting, hsame, hcount, -⟩ := signal_executing he
      obtain ⟨hepoch, hepochWallets, -⟩ := h.epoch e₀ hexecuting
      refine ⟨hsame.trans hepoch, hcount.trans hepochWallets, signal_fits ?_ he⟩
      intro e' he'
      exact (h.epoch e' he').2.2
    · rw [hworker] at he
      exact h.epoch e he

theorem accept_fitting {request : LiveWalletWorkloadRequest} {requestsStop : Bool}
    (hlife : (r.accept request requestsStop).Lifecycle) :
    (r.accept request requestsStop).Fitting := by
  rw [accept_eq] at hlife ⊢
  refine h.signalled hlife rfl rfl rfl rfl rfl ?_
  dsimp only
  split
  · exact .inl rfl
  · exact .inr rfl

/-- What an epoch publishes is within its progress. -/
theorem publish_progress {result : EpochResult} (hworker : r.worker = .executing e)
    (hdone : e.pc = .done result) :
    Progress r.workload.val r.nextTransactionIndex
      (r.publish e result).nextTransactionIndex := by
  obtain ⟨hworkload, -, hfits⟩ := h.epoch e hworker
  unfold LiveEpoch.Fits at hfits
  rw [hdone] at hfits
  obtain ⟨hprogress, -, hreturned⟩ := hfits
  rw [hworkload] at hprogress
  cases result with
  | returned ending next =>
    have hnext := hreturned ending next rfl
    show Progress r.workload.val r.nextTransactionIndex next
    rw [hnext]
    exact hprogress
  | threw exception =>
    cases exception with
    | simulationCancelled => exact hprogress
    | error error => exact .refl _ _

theorem epochEnded_fitting {result : EpochResult}
    (hlife : (r.epochEnded e result).Lifecycle) (hworker : r.worker = .executing e)
    (hdone : e.pc = .done result) : (r.epochEnded e result).Fitting := by
  have hprogress := publish_progress h hworker hdone
  have hplace : (r.epochEnded e result).worker.holdsEpoch = false := by
    unfold epochEnded
    dsimp only
    split
    · rfl
    · split <;> rfl
  rw [epochEnded_eq] at hlife ⊢
  refine ⟨hlife, h.ready.advance hprogress, ?_, h.funding, ?_⟩
  · intro w hw
    obtain ⟨hready, hcontinues⟩ := h.pending w hw
    refine ⟨hready.follow (hcontinues (by rw [hworker]; rfl)) hprogress, ?_⟩
    intro hholds
    cases hplace.symm.trans hholds
  · intro e' he
    have he : (r.epochEnded e result).worker = .executing e' := he
    rw [he] at hplace
    cases hplace

theorem install_fitting (hlife : r.install.Lifecycle)
    (hworker : (r.worker = .head ∨ r.worker = .pauseWait) ∧ r.request = .none ∨
      r.worker = .reconfigured) :
    r.install.Fitting := by
  refine ⟨hlife, h.ready, ?_, h.funding, ?_⟩
  · intro w hw
    have hw : r.pendingWorkload = some w := hw
    obtain ⟨hready, hcontinues⟩ := h.pending w hw
    refine ⟨hready, fun _ => ?_⟩
    rcases hworker with ⟨-, hrequest⟩ | hworker
    · rw [h.lifecycle.no_pending_of_none hrequest] at hw
      cases hw
    · exact hcontinues (by rw [hworker]; rfl)
  · rintro e ⟨⟩
    exact ⟨rfl, rfl, rfl⟩

theorem apply_fitting {input : ApplyInput} (hlife : t.Lifecycle) (hworker : r.worker = .executing e)
    (hroom : (∃ fuel, input = .producer (.plan fuel)) → r.hasRoom = true)
    (hstep : r.applyStep e input = some t) : t.Fitting := by
  obtain ⟨e', hrecord, hworkload, hwallets, -, hfunding, -⟩ := applyStep_frame hstep
  obtain ⟨hepoch, hepochWallets, -⟩ := h.epoch e hworker
  have hplace : t.worker = .executing e' := by rw [hrecord]
  have hsameWorkload : t.workload = r.workload := by rw [hrecord]
  have hsameNext : t.nextTransactionIndex = r.nextTransactionIndex := by rw [hrecord]
  have hsamePending : t.pendingWorkload = r.pendingWorkload := by rw [hrecord]
  have hsameWallets : t.walletCount = r.walletCount := by rw [hrecord]
  refine ⟨hlife, ?_, ?_, ?_, ?_⟩
  · rw [hsameWorkload, hsameNext]
    exact h.ready
  · intro w hw
    rw [hsamePending] at hw
    obtain ⟨hready, hcontinues⟩ := h.pending w hw
    rw [hsameNext, hsameWorkload]
    exact ⟨hready, fun _ => hcontinues (by rw [hworker]; rfl)⟩
  · intro n hn
    rw [hsameWallets]
    rcases hfunding with hsame | hcounted
    · exact h.funding n (hsame.symm.trans hn)
    · cases hcounted.symm.trans hn
      exact hepochWallets
  · intro e'' he
    rw [hsameNext, hsameWorkload, hsameWallets]
    have hepochFits := applyStep_fits h hworker hroom hstep he
    rw [hplace] at he
    cases he
    exact ⟨hworkload.trans hepoch, hwallets.trans hepochWallets, hepochFits⟩

theorem step_fitting (hsafe : r.reconfiguresSafely a = true)
    (hstep : r.step a = some t) : t.Fitting := by
  have hlife := step_lifecycle h.lifecycle hstep
  cases step_move hstep with
  | pause | stop | cancel | cancelPaused | fail | waiting | refreshed | terminate
  | terminateFailed => exact h.toPlace hlife rfl rfl rfl rfl rfl rfl
  | failReconfigured _ workload _ hpending _ | reconfigure _ workload _ hpending =>
    refine ⟨hlife, (h.pending workload hpending).1, ?_, h.funding, ?_⟩
    · rintro w ⟨⟩
    · rintro e ⟨⟩
  | install hworker => exact install_fitting h hlife hworker
  | apply e hworker input haction t happly =>
    refine apply_fitting h hlife hworker ?_ happly
    rintro ⟨fuel, rfl⟩
    rw [haction] at hsafe
    exact hsafe
  | epochEnded e result hworker hdone => exact epochEnded_fitting h hlife hworker hdone
  | refused _ => exact h
  | pauseAccepted | settleAccepted => exact accept_fitting h hlife
  | cancelAccepted hopen _ =>
    have hlogged : Fitting
        { r with cancelAccepted := r.cancelAccepted || !completed r.worker } :=
      { h with lifecycle := { h.lifecycle with } }
    exact accept_fitting hlogged hlife
  | resumed | shutdown => exact h.signalled hlife rfl rfl rfl rfl rfl (.inr rfl)
  | startCancelled | stopService => exact h.signalled hlife rfl rfl rfl rfl rfl (.inl rfl)
  | reconfiguredPaused updated walletCount revision hstate haccepted haction =>
    have hfits : r.fitsLater updated.val walletCount = true := by
      rw [haction] at hsafe
      simpa only [reconfiguresSafely, haccepted, Option.isSome_none, Bool.false_or] using hsafe
    have hpausedAt := h.lifecycle.paused hstate
    have hready := ready_of_accepted haccepted hfits
    have hfunding := fitsLater_funding hfits
    refine ⟨hlife, hready, ?_, hfunding, ?_⟩
    · intro w hw
      have hw : r.pendingWorkload = some w := hw
      rw [h.lifecycle.no_pending ⟨by rw [hstate]; decide, by rw [hstate]; decide⟩] at hw
      cases hw
    · intro e he
      have he : r.worker = .executing e := he
      rw [he] at hpausedAt
      exact hpausedAt.elim
  | reconfigureAccepted updated walletCount _ haccepted haction =>
    have hfits : r.fitsLater updated.val walletCount = true := by
      rw [haction] at hsafe
      simpa only [reconfiguresSafely, haccepted, Option.isSome_none, Bool.false_or] using hsafe
    have hready := ready_of_accepted haccepted hfits
    have hfunding := fitsLater_funding hfits
    rw [accept_eq] at hlife ⊢
    have hworker : ∀ requestsStop,
        (if requestsStop = true then signal r.worker else r.worker).holdsEpoch =
          r.worker.holdsEpoch := by
      intro requestsStop
      split
      · exact signal_holdsEpoch r.worker
      · rfl
    refine ⟨hlife, h.ready, ?_, hfunding, ?_⟩
    · rintro w ⟨⟩
      refine ⟨hready, fun hholds => ?_⟩
      exact (fitsLater_running hfits ((hworker _).symm.trans hholds)).2
    · intro e he
      have hholds : r.worker.holdsEpoch = true := by
        rw [← hworker (r.state != .starting)]
        rw [show (if (r.state != .starting) = true then signal r.worker
          else r.worker) = .executing e from he]
        rfl
      have hwallets := (fitsLater_running hfits hholds).1
      have hsignalled : ∃ e₀, r.worker = .executing e₀ ∧ e.workload = e₀.workload ∧
          e.walletCount = e₀.walletCount := by
        dsimp only at he
        split at he
        · obtain ⟨e₀, hexecuting, hsame, hcount, -⟩ := signal_executing he
          exact ⟨e₀, hexecuting, hsame, hcount⟩
        · exact ⟨e, he, rfl, rfl⟩
      obtain ⟨e₀, hexecuting, hsame, hcount⟩ := hsignalled
      obtain ⟨hepoch, hepochWallets, -⟩ := h.epoch e₀ hexecuting
      refine ⟨hsame.trans hepoch, ?_, ?_⟩
      · rw [hcount, hepochWallets]
        exact hwallets.symm
      · dsimp only at he
        split at he
        · exact signal_fits (fun e' he' => (h.epoch e' he').2.2) he
        · exact (h.epoch e he).2.2

end Steps

section Starts

/-- An epoch that has not gone past its funding starts at a fitting index. -/
theorem Fitting.start (h : r.Fitting) (hworker : r.worker = .executing e) (hpc : e.pc = .funding) :
    (e.workload.val.transactionCount ≠ 0 →
        e.nextTransactionIndex ≤ e.workload.val.transactionCount) ∧
      (e.workload.val.strategy = .equalFanout → e.workload.val.transactionCount ≠ 0 →
        (e.workload.val.transactionCount - e.nextTransactionIndex) %
          e.workload.val.receiverWallets.length = 0) := by
  obtain ⟨hworkload, -, hfits⟩ := h.epoch e hworker
  unfold LiveEpoch.Fits at hfits
  rw [hpc] at hfits
  have hnext : e.nextTransactionIndex = r.nextTransactionIndex := hfits
  rw [hworkload, hnext]
  refine ⟨h.ready.within, ?_⟩
  intro hfanout hcount
  have hwhole := h.ready.whole _ (attemptLimit_of_count hcount)
  rw [stride, if_pos hfanout] at hwhole
  exact Nat.mod_eq_zero_of_dvd hwhole

/-- The funding that is cached, or the one that is prepared, has one entry per wallet. -/
theorem Fitting.fund (h : r.Fitting) (hworker : r.worker = .executing e) :
    r.fundStep e .funded =
      some (execute { r with preparedFunding := some e.walletCount }
        { e with pc := .starting }) := by
  obtain ⟨-, hwallets, -⟩ := h.epoch e hworker
  unfold fundStep checkFunding
  cases hprepared : r.preparedFunding with
  | none => simp only [Option.isSome_none, Bool.false_eq_true, if_false, if_true]
  | some n =>
    have hn : n = e.walletCount := (h.funding n hprepared).trans hwallets.symm
    have hsame : { r with preparedFunding := some e.walletCount } = r := by
      rw [← hn, ← hprepared]
    rw [if_pos (Option.isSome_some), if_pos (congrArg some hn), hsame]

theorem Fitting.never_misfit {error : EpochError} (h : r.Fitting)
    (hworker : r.worker = .executing e) (hdone : e.pc = .done (.threw (.error error))) :
    error.isMisfit = false := by
  obtain ⟨-, -, hfits⟩ := h.epoch e hworker
  unfold LiveEpoch.Fits at hfits
  rw [hdone] at hfits
  exact hfits.2.1

end Starts

end LiveWalletWorkloadRecord

end Record

section Results

/-- A fan-out from the first wallet. -/
def fanoutTo (transactionCount : Nat) (receivers : List Nat) : WalletTransactionsWorkload where
  strategy := .equalFanout
  transactionCount
  amount := { minimumSatoshis := 1, maximumSatoshis := 1 }
  feeSatoshis := 1
  senderWallets := [1]
  receiverWallets := receivers

/-- Three batches of one. -/
def fanoutToOne : AcceptedWorkload countingEngine := ⟨fanoutTo 3 [3], 3, rfl⟩

/-- Two batches of two. -/
def fanoutToTwo : AcceptedWorkload countingEngine := ⟨fanoutTo 4 [2, 3], 4, rfl⟩

/-- One batch of three. -/
def fanoutToThree : AcceptedWorkload countingEngine := ⟨fanoutTo 3 [2, 3, 4], 4, rfl⟩

/-- Everything before the loop of an epoch. -/
def startEpoch : List (LiveAction countingEngine) :=
  [.apply (.fund .funded), .apply (.executionStarted (.ok ())),
    .apply (.prepare (.values [100, 100, 100, 100]) {})]

/-- The producer stages one batch. -/
def stageBatch : List (LiveAction countingEngine) :=
  [.apply (.producer (.head false false false)), .apply (.producer (.plan 4)),
    .apply (.producer (.push (.ok ()) (.ok ()))), .apply (.producer (.finish (.ok ())))]

/-- One task of a queue that has been shut down is settled and recorded. -/
def dropTask : List (LiveAction countingEngine) :=
  [.apply (.producer (.drop (.settle (.ok ())))), .apply (.producer (.drop (.record 0)))]

/-- The queue is empty, and the only worker and the producer leave. -/
def joinEpoch : List (LiveAction countingEngine) :=
  [.apply (.producer .leaveDrop), .apply (.worker 0 .pop), .apply (.producer .join),
    .apply (.producer .leaveDrop), .apply (.producer .conclude)]

/-- The first batch of two is staged before one batch of three is requested. -/
def reconfigureInBatch : List (LiveAction countingEngine) :=
  [.head] ++ startEpoch ++ stageBatch ++
    [.reconfigure fanoutToThree 4, .apply (.producer (.head false true false)),
      .apply (.producer .shut)] ++ dropTask ++ dropTask ++ joinEpoch ++
    [.epochEnded, .head, .written (.ok ())] ++ startEpoch ++
    [.apply (.producer (.head false false false)), .apply (.producer (.plan 4)),
      .apply (.producer .shut)] ++ joinEpoch

/-- A workload is funded for three wallets, and reconfigured after a fourth was added. -/
def reconfigureFunded : List (LiveAction countingEngine) :=
  [.head, .apply (.fund .funded), .apply (.executionStarted (.ok ())), .pause,
    .apply (.prepare .simulationCancelled {}), .epochEnded, .head, .written (.ok ()),
    .reconfigure fanoutToOne 4, .resume, .wake, .apply (.fund .funded)]

/--
The first epoch of an accepted configuration fails: its batch does not fit the progress
of the epoch that ran meanwhile, or the cached funding has too few entries.
-/
theorem reconfiguration_does_not_fit :
    (∃ r e, (liveWorkloadMachine countingEngine).run (.create "first" fanoutToTwo 4)
        reconfigureInBatch = some r ∧
      r.worker = .executing e ∧ e.first = true ∧ e.workload = fanoutToThree ∧
      e.nextTransactionIndex = 2 ∧
      e.pc = .done (.threw (.error (.ledger .invalidBatchSize)))) ∧
    ∃ r e, (liveWorkloadMachine countingEngine).run
        (.create "first" fanoutToOne 3) reconfigureFunded = some r ∧
      r.worker = .executing e ∧ e.first = true ∧ e.walletCount = 4 ∧
      r.preparedFunding = some 3 ∧ e.pc = .done (.threw (.error .fundingIncomplete)) :=
  ⟨⟨_, _, rfl, rfl, rfl, rfl, rfl, rfl⟩, ⟨_, _, rfl, rfl, rfl, rfl, rfl, rfl⟩⟩

/--
In a run of safe reconfigurations every epoch, and so the first one of a new
configuration, starts within its count, at a whole number of batches before it and with
the funding of its wallets, and ends with neither of the two errors.
-/
theorem accepted_reconfiguration_is_executable
    {id : String} {workload : AcceptedWorkload E} {walletCount : Nat}
    {actions : List (LiveAction E)} {r : LiveWalletWorkloadRecord E} {e : LiveEpoch E}
    (hrun : (liveWorkloadMachine E).run (.create id workload walletCount) actions = some r)
    (hmeets : (liveWorkloadMachine E).Meets
      (fun r a => r.reconfiguresSafely a = true) (.create id workload walletCount) actions)
    (hworker : r.worker = .executing e) :
    (e.pc = .funding →
      (e.workload.val.transactionCount ≠ 0 →
        e.nextTransactionIndex ≤ e.workload.val.transactionCount) ∧
      (e.workload.val.strategy = .equalFanout → e.workload.val.transactionCount ≠ 0 →
        (e.workload.val.transactionCount - e.nextTransactionIndex) %
          e.workload.val.receiverWallets.length = 0) ∧
      r.fundStep e .funded =
        some (LiveWalletWorkloadRecord.execute
          { r with preparedFunding := some e.walletCount } { e with pc := .starting })) ∧
    ∀ error, e.pc = .done (.threw (.error error)) →
      error ≠ .ledger .invalidBatchSize ∧ error ≠ .fundingIncomplete := by
  have h : r.Fitting :=
    (liveWorkloadMachine E).meets_preserves
      (fun _ _ _ hstep hsafe h => LiveWalletWorkloadRecord.step_fitting h hsafe hstep)
      hmeets hrun (LiveWalletWorkloadRecord.create_fitting id workload walletCount)
  refine ⟨?_, ?_⟩
  · intro hpc
    obtain ⟨hwithin, hwhole⟩ := h.start hworker hpc
    exact ⟨hwithin, hwhole, h.fund hworker⟩
  · intro error hdone
    have hmisfit := h.never_misfit hworker hdone
    refine ⟨?_, ?_⟩
    all_goals
      rintro rfl
      cases hmisfit

/-- Three batches of two instead of two are requested while the first one is staged. -/
def extendInBatch : List (LiveAction countingEngine) :=
  [.head] ++ startEpoch ++ stageBatch ++ [.reconfigure ⟨fanoutTo 6 [2, 3], 4, rfl⟩ 4,
      .apply (.producer (.head false true false)), .apply (.producer .shut)] ++
    dropTask ++ dropTask ++ joinEpoch ++ [.epochEnded, .head, .written (.ok ())]

theorem extended_fanout_is_executable :
    ∃ r e, (liveWorkloadMachine countingEngine).run (.create "first" fanoutToTwo 4)
        extendInBatch = some r ∧
      r.worker = .executing e ∧ e.first = true ∧ e.nextTransactionIndex = 2 ∧
      e.workload.val.transactionCount = 6 ∧
      r.fundStep e .funded =
        some (LiveWalletWorkloadRecord.execute
          { r with preparedFunding := some e.walletCount } { e with pc := .starting }) := by
  refine ⟨_, _, rfl, rfl, rfl, rfl, rfl, ?_⟩
  exact ((@accepted_reconfiguration_is_executable countingEngine "first" fanoutToTwo 4
    extendInBatch _ _ rfl (by decide) rfl).1 rfl).2.2

end Results

end Bbp.Simulator
