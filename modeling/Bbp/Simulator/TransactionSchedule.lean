import Bbp.Simulator.WalletTransactionValidation

/-!
# The schedule of a transaction load

A rate gives every transaction index the simulated time that passes before it, and a time
scale turns simulated time into wall time.  Both divide a product that may not fit a word,
so they scale the quotient and the remainder of the count on their own (`scaleUp`).
`scaleUp_eq` says that what they return is the exact quotient, rounded up; the limit of a
duration and the start times of the tasks are compared through it.
-/

namespace Bbp
namespace Library

section Rounding

variable {a b : Nat}

theorem mul_add_ceilDiv (q r : Nat) (hb : 0 < b) : (q * b + r) ⌈/⌉ b = q + r ⌈/⌉ b := by
  rw [Nat.ceilDiv_eq_add_pred_div, Nat.ceilDiv_eq_add_pred_div,
    show q * b + r + b - 1 = r + b - 1 + q * b by omega, Nat.add_mul_div_right _ _ hb]
  exact Nat.add_comm _ _

/-- A quotient that is rounded up, as it is computed from a quotient and a remainder. -/
theorem div_add_eq_ceilDiv (a : Nat) (hb : 0 < b) :
    (a / b + if a % b = 0 then 0 else 1) = a ⌈/⌉ b := by
  conv_rhs => rw [← Nat.div_add_mod' a b, mul_add_ceilDiv _ _ hb]
  have hmod := Nat.mod_lt a hb
  congr 1
  split
  · rename_i hzero
    rw [hzero, zero_ceilDiv]
  · rw [Nat.ceilDiv_eq_add_pred_div]
    exact (Nat.div_eq_of_lt_le (by omega) (by omega)).symm

theorem lt_ceilDiv {c : Nat} (hb : 0 < b) : c < a ⌈/⌉ b ↔ b * c < a := by
  rw [← not_le, ceilDiv_le_iff_le_mul hb, not_le]

end Rounding

end Library

namespace Simulator

open Library

section Scaling

/-- A value that is returned if it is at most `maximum`. -/
def upTo (maximum value : Nat) (message : String) : Except String Nat :=
  if value ≤ maximum then .ok value else .error message

theorem eq_of_upTo {maximum value result : Nat} {message : String}
    (h : upTo maximum value message = .ok result) : result = value := by
  unfold upTo at h
  split at h
  · exact (Except.ok.inj h).symm
  · cases h

/-- `count * units / divisor` milliseconds, rounded up, in 64-bit arithmetic. -/
def scaleUp (units divisor count : Nat) (outOfRange : String) : Except String Nat :=
  let whole := count / divisor
  let remainder := count % divisor
  let maximum := 2 ^ 63 - 1
  if whole > maximum / units then .error outOfRange
  else
    let elapsed := wrapMul whole units
    if remainder = 0 then .ok elapsed
    else
      let numerator := wrapMul remainder units
      let part := wrapAdd (numerator / divisor) (if numerator % divisor = 0 then 0 else 1)
      if elapsed > wrapSub maximum part then .error outOfRange
      else .ok (wrapAdd elapsed part)

/-- The products and sums of `scaleUp`, evaluated exactly, are words, and so is its difference. -/
structure ScalesInWords (units divisor count : Nat) : Prop where
  numerator : count % divisor * units < 2 ^ 64
  part : count % divisor * units / divisor + 1 ≤ 2 ^ 63 - 1
  total : count / divisor ≤ (2 ^ 63 - 1) / units →
    count / divisor * units + (count % divisor * units / divisor + 1) < 2 ^ 64

variable {units divisor : Nat} (hunits : 0 < units) (hdivisor : 0 < divisor)
  (hproduct : divisor * units < 2 ^ 63) (count : Nat)

include hunits hdivisor hproduct

theorem scalesInWords : ScalesInWords units divisor count := by
  have hnumerator : count % divisor * units < divisor * units :=
    Nat.mul_lt_mul_of_pos_right (Nat.mod_lt count hdivisor) hunits
  have hpart := Nat.div_lt_of_lt_mul hnumerator
  have hle : units ≤ divisor * units := Nat.le_mul_of_pos_left units hdivisor
  refine ⟨by omega, by omega, fun h => ?_⟩
  have hwhole := (Nat.le_div_iff_mul_le hunits).mp h
  omega

/-- Scaling returns the exact quotient, rounded up, unless that is out of range. -/
theorem scaleUp_eq (outOfRange : String) :
    scaleUp units divisor count outOfRange =
      upTo (2 ^ 63 - 1) (count * units ⌈/⌉ divisor) outOfRange := by
  obtain ⟨hnumerator, hpart, htotal⟩ := scalesInWords hunits hdivisor hproduct count
  have hsplit : count * units ⌈/⌉ divisor =
      count / divisor * units + count % divisor * units ⌈/⌉ divisor := by
    rw [← mul_add_ceilDiv _ _ hdivisor]
    congr 1
    calc count * units = (divisor * (count / divisor) + count % divisor) * units := by
          rw [Nat.div_add_mod]
      _ = count / divisor * units * divisor + count % divisor * units := by ring
  have hceil := div_add_eq_ceilDiv (count % divisor * units) hdivisor
  have hround : count % divisor * units ⌈/⌉ divisor ≤ count % divisor * units / divisor + 1 := by
    split at hceil <;> omega
  rw [hsplit]
  unfold scaleUp upTo
  dsimp only
  by_cases hlarge : count / divisor > (2 ^ 63 - 1) / units
  · have hover := (Nat.div_lt_iff_lt_mul hunits).mp hlarge
    rw [if_pos hlarge, if_neg (by omega)]
  have hsmall := (Nat.le_div_iff_mul_le hunits).mp (Nat.not_lt.mp hlarge)
  have hwords := htotal (Nat.not_lt.mp hlarge)
  rw [if_neg hlarge, wrapMul_of_le (by omega), wrapMul_of_le hnumerator]
  by_cases hexact : count % divisor = 0
  · rw [if_pos hexact, hexact, Nat.zero_mul, zero_ceilDiv, Nat.add_zero, if_pos hsmall]
  · rw [if_neg hexact, wrapAdd_of_le (by split <;> omega), hceil,
      wrapSub_of_le (by omega) (by omega), wrapAdd_of_le (by omega)]
    by_cases hover : count / divisor * units > 2 ^ 63 - 1 - count % divisor * units ⌈/⌉ divisor
    · rw [if_pos hover, if_neg (by omega)]
    · rw [if_neg hover, if_pos (by omega)]

end Scaling

section Schedule

/-- What an index beyond the schedule is answered. -/
def rateRangeMessage : String := "wallet transaction rate schedule exceeds milliseconds range"

/-- The simulated time that passes before a transaction. -/
def WalletTransactionRate.simulationElapsedBefore (rate : WalletTransactionRate)
    (zeroBasedTransactionIndex : Nat) : Except String Nat :=
  scaleUp 1000000000 rate.millionths zeroBasedTransactionIndex rateRangeMessage

/-- How much faster than the wall clock the simulation runs, in millionths. -/
structure SimulationTimeScale where
  millionths : Nat
  positive : 0 < millionths
  bounded : millionths ≤ 1000000000000

/-- What a duration beyond the wall clock is answered. -/
def scaleRangeMessage : String := "scaled simulation duration exceeds milliseconds range"

/-- The wall time of a simulated duration, which is a signed number of milliseconds. -/
def SimulationTimeScale.wallDuration (scale : SimulationTimeScale) (simulationDuration : Int) :
    Except String Nat :=
  if simulationDuration < 0 then .error "simulation duration must not be negative"
  else scaleUp 1000000 scale.millionths simulationDuration.toNat scaleRangeMessage

/-- The fields of a load task that the schedule fills in; the start is in nanoseconds. -/
structure TransactionSchedule where
  scheduledSimulationElapsed : Option Nat := none
  scheduledWallElapsed : Option Nat := none
  scheduledAt : Nat := 0
deriving DecidableEq

/-- The schedule of a task, if there is one, from an epoch on the monotonic clock. -/
def applyTransactionLoadRateSchedule (task : Option TransactionSchedule)
    (rate : WalletTransactionRate) (timeScale : SimulationTimeScale) (rateEpoch : Fin (2 ^ 63))
    (zeroBasedTransactionIndex : Nat) : Except String TransactionSchedule :=
  match task with
  | none => .error "transaction load schedule task is missing"
  | some _ => do
    let simulationElapsed ← rate.simulationElapsedBefore zeroBasedTransactionIndex
    let wallElapsed ← timeScale.wallDuration simulationElapsed
    let maximumWallElapsed := (2 ^ 63 - 1 - rateEpoch.val) / 1000000
    if wallElapsed > maximumWallElapsed then
      .error "transaction load rate schedule exceeds monotonic clock range"
    else
      .ok
        { scheduledSimulationElapsed := some simulationElapsed
          scheduledWallElapsed := some wallElapsed
          scheduledAt := rateEpoch.val + wallElapsed * 1000000 }

theorem wallDuration_eq (scale : SimulationTimeScale) (t : Nat) :
    scale.wallDuration t =
      upTo (2 ^ 63 - 1) (t * 1000000 ⌈/⌉ scale.millionths) scaleRangeMessage := by
  have hbounded := scale.bounded
  exact (if_neg (by omega)).trans (scaleUp_eq (by omega) scale.positive (by omega) _ _)

variable {rate : WalletTransactionRate} (hpositive : 1 ≤ rate.millionths)

include hpositive

theorem durationAttemptLimit_eq {d : Nat} (hd : 0 < d) :
    walletTransactionDurationAttemptLimit d rate =
      if d * rate.millionths < 2 ^ 64 then .ok (d * rate.millionths ⌈/⌉ 1000000000)
      else .error "transaction load duration and rate attempt count overflows uint64" := by
  have hguard : d > (2 ^ 64 - 1) / rate.millionths ↔ ¬ d * rate.millionths < 2 ^ 64 := by
    rw [gt_iff_lt, Nat.div_lt_iff_lt_mul hpositive]
    omega
  unfold walletTransactionDurationAttemptLimit
  rw [if_neg (by omega), Int.toNat_natCast, if_congr hguard rfl rfl, ite_not]
  split
  · rw [if_neg (by omega), div_add_eq_ceilDiv _ (by omega)]
  · rfl

variable (hbounded : rate.millionths ≤ 1000000000)

include hbounded

theorem simulationElapsedBefore_eq (i : Nat) :
    rate.simulationElapsedBefore i =
      upTo (2 ^ 63 - 1) (i * 1000000000 ⌈/⌉ rate.millionths) rateRangeMessage :=
  scaleUp_eq (by omega) hpositive (by omega) i _

theorem scheduledAt_eq {task : Option TransactionSchedule} {scale : SimulationTimeScale}
    {rateEpoch : Fin (2 ^ 63)} {i : Nat} {s : TransactionSchedule}
    (h : applyTransactionLoadRateSchedule task rate scale rateEpoch i = .ok s) :
    s.scheduledAt = rateEpoch.val +
      (i * 1000000000 ⌈/⌉ rate.millionths * 1000000 ⌈/⌉ scale.millionths) * 1000000 := by
  unfold applyTransactionLoadRateSchedule at h
  split at h
  · cases h
  obtain ⟨elapsed, helapsed, h⟩ := bind_eq_ok.mp h
  obtain ⟨wall, hwall, h⟩ := bind_eq_ok.mp h
  rw [simulationElapsedBefore_eq hpositive hbounded] at helapsed
  rw [wallDuration_eq] at hwall
  cases eq_of_upTo helapsed
  cases eq_of_upTo hwall
  dsimp only at h
  split at h
  · cases h
  · cases h
    rfl

omit hpositive hbounded in
/-- A count that is not smaller does not scale to less. -/
theorem ceilDiv_mul_mono {m n : Nat} (h : m ≤ n) (units : Nat) {divisor : Nat}
    (hdivisor : 0 < divisor) : m * units ⌈/⌉ divisor ≤ n * units ⌈/⌉ divisor :=
  (gc_mul_ceilDiv hdivisor).monotone_l (Nat.mul_le_mul_right units h)

/--
The elapsed time, the attempt limit and the wall time are the exact quotients, rounded up,
and fail exactly when these are out of range; the elapsed time and the limit agree; wall
times and start times keep the order.
-/
theorem schedule_exact (scale : SimulationTimeScale) :
    (∀ i : U64, ScalesInWords 1000000000 rate.millionths i.val ∧
      rate.simulationElapsedBefore i.val =
        upTo (2 ^ 63 - 1) (i.val * 1000000000 ⌈/⌉ rate.millionths) rateRangeMessage) ∧
    (∀ d : Nat, 0 < d → d < 2 ^ 63 →
      (walletTransactionDurationAttemptLimit d rate =
        if d * rate.millionths < 2 ^ 64 then .ok (d * rate.millionths ⌈/⌉ 1000000000)
        else .error "transaction load duration and rate attempt count overflows uint64") ∧
      ∀ (i : U64) (elapsed limit : Nat),
        rate.simulationElapsedBefore i.val = .ok elapsed →
        walletTransactionDurationAttemptLimit d rate = .ok limit →
        (i.val < limit ↔ i.val * 1000000000 < d * rate.millionths) ∧
        (i.val < limit → elapsed ≤ d) ∧ (elapsed < d → i.val < limit)) ∧
    (∀ t : Nat, t < 2 ^ 63 →
      scale.wallDuration t =
        upTo (2 ^ 63 - 1) (t * 1000000 ⌈/⌉ scale.millionths) scaleRangeMessage) ∧
    (∀ t t' wall wall' : Nat, t ≤ t' → t' < 2 ^ 63 →
      scale.wallDuration t = .ok wall → scale.wallDuration t' = .ok wall' → wall ≤ wall') ∧
    ∀ (rateEpoch : Fin (2 ^ 63)) (task task' : Option TransactionSchedule) (i i' : U64)
      (s s' : TransactionSchedule), i ≤ i' →
      applyTransactionLoadRateSchedule task rate scale rateEpoch i.val = .ok s →
      applyTransactionLoadRateSchedule task' rate scale rateEpoch i'.val = .ok s' →
      s.scheduledAt ≤ s'.scheduledAt := by
  refine ⟨fun i => ⟨scalesInWords (by omega) hpositive (by omega) _,
    simulationElapsedBefore_eq hpositive hbounded i.val⟩, ?_, fun t _ => wallDuration_eq scale t,
    ?_, ?_⟩
  · intro d hd _
    refine ⟨durationAttemptLimit_eq hpositive hd, fun i elapsed limit helapsed hlimit => ?_⟩
    rw [simulationElapsedBefore_eq hpositive hbounded] at helapsed
    have hbelow : i.val < limit ↔ i.val * 1000000000 < d * rate.millionths := by
      rw [durationAttemptLimit_eq hpositive hd] at hlimit
      split at hlimit
      · rw [← Except.ok.inj hlimit, lt_ceilDiv (by omega), Nat.mul_comm]
      · cases hlimit
    rw [eq_of_upTo helapsed, hbelow, Nat.mul_comm d]
    refine ⟨Iff.rfl, fun h => (ceilDiv_le_iff_le_mul hpositive).mpr h.le, fun h => ?_⟩
    have hearlier := (ceilDiv_le_iff_le_mul hpositive).mp (Nat.le_sub_one_of_lt h)
    exact hearlier.trans_lt (Nat.mul_lt_mul_of_pos_left (by omega) hpositive)
  · intro t t' wall wall' hle _ hwall hwall'
    rw [wallDuration_eq] at hwall hwall'
    rw [eq_of_upTo hwall, eq_of_upTo hwall']
    exact ceilDiv_mul_mono hle _ scale.positive
  · intro rateEpoch task task' i i' s s' hle h h'
    rw [scheduledAt_eq hpositive hbounded h, scheduledAt_eq hpositive hbounded h']
    exact Nat.add_le_add_left (Nat.mul_le_mul_right _
      (ceilDiv_mul_mono (ceilDiv_mul_mono hle _ hpositive) _ scale.positive)) _

omit hpositive hbounded in
/-- Three transactions in a second: the second one is scheduled after 334 ms. -/
theorem schedule_exact_three_per_second :
    (⟨3000000⟩ : WalletTransactionRate).simulationElapsedBefore 1 = .ok 334 ∧
    (1 < 3 ↔ 1 * 1000000000 < 1000 * 3000000) := by
  have hfirst : (⟨3000000⟩ : WalletTransactionRate).simulationElapsedBefore 1 = .ok 334 := by
    decide +kernel
  have hexact := @schedule_exact ⟨3000000⟩ (by decide) (by decide) ⟨2000000, by decide, by decide⟩
  exact ⟨hfirst, ((hexact.2.1 1000 (by decide) (by decide)).2 1 334 3 hfirst (by decide +kernel)).1⟩

end Schedule

end Simulator
end Bbp
