import Bbp.Simulator.WalletTransactionPlan

/-!
# Bounded sampling

A draw below a bound takes the remainder of a 64-bit output, and rejects the outputs below the
remainder of `2 ^ 64`, which would make some results more likely than others.
-/

namespace Bbp.Simulator

open Library Finset

section Draws

variable (E : RandomEngine)

/-- `BoundedRandom`. -/
def boundedRandom (fuel : Nat) (rng : E.State) (upperBound : Nat) :
    Except String (Option (Nat × E.State)) :=
  if upperBound = 0 then .error "random topology bound must be positive"
  else
    let rejectionThreshold := (2 ^ 64 - 1 - upperBound + 1) % upperBound
    .ok ((drawAtLeast E rejectionThreshold fuel rng).map
      fun (value, rng) => (value % upperBound, rng))

/-- What one output of the generator gives, unless the loop rejects it. -/
def drawn (threshold : Nat) (result : Nat → Nat) (value : Nat) : Option Nat :=
  if value < threshold then none else some (result value)

def boundedDraw (upperBound : Nat) : Nat → Option Nat :=
  drawn ((2 ^ 64 - 1 - upperBound + 1) % upperBound) (· % upperBound)

def sampleDraw (minimum maximum value : Nat) : Option Nat :=
  let range := wrapAdd (wrapSub maximum minimum) 1
  if range = 0 then some value
  else drawn (wrapSub 0 range % range) (fun value => wrapAdd minimum (value % range)) value

variable {E} {fuel : Nat} {rng : E.State}

theorem boundedRandom_succ {upperBound : Nat} (hbound : 0 < upperBound) :
    boundedRandom E (fuel + 1) rng upperBound =
      match boundedDraw upperBound (E.next rng).1 with
      | some value => .ok (some (value, (E.next rng).2))
      | none => boundedRandom E fuel (E.next rng).2 upperBound := by
  simp only [boundedRandom, boundedDraw, drawn, drawAtLeast, if_neg hbound.ne']
  split_ifs <;> rfl

theorem sampleInclusive_succ {minimum maximum : Nat} (hrange : minimum < maximum) :
    sampleInclusive E (fuel + 1) rng minimum maximum =
      match sampleDraw minimum maximum (E.next rng).1 with
      | some value => .ok (value, (E.next rng).2)
      | none => sampleInclusive E fuel (E.next rng).2 minimum maximum := by
  simp only [sampleInclusive, sampleDraw, drawn, drawAtLeast, if_neg hrange.ne]
  split_ifs <;> rfl

end Draws

section Counting

/-- All of the `r` results from `minimum` on come from equally many outputs, and at least half of
the outputs give one. -/
structure Unbiased (r minimum : Nat) (draw : Nat → Option Nat) : Prop where
  within : ∀ value < 2 ^ 64, ∀ result, draw value = some result →
    minimum ≤ result ∧ result < minimum + r
  preimages : ∀ result, minimum ≤ result → result < minimum + r →
    #{value ∈ range (2 ^ 64) | draw value = some result} = 2 ^ 64 / r
  accepted : 2 ^ 63 ≤ #{value ∈ range (2 ^ 64) | (draw value).isSome}

variable {N r x : Nat}

theorem card_residue (hr : 0 < r) (hx : x < r) :
    #{value ∈ range N | N % r ≤ value ∧ value % r = x} = N / r := by
  have hset : {value ∈ range N | N % r ≤ value ∧ value % r = x} =
      {value ∈ Ico (N % r) (N % r + r * (N / r)) | value ≡ x [MOD r]} := by
    ext value
    rw [Nat.mod_add_div, mem_filter, mem_filter, mem_range, mem_Ico, Nat.ModEq, Nat.mod_eq_of_lt hx]
    tauto
  have hperiodic : Function.Periodic (· ≡ x [MOD r]) (r * (N / r)) := by
    intro value
    simp [Nat.ModEq]
  rw [hset, Nat.filter_Ico_card_eq_of_periodic _ _ _ hperiodic, Nat.count_modEq_card _ hr,
    Nat.mul_mod_right, if_neg (Nat.not_lt_zero _), Nat.mul_div_cancel_left _ hr, Nat.add_zero]

theorem two_mul_mod_le (hr : 0 < r) (hN : r ≤ N) : 2 * (N % r) ≤ N := by
  have hsplit := Nat.mod_add_div N r
  have hmod := Nat.mod_lt N hr
  have hwhole : r ≤ r * (N / r) := Nat.le_mul_of_pos_right r (Nat.div_pos hN hr)
  omega

theorem drawn_eq_some {threshold value y : Nat} {result : Nat → Nat} :
    drawn threshold result value = some y ↔ threshold ≤ value ∧ result value = y := by
  unfold drawn
  split_ifs with hreject
  · exact iff_of_false nofun fun h => absurd h.1 (Nat.not_le.mpr hreject)
  · rw [Option.some_inj]
    exact (and_iff_right (Nat.not_lt.mp hreject)).symm

theorem unbiased_drawn {minimum : Nat} (hr : 0 < r) (hword : r ≤ 2 ^ 64) :
    Unbiased r minimum (drawn (2 ^ 64 % r) fun value => minimum + value % r) := by
  refine ⟨fun value _ result hresult => ?_, fun result hlow hhigh => ?_, ?_⟩
  · obtain ⟨-, rfl⟩ := drawn_eq_some.mp hresult
    have hmod := Nat.mod_lt value hr
    omega
  · rw [← @card_residue (2 ^ 64) r (result - minimum) hr (by omega)]
    refine congrArg card (filter_congr fun value _ => ?_)
    refine drawn_eq_some.trans (and_congr_right fun _ => ?_)
    omega
  · have hset : {value ∈ range (2 ^ 64) | (drawn (2 ^ 64 % r) (fun value => minimum + value % r)
          value).isSome} = Ico (2 ^ 64 % r) (2 ^ 64) := by
      ext value
      rw [mem_filter, mem_range, mem_Ico, Option.isSome_iff_exists]
      simp only [drawn_eq_some, exists_and_left, exists_eq', and_true]
      exact and_comm
    have hhalf := two_mul_mod_le hr hword
    rw [hset, Nat.card_Ico]
    omega

theorem Unbiased.congr {r minimum : Nat} {draw draw' : Nat → Option Nat}
    (hdraw : Unbiased r minimum draw) (heq : ∀ value < 2 ^ 64, draw' value = draw value) :
    Unbiased r minimum draw' where
  within value hvalue result hresult :=
    hdraw.within value hvalue result (heq value hvalue ▸ hresult)
  preimages result hlow hhigh := by
    rw [← hdraw.preimages result hlow hhigh]
    refine congrArg card (filter_congr fun value hvalue => ?_)
    rw [heq value (mem_range.mp hvalue)]
  accepted := by
    refine hdraw.accepted.trans_eq (congrArg card (filter_congr fun value hvalue => ?_))
    rw [heq value (mem_range.mp hvalue)]

/-- Both loops answer each output by a draw without bias. -/
theorem sampling_is_unbiased (E : RandomEngine) (fuel : Nat) (rng : E.State) :
    (∀ r, 0 < r → r < 2 ^ 64 → Unbiased r 0 (boundedDraw r) ∧
      boundedRandom E (fuel + 1) rng r =
        match boundedDraw r (E.next rng).1 with
        | some value => .ok (some (value, (E.next rng).2))
        | none => boundedRandom E fuel (E.next rng).2 r) ∧
    ∀ minimum maximum, minimum < maximum → maximum < 2 ^ 64 →
      Unbiased (maximum - minimum + 1) minimum (sampleDraw minimum maximum) ∧
      sampleInclusive E (fuel + 1) rng minimum maximum =
        match sampleDraw minimum maximum (E.next rng).1 with
        | some value => .ok (value, (E.next rng).2)
        | none => sampleInclusive E fuel (E.next rng).2 minimum maximum := by
  refine ⟨fun r hr hword => ⟨?_, boundedRandom_succ hr⟩,
    fun minimum maximum hrange hword => ⟨?_, sampleInclusive_succ hrange⟩⟩
  · have hthreshold : (2 ^ 64 - 1 - r + 1) % r = 2 ^ 64 % r := by
      rw [show 2 ^ 64 - 1 - r + 1 = 2 ^ 64 - r by omega, ← Nat.mod_eq_sub_mod hword.le]
    have hdrawn := @unbiased_drawn r 0 hr hword.le
    simp only [Nat.zero_add] at hdrawn
    rwa [boundedDraw, hthreshold]
  · refine (unbiased_drawn (Nat.add_one_pos _) (by omega)).congr fun value hvalue => ?_
    simp only [sampleDraw, wrapSub_of_le hword hrange.le]
    split_ifs with hfull
    · unfold wrapAdd at hfull
      rw [show maximum - minimum + 1 = 2 ^ 64 by omega, show minimum = 0 by omega, Nat.mod_self,
        drawn, if_neg (Nat.not_lt_zero _), Nat.zero_add, Nat.mod_eq_of_lt hvalue]
    · have hlength : maximum - minimum + 1 < 2 ^ 64 := by
        unfold wrapAdd at hfull
        omega
      have hmod := Nat.mod_lt value (Nat.add_one_pos (maximum - minimum))
      have hthreshold : wrapSub 0 (maximum - minimum + 1) = 2 ^ 64 - (maximum - minimum + 1) := by
        unfold wrapSub
        omega
      rw [wrapAdd_of_le hlength, hthreshold, ← Nat.mod_eq_sub_mod hlength.le, drawn, drawn,
        wrapAdd_of_le (by omega)]

end Counting

end Bbp.Simulator
