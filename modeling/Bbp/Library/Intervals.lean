import Mathlib

/-!
# Sets of numbers as lists of intervals

An interval is a pair of its first number and the number after its last one.  A list of
intervals in order, with a gap between any two of them, stands for a set without counting
a number twice: its size is the sum of the lengths (`length_free_add_size`), and the
numbers outside of it can be found by going through the gaps (`free_cons`).

`mergeIntervals` puts a sorted list into that form and leaves its numbers as they are.
-/

namespace Bbp.Library

open List

abbrev Interval : Type := Nat × Nat

namespace Intervals

section Sets

/-- The number lies in one of the intervals. -/
def covers (xs : List Interval) (n : Nat) : Bool := xs.any fun i => i.1 ≤ n && n < i.2

variable {xs : List Interval}

theorem covers_iff {n : Nat} : covers xs n = true ↔ ∃ i ∈ xs, i.1 ≤ n ∧ n < i.2 := by
  simp only [covers, any_eq_true, Bool.and_eq_true, decide_eq_true_eq]

theorem covers_false_iff {n : Nat} : covers xs n = false ↔ ∀ i ∈ xs, i.1 ≤ n → i.2 ≤ n := by
  rw [← Bool.not_eq_true, covers_iff]
  refine ⟨fun h i hi hfirst => ?_, fun h hcovered => ?_⟩
  · by_contra hend
    exact h ⟨i, hi, hfirst, Nat.lt_of_not_le hend⟩
  · obtain ⟨i, hi, hfirst, hend⟩ := hcovered
    exact absurd (h i hi hfirst) (Nat.not_le.mpr hend)

/-- Intervals that are not empty, in order and with gaps between them. -/
structure Separated (xs : List Interval) : Prop where
  gaps : xs.Pairwise fun i j => i.2 < j.1
  nonempty : ∀ i, i ∈ xs → i.1 < i.2

theorem Separated.tail {i : Interval} (h : Separated (i :: xs)) : Separated xs :=
  ⟨(pairwise_cons.mp h.gaps).2, fun j hj => h.nonempty j (mem_cons_of_mem _ hj)⟩

theorem Separated.head_lt {i : Interval} (h : Separated (i :: xs)) : ∀ j ∈ xs, i.2 < j.1 :=
  (pairwise_cons.mp h.gaps).1

/-- How many numbers the intervals of a separated list have. -/
def size (xs : List Interval) : Nat := (xs.map fun i => i.2 - i.1).sum

end Sets

section Merging

/-- The order of pairs. -/
def intervalLe (i j : Interval) : Prop := i.1 < j.1 ∨ i.1 = j.1 ∧ i.2 ≤ j.2

instance : DecidableRel intervalLe :=
  fun i j => inferInstanceAs (Decidable (i.1 < j.1 ∨ i.1 = j.1 ∧ i.2 ≤ j.2))

instance : Std.Total intervalLe := ⟨fun i j => by unfold intervalLe; omega⟩

instance : IsTrans Interval intervalLe := ⟨fun i j k hij hjk => by unfold intervalLe at *; omega⟩

/-- Intervals that touch are joined; what is merged comes last one first. -/
def mergeIntervals : List Interval → List Interval → List Interval
  | merged, [] => merged.reverse
  | [], i :: rest => mergeIntervals [i] rest
  | last :: merged, i :: rest =>
    if i.1 ≤ last.2 then mergeIntervals ((last.1, max last.2 i.2) :: merged) rest
    else mergeIntervals (i :: last :: merged) rest

/-- What is merged already, before the intervals that are still to come. -/
structure Merging (merged rest : List Interval) : Prop where
  gaps : merged.Pairwise fun j i => i.2 < j.1
  nonempty : ∀ i, i ∈ merged ++ rest → i.1 < i.2
  sorted : rest.Pairwise fun i j => i.1 ≤ j.1
  later : ∀ last, last ∈ merged.head? → ∀ i, i ∈ rest → last.1 ≤ i.1

theorem Merging.start {i : Interval} {rest : List Interval} (h : Merging [] (i :: rest)) :
    Merging [i] rest := by
  obtain ⟨hfirst, hsorted⟩ := pairwise_cons.mp h.sorted
  refine ⟨pairwise_singleton _ _, h.nonempty, hsorted, ?_⟩
  intro last hlast j hj
  cases hlast
  exact hfirst j hj

variable {i last : Interval} {merged rest : List Interval}

/-- The joined interval begins where the last one did. -/
theorem Merging.join (h : Merging (last :: merged) (i :: rest)) :
    Merging ((last.1, max last.2 i.2) :: merged) rest := by
  have hlast := h.nonempty last mem_cons_self
  obtain ⟨hgap, hgaps⟩ := pairwise_cons.mp h.gaps
  refine ⟨pairwise_cons.mpr ⟨hgap, hgaps⟩, ?_, (pairwise_cons.mp h.sorted).2, ?_⟩
  · intro j hj
    rcases mem_append.mp hj with hj | hj
    · rcases mem_cons.mp hj with rfl | hj
      · exact lt_of_lt_of_le hlast (Nat.le_max_left _ _)
      · exact h.nonempty j (mem_append_left _ (mem_cons_of_mem _ hj))
    · exact h.nonempty j (mem_append_right _ (mem_cons_of_mem _ hj))
  · intro l hl j hj
    cases hl
    exact h.later last rfl j (mem_cons_of_mem _ hj)

theorem Merging.apart (h : Merging (last :: merged) (i :: rest)) (hapart : ¬ i.1 ≤ last.2) :
    Merging (i :: last :: merged) rest := by
  obtain ⟨hfirst, hsorted⟩ := pairwise_cons.mp h.sorted
  obtain ⟨hgap, -⟩ := pairwise_cons.mp h.gaps
  have hlast := h.nonempty last mem_cons_self
  have hbefore : ∀ j ∈ last :: merged, j.2 < i.1 := by
    intro j hj
    rcases mem_cons.mp hj with rfl | hj
    · omega
    · have hj := hgap j hj
      omega
  refine ⟨pairwise_cons.mpr ⟨hbefore, h.gaps⟩, ?_, hsorted, ?_⟩
  · intro j hj
    rcases mem_append.mp hj with hj | hj
    · rcases mem_cons.mp hj with rfl | hj
      · exact h.nonempty j (mem_append_right _ mem_cons_self)
      · exact h.nonempty j (mem_append_left _ hj)
    · exact h.nonempty j (mem_append_right _ (mem_cons_of_mem _ hj))
  · intro l hl j hj
    cases hl
    exact hfirst j hj

theorem mergeIntervals_nil (merged : List Interval) :
    mergeIntervals merged [] = merged.reverse := by
  cases merged <;> rfl

theorem mergeIntervals_separated (h : Merging merged rest) :
    Separated (mergeIntervals merged rest) := by
  induction rest generalizing merged with
  | nil =>
    rw [mergeIntervals_nil]
    refine ⟨pairwise_reverse.mpr h.gaps, ?_⟩
    intro i hi
    exact h.nonempty i (mem_append_left _ (mem_reverse.mp hi))
  | cons i rest ih =>
    cases merged with
    | nil => exact ih h.start
    | cons last merged =>
      unfold mergeIntervals
      split
      · exact ih h.join
      · rename_i hapart
        exact ih (h.apart hapart)

theorem mergeIntervals_covers (h : Merging merged rest) (n : Nat) :
    covers (mergeIntervals merged rest) n = (covers merged n || covers rest n) := by
  induction rest generalizing merged with
  | nil =>
    rw [mergeIntervals_nil]
    simp only [covers, any_reverse, any_nil, Bool.or_false]
  | cons i rest ih =>
    cases merged with
    | nil =>
      unfold mergeIntervals
      rw [ih h.start]
      simp only [covers, any_cons, any_nil, Bool.or_false, Bool.false_or]
    | cons last merged =>
      have hle := h.later last rfl i mem_cons_self
      unfold mergeIntervals
      split
      · rename_i htouch
        have hjoined : (decide (last.1 ≤ n) && decide (n < max last.2 i.2)) =
            (decide (last.1 ≤ n) && decide (n < last.2) ||
              decide (i.1 ≤ n) && decide (n < i.2)) := by
          rw [Bool.eq_iff_iff]
          simp only [Bool.and_eq_true, Bool.or_eq_true, decide_eq_true_eq]
          omega
        rw [ih h.join]
        simp only [covers, any_cons, hjoined]
        ac_rfl
      · rename_i hapart
        rw [ih (h.apart hapart)]
        simp only [covers, any_cons]
        ac_rfl

end Merging

section Gaps

/-- The numbers from `first` to before `stop` that no interval has. -/
def free (xs : List Interval) (first stop : Nat) : List Nat :=
  (range' first (stop - first)).filter fun n => !covers xs n

variable {xs : List Interval} {first stop : Nat}

theorem free_of_le (h : stop ≤ first) : free xs first stop = [] := by
  unfold free
  rw [Nat.sub_eq_zero_of_le h]
  rfl

/-- The numbers up to a place, and those after it. -/
theorem free_split {middle : Nat} (hfirst : first ≤ middle) (hstop : middle ≤ stop) :
    free xs first stop = free xs first middle ++ free xs middle stop := by
  unfold free
  rw [← filter_append]
  congr 1
  have hrange := @range'_append_1 first (middle - first) (stop - middle)
  have hmiddle : first + (middle - first) = middle := by omega
  have hlength : middle - first + (stop - middle) = stop - first := by omega
  rw [hmiddle, hlength] at hrange
  exact hrange.symm

theorem free_congr {ys : List Interval}
    (h : ∀ n, first ≤ n → n < stop → covers xs n = covers ys n) :
    free xs first stop = free ys first stop := by
  unfold free
  apply filter_congr
  intro n hn
  rw [mem_range'_1] at hn
  rw [h n hn.1 (by omega)]

/-- Where no interval is, every number is free. -/
theorem free_of_uncovered (h : ∀ n, first ≤ n → n < stop → covers xs n = false) :
    free xs first stop = range' first (stop - first) := by
  unfold free
  rw [filter_eq_self]
  intro n hn
  rw [mem_range'_1] at hn
  rw [h n hn.1 (by omega)]
  rfl

variable {i : Interval} {xs : List Interval} {first stop : Nat}

/-- Before an interval of a separated list the later ones have no number. -/
theorem Separated.uncovered_before (h : Separated (i :: xs)) {n : Nat} (hn : n < i.1) :
    covers (i :: xs) n = false := by
  rw [covers_false_iff]
  intro j hj hfirst
  have hi := h.nonempty i mem_cons_self
  rcases mem_cons.mp hj with rfl | hj
  · omega
  · have hgap := h.head_lt j hj
    omega

/-- After an interval only the later ones count. -/
theorem covers_cons_of_le {n : Nat} (hn : i.2 ≤ n) : covers (i :: xs) n = covers xs n := by
  have hnot : (decide (i.1 ≤ n) && decide (n < i.2)) = false := by
    rw [decide_eq_false (Nat.not_lt.mpr hn), Bool.and_false]
  simp only [covers, any_cons, hnot, Bool.false_or]

/-- Inside of an interval nothing is free. -/
theorem free_inside (hfirst : i.1 ≤ first) (hstop : stop ≤ i.2) :
    free (i :: xs) first stop = [] := by
  rw [free, filter_eq_nil_iff]
  intro n hn
  rw [mem_range'_1] at hn
  have hcovered : covers (i :: xs) n = true := covers_iff.mpr ⟨i, mem_cons_self, by omega, by omega⟩
  rw [hcovered]
  decide

/-- The free numbers from inside of an interval are those after it. -/
theorem free_cons_of_le (hfirst : i.1 ≤ first) (hend : first < i.2) :
    free (i :: xs) first stop = free xs i.2 stop := by
  by_cases hstop : stop ≤ i.2
  · rw [free_inside hfirst hstop, free_of_le hstop]
  · rw [free_split (Nat.le_of_lt hend) (Nat.le_of_not_le hstop),
      free_inside hfirst (Nat.le_refl _), nil_append]
    exact free_congr (fun n hn _ => covers_cons_of_le hn)

/-- The free numbers from before an interval: those up to it, and those after it. -/
theorem free_cons (h : Separated (i :: xs)) (hfirst : first ≤ i.1) (hstop : i.1 ≤ stop) :
    free (i :: xs) first stop =
      range' first (i.1 - first) ++ free xs i.2 stop := by
  rw [free_split hfirst hstop, free_of_uncovered (fun n _ hn => h.uncovered_before hn),
    free_cons_of_le (Nat.le_refl _) (h.nonempty i mem_cons_self)]

/-- The numbers of the intervals and the free ones are all numbers. -/
theorem length_free_add_size (h : Separated xs) (hfirst : ∀ i ∈ xs, first ≤ i.1)
    (hstop : ∀ i ∈ xs, i.2 ≤ stop) : (free xs first stop).length + size xs = stop - first := by
  induction xs generalizing first with
  | nil =>
    rw [free_of_uncovered (fun n _ _ => rfl), length_range']
    rfl
  | cons i rest ih =>
    have hi := h.nonempty i mem_cons_self
    have hlow := hfirst i mem_cons_self
    have hhigh := hstop i mem_cons_self
    have hrest := ih h.tail (fun j hj => Nat.le_of_lt (h.head_lt j hj))
      (fun j hj => hstop j (mem_cons_of_mem _ hj))
    rw [free_cons h hlow (by omega), length_append, length_range']
    simp only [size, map_cons, sum_cons] at hrest ⊢
    omega

end Gaps

end Intervals

end Bbp.Library
