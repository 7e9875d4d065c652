import Mathlib

/-!
# Vectors, ordered maps and unsigned words

The containers that a state record is made of, as lists.

* A vector of counters is a list of naturals; `slot` reads a position and
  `List.set` writes it.
* An ordered map is a list of key/value pairs whose keys are distinct.
  `List.lookup` finds a key and `eraseKey` removes it.
* `sumWhere` adds a weight over the elements that satisfy a test.  With weight
  one it counts them.

Unsigned 64-bit arithmetic is done on naturals below `2 ^ 64`.  The operations
that the modelled code performs without a check of its own wrap around
explicitly.
-/

namespace Bbp.Library

universe u v

open List

/-- The values an unsigned 64-bit word can take. -/
abbrev U64 : Type := Fin (2 ^ 64)

instance neZero_word : NeZero (2 ^ 64) := ⟨by decide⟩

/-- Unsigned 64-bit addition. -/
def wrapAdd (a b : Nat) : Nat := (a + b) % 2 ^ 64

/-- Unsigned 64-bit subtraction. -/
def wrapSub (a b : Nat) : Nat := (a + (2 ^ 64 - b)) % 2 ^ 64

/-- Unsigned 64-bit multiplication. -/
def wrapMul (a b : Nat) : Nat := (a * b) % 2 ^ 64

theorem wrapAdd_of_le {a b : Nat} (h : a + b < 2 ^ 64) : wrapAdd a b = a + b := by
  unfold wrapAdd
  omega

theorem wrapSub_of_le {a b : Nat} (ha : a < 2 ^ 64) (hb : b ≤ a) : wrapSub a b = a - b := by
  unfold wrapSub
  omega

theorem wrapMul_of_le {a b : Nat} (h : a * b < 2 ^ 64) : wrapMul a b = a * b := by
  unfold wrapMul
  exact Nat.mod_eq_of_lt h

section Results

variable {ε α β : Type} {x : Except ε α}

/-- Two calls, one after the other, that do not throw. -/
theorem bind_eq_ok {f : α → Except ε β} {b : β} :
    (x >>= f) = .ok b ↔ ∃ a, x = .ok a ∧ f a = .ok b := by
  cases x with
  | error | ok => simp [bind, Except.bind]

theorem map_eq_ok {f : α → β} {b : β} : f <$> x = .ok b ↔ ∃ a, x = .ok a ∧ f a = b := by
  cases x with
  | error | ok => simp [Functor.map, Except.map]

end Results

section Vectors

/-- The value at a position of a vector of counters; zero outside of it. -/
def slot (xs : List Nat) (i : Nat) : Nat := xs.getD i 0

theorem slot_set (xs : List Nat) (i j v : Nat) (hi : i < xs.length) :
    slot (xs.set i v) j = if j = i then v else slot xs j := by
  by_cases h : j = i
  · subst h
    simp [slot, getElem?_set_self hi]
  · simp [slot, h, getElem?_set_ne (Ne.symm h)]

variable {xs : List Nat}

theorem slot_set_add {i : Nat} (hi : i < xs.length) (a j : Nat) :
    slot (xs.set i (slot xs i + a)) j = slot xs j + if i = j then a else 0 := by
  rw [slot_set _ _ _ _ hi]
  by_cases h : j = i
  · rw [if_pos h, if_pos h.symm, h]
  · rw [if_neg h, if_neg (Ne.symm h), Nat.add_zero]

theorem slot_set_sub {i a : Nat} (hi : i < xs.length) (ha : a ≤ slot xs i) (j : Nat) :
    slot (xs.set i (slot xs i - a)) j + (if i = j then a else 0) = slot xs j := by
  rw [slot_set _ _ _ _ hi]
  by_cases h : j = i
  · rw [if_pos h, if_pos h.symm, h, Nat.sub_add_cancel ha]
  · rw [if_neg h, if_neg (Ne.symm h), Nat.add_zero]

theorem slot_of_length_le {i : Nat} (h : xs.length ≤ i) : slot xs i = 0 := by
  simp [slot, h]

theorem slot_replicate_zero (n i : Nat) : slot (replicate n 0) i = 0 := by
  by_cases h : i < n
  · simp [slot, h]
  · simp [slot, h]

theorem slot_mapIdx (f : Nat → Nat → Nat) (xs : List Nat) (i : Nat) (hi : i < xs.length) :
    slot (xs.mapIdx f) i = f i (slot xs i) := by
  simp [slot, hi]

theorem slot_mem {i : Nat} (hi : i < xs.length) : slot xs i ∈ xs := by
  simp [slot, hi]

/-- Two vectors of one length with the same values are the same vector. -/
theorem slot_ext {xs ys : List Nat} (hlength : xs.length = ys.length)
    (hslot : ∀ i, i < xs.length → slot xs i = slot ys i) : xs = ys := by
  apply ext_getElem hlength
  intro i hx hy
  have h := hslot i hx
  simpa [slot, hx, hy] using h

end Vectors

section Sums

variable {α : Type u}

/-- The sum of a weight over the elements that satisfy a test. -/
def sumWhere (p : α → Bool) (w : α → Nat) (xs : List α) : Nat := ((xs.filter p).map w).sum

theorem sumWhere_cons (p : α → Bool) (w : α → Nat) (x : α) (xs : List α) :
    sumWhere p w (x :: xs) = (if p x then w x else 0) + sumWhere p w xs := by
  by_cases h : p x
  · simp [sumWhere, h]
  · simp [sumWhere, h]

theorem sumWhere_append (p : α → Bool) (w : α → Nat) (xs ys : List α) :
    sumWhere p w (xs ++ ys) = sumWhere p w xs + sumWhere p w ys := by
  simp [sumWhere, filter_append]

end Sums

section Maps

variable {κ : Type u} [DecidableEq κ] {ν : Type v}

/-- A map without one key. -/
def eraseKey (k : κ) (xs : List (κ × ν)) : List (κ × ν) := xs.filter (fun e => e.1 ≠ k)

variable {k : κ} {x : ν} {xs : List (κ × ν)}

theorem mem_of_lookup (h : xs.lookup k = some x) : (k, x) ∈ xs := by
  obtain ⟨before, after, rfl, _⟩ := lookup_eq_some_iff.mp h
  simp

/-- With distinct keys a lookup finds every entry. -/
theorem lookup_of_mem (hnodup : (xs.map Prod.fst).Nodup) (h : (k, x) ∈ xs) :
    xs.lookup k = some x := by
  induction xs with
  | nil =>
    cases h
  | cons entry rest ih =>
    obtain ⟨hhead, hrest⟩ := nodup_cons.mp hnodup
    rcases mem_cons.mp h with rfl | hmem
    · simp [lookup]
    · have hne : (k == entry.1) = false := by
        simp only [beq_eq_false_iff_ne, ne_eq]
        intro heq
        exact hhead (heq ▸ mem_map_of_mem (f := Prod.fst) hmem)
      simp [lookup, hne, ih hrest hmem]

theorem lookup_isSome_iff_mem_keys :
    (xs.lookup k).isSome = true ↔ k ∈ xs.map Prod.fst := by
  simp

theorem eraseKey_of_notMem (h : k ∉ xs.map Prod.fst) : eraseKey k xs = xs := by
  apply filter_eq_self.mpr
  intro e he
  have hne : e.1 ≠ k := by
    intro heq
    exact h (heq ▸ mem_map_of_mem he)
  simp [hne]

/-- Erasing a key that is there takes exactly its own entry out of the list. -/
theorem eraseKey_append_cons {before after : List (κ × ν)}
    (hnodup : ((before ++ (k, x) :: after).map Prod.fst).Nodup) :
    eraseKey k (before ++ (k, x) :: after) = before ++ after := by
  have hkeys : k ∉ before.map Prod.fst ∧ k ∉ after.map Prod.fst := by
    simp only [map_append, map_cons] at hnodup
    have hperm := (perm_middle.nodup_iff).mp hnodup
    have hnot := (nodup_cons.mp hperm).1
    simpa [mem_append, not_or] using hnot
  have hbefore := eraseKey_of_notMem hkeys.1
  have hafter := eraseKey_of_notMem hkeys.2
  simp only [eraseKey] at hbefore hafter
  simp only [eraseKey, filter_append, filter_cons, hbefore, hafter]
  simp

/-- The entry that a lookup finds, split out of the map. -/
theorem lookup_split (hnodup : (xs.map Prod.fst).Nodup) (h : xs.lookup k = some x) :
    ∃ before after,
      xs = before ++ (k, x) :: after ∧
      eraseKey k xs = before ++ after := by
  obtain ⟨before, after, rfl, _⟩ := lookup_eq_some_iff.mp h
  exact ⟨before, after, rfl, eraseKey_append_cons hnodup⟩

theorem nodup_keys_eraseKey (hnodup : (xs.map Prod.fst).Nodup) :
    ((eraseKey k xs).map Prod.fst).Nodup :=
  List.Nodup.sublist (List.Sublist.map _ filter_sublist) hnodup

theorem length_eraseKey (hnodup : (xs.map Prod.fst).Nodup) (h : xs.lookup k = some x) :
    (eraseKey k xs).length + 1 = xs.length := by
  obtain ⟨before, after, hsplit, herase⟩ := lookup_split hnodup h
  rw [herase, hsplit]
  simp
  omega

/-- A lookup in a map from which some keys have been taken out. -/
theorem lookup_filter {p : κ → Prop} [DecidablePred p] {j : κ} :
    (xs.filter (fun e => p e.1)).lookup j = if p j then xs.lookup j else none := by
  induction xs with
  | nil => simp
  | cons entry rest ih =>
    by_cases hkey : p entry.1
    · rw [filter_cons_of_pos (by simpa using hkey), lookup, lookup, ih]
      cases hsame : j == entry.1 with
      | true =>
        have hj : p j := by
          rw [beq_iff_eq.mp hsame]
          exact hkey
        rw [if_pos hj, if_pos hj]
      | false => rfl
    · rw [filter_cons_of_neg (by simpa using hkey), ih]
      by_cases hj : p j
      · have hne : (j == entry.1) = false := by
          refine beq_eq_false_iff_ne.mpr ?_
          rintro rfl
          exact hkey hj
        rw [if_pos hj, if_pos hj, lookup, hne]
      · rw [if_neg hj, if_neg hj]

theorem lookup_eraseKey {j : κ} :
    (eraseKey k xs).lookup j = if j = k then none else xs.lookup j := by
  unfold eraseKey
  rw [lookup_filter (p := fun i => i ≠ k)]
  by_cases hj : j = k
  · rw [if_neg (not_not.mpr hj), if_pos hj]
  · rw [if_pos hj, if_neg hj]

theorem mem_keys_eraseKey {j : κ} :
    j ∈ (eraseKey k xs).map Prod.fst ↔ j ≠ k ∧ j ∈ xs.map Prod.fst := by
  rw [← lookup_isSome_iff_mem_keys, ← lookup_isSome_iff_mem_keys, lookup_eraseKey]
  split
  next hsame => exact ⟨nofun, fun h => absurd hsame h.1⟩
  next hne => exact (and_iff_right hne).symm

/-- A map with one key assigned, whether it was there or not. -/
def assignKey (k : κ) (x : ν) (xs : List (κ × ν)) : List (κ × ν) := (k, x) :: eraseKey k xs

theorem lookup_assignKey {j : κ} :
    (assignKey k x xs).lookup j = if j = k then some x else xs.lookup j := by
  unfold assignKey
  rw [lookup]
  cases hsame : j == k with
  | true => rw [if_pos (beq_iff_eq.mp hsame)]
  | false =>
    have hne : j ≠ k := beq_eq_false_iff_ne.mp hsame
    rw [lookup_eraseKey, if_neg hne, if_neg hne]

theorem mem_keys_assignKey {j : κ} :
    j ∈ (assignKey k x xs).map Prod.fst ↔ j = k ∨ j ∈ xs.map Prod.fst := by
  rw [← lookup_isSome_iff_mem_keys, ← lookup_isSome_iff_mem_keys, lookup_assignKey]
  split
  next hsame => exact ⟨fun _ => .inl hsame, fun _ => rfl⟩
  next hne => exact (or_iff_right hne).symm

/-- Erasing an entry takes its weight out of every sum that counts it. -/
theorem sumWhere_eraseKey (p : κ × ν → Bool) (w : κ × ν → Nat) (hnodup : (xs.map Prod.fst).Nodup)
    (h : xs.lookup k = some x) :
    sumWhere p w xs =
      (if p (k, x) then w (k, x) else 0) + sumWhere p w (eraseKey k xs) := by
  obtain ⟨before, after, hsplit, herase⟩ := lookup_split hnodup h
  rw [herase, hsplit]
  simp only [sumWhere_append, sumWhere_cons]
  omega

end Maps

section Heap

variable {α : Type u}

variable {xs : List α}

/-- The cells of a list of which one has been changed. -/
theorem getElem?_modify_eq_some_iff {i j : Nat} {f : α → α} {y : α} :
    (xs.modify i f)[j]? = some y ↔
      ∃ x, xs[j]? = some x ∧ y = if i = j then f x else x := by
  rw [getElem?_modify]
  constructor
  · intro h
    obtain ⟨x, hx, hy⟩ := Option.map_eq_some_iff.mp h
    exact ⟨x, hx, hy.symm⟩
  · rintro ⟨x, hx, rfl⟩
    exact Option.map_eq_some_iff.mpr ⟨x, hx, rfl⟩

/-- Changing one cell changes a count by what this cell counts. -/
theorem countP_modify_add {p : α → Bool} {i : Nat} {x : α} (h : xs[i]? = some x) (f : α → α) :
    (xs.modify i f).countP p + (p x).toNat = xs.countP p + (p (f x)).toNat := by
  induction xs generalizing i with
  | nil => simp at h
  | cons y ys ih =>
    cases i with
    | zero =>
      simp only [getElem?_cons_zero, Option.some.injEq] at h
      subst h
      simp only [modify_zero_cons, countP_cons]
      cases p y <;> cases p (f y) <;> simp
    | succ i =>
      simp only [getElem?_cons_succ] at h
      have hrest := ih h
      simp only [modify_succ_cons, countP_cons]
      omega

/-- A weaker test counts more if some element passes only the weaker one. -/
theorem countP_lt_countP_of_mem {p q : α → Bool} {x : α} (h : ∀ y ∈ xs, p y = true → q y = true)
    (hx : x ∈ xs) (hp : p x = false) (hq : q x = true) :
    xs.countP p < xs.countP q := by
  induction xs with
  | nil => simp at hx
  | cons y ys ih =>
    have hrest : ys.countP p ≤ ys.countP q :=
      countP_mono_left fun z hz => h z (mem_cons_of_mem y hz)
    simp only [countP_cons]
    rcases mem_cons.mp hx with rfl | hx
    · simp only [hp, hq, Bool.false_eq_true, if_false, if_true]
      omega
    · have hlt := ih (fun z hz => h z (mem_cons_of_mem y hz)) hx
      have hhead := h y mem_cons_self
      cases hpy : p y with
      | true =>
        simp only [hhead hpy, if_true]
        omega
      | false =>
        simp only [Bool.false_eq_true, if_false]
        omega

end Heap

end Bbp.Library
