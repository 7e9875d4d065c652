import Mathlib

/-!
# Lists of records with a key

A store whose records carry their own key is a list in which no two records have the same
key.  `updateKey` changes the record with a key.  It keeps the order and the length of the
list; a count over the records changes by at most the record that is changed.
-/

namespace Bbp.Library

universe u v w

open List

variable {α : Type u} {κ : Type v} {β : Type w} [DecidableEq κ]

/-- Change the record that has the key. -/
def updateKey (key : α → κ) (k : κ) (f : α → α) (records : List α) : List α :=
  records.map fun r => if key r = k then f r else r

section Update

variable {q : α → κ} {k : κ} {f : α → α} {records : List α}

theorem mem_updateKey {r : α} (h : r ∈ updateKey q k f records) :
    (r ∈ records ∧ q r ≠ k) ∨ ∃ old ∈ records, q old = k ∧ r = f old := by
  obtain ⟨old, hold, rfl⟩ := mem_map.mp h
  split
  next hkey => exact .inr ⟨old, hold, hkey, rfl⟩
  next hkey => exact .inl ⟨hold, hkey⟩

@[simp] theorem length_updateKey :
    (updateKey q k f records).length = records.length :=
  length_map _

/-- A view of the records that `f` does not change. -/
theorem map_updateKey_of_eq {g : α → β} (h : ∀ r ∈ records, q r = k → g (f r) = g r) :
    (updateKey q k f records).map g = records.map g := by
  unfold updateKey
  rw [map_map]
  refine map_congr_left fun r hr => ?_
  simp only [Function.comp_apply]
  split
  next hkey => exact h r hr hkey
  next => rfl

/-- A view of the records under which `f` is seen as `e`. -/
theorem map_updateKey {g : α → β} {p : β → κ} {e : β → β} (hkey : ∀ r, p (g r) = q r)
    (hf : ∀ r ∈ records, q r = k → g (f r) = e (g r)) :
    (updateKey q k f records).map g = updateKey p k e (records.map g) := by
  unfold updateKey
  rw [map_map, map_map]
  refine map_congr_left fun r hr => ?_
  simp only [Function.comp_apply, hkey]
  split
  next h => exact hf r hr h
  next => rfl

theorem pairwise_updateKey_of_eq {g : α → β} {R : β → β → Prop}
    (h : ∀ r ∈ records, q r = k → g (f r) = g r)
    (hpairwise : records.Pairwise fun a b => R (g a) (g b)) :
    (updateKey q k f records).Pairwise fun a b => R (g a) (g b) := by
  rw [← pairwise_map] at hpairwise ⊢
  rw [map_updateKey_of_eq h]
  exact hpairwise

theorem countP_updateKey_of_eq {p : α → Bool} (h : ∀ r ∈ records, q r = k → p (f r) = p r) :
    (updateKey q k f records).countP p = records.countP p := by
  unfold updateKey
  rw [countP_map]
  refine countP_congr fun r hr => ?_
  simp only [Function.comp_apply]
  split
  next hkey => rw [h r hr hkey]
  next => exact Iff.rfl

omit [DecidableEq κ] in
/-- Keys that are distinct tell the records apart. -/
theorem eq_of_key_eq (hdistinct : records.Pairwise fun a b => q a ≠ q b) {a b : α}
    (ha : a ∈ records) (hb : b ∈ records) (hkey : q a = q b) : a = b := by
  induction records with
  | nil => cases ha
  | cons head tail ih =>
    rw [pairwise_cons] at hdistinct
    rcases mem_cons.mp ha with hhead | hatail
    · rcases mem_cons.mp hb with hhead' | hbtail
      · exact hhead.trans hhead'.symm
      · rw [hhead] at hkey
        exact absurd hkey (hdistinct.1 b hbtail)
    · rcases mem_cons.mp hb with hhead' | hbtail
      · rw [hhead'] at hkey
        exact absurd hkey.symm (hdistinct.1 a hatail)
      · exact ih hdistinct.2 hatail hbtail

/-- The record with the key no longer counts. -/
theorem countP_updateKey_drop {p : α → Bool} (hdistinct : records.Pairwise fun a b => q a ≠ q b)
    {r : α} (hr : r ∈ records) (hkey : q r = k) (hbefore : p r = true) (hafter : p (f r) = false) :
    records.countP p = (updateKey q k f records).countP p + 1 := by
  induction records with
  | nil => cases hr
  | cons head tail ih =>
    rw [pairwise_cons] at hdistinct
    change (head :: tail).countP p =
      ((if q head = k then f head else head) :: updateKey q k f tail).countP p + 1
    rcases mem_cons.mp hr with rfl | hr
    · have htail : (updateKey q k f tail).countP p = tail.countP p :=
        countP_updateKey_of_eq fun b hb hb' => absurd (hkey.trans hb'.symm) (hdistinct.1 b hb)
      rw [if_pos hkey, countP_cons_of_pos hbefore,
        countP_cons_of_neg (by rw [hafter]; exact Bool.false_ne_true), htail]
    · have hhead : q head ≠ k := fun h => hdistinct.1 r hr (h.trans hkey.symm)
      rw [if_neg hhead, countP_cons, countP_cons, ih hdistinct.2 hr]
      omega

theorem find?_key_eq_some {r : α} (h : records.find? (fun r => decide (q r = k)) = some r) :
    r ∈ records ∧ q r = k := by
  have hkey := find?_some h
  exact ⟨mem_of_find?_eq_some h, of_decide_eq_true hkey⟩

end Update

section Selection

/-- A fold that keeps what it has or takes what it sees ends with one of the records. -/
theorem mem_of_foldl_select {select : Option α → α → Option α}
    (hselect : ∀ kept x, select kept x = kept ∨ select kept x = some x) {records : List α} {r : α}
    (h : records.foldl select none = some r) : r ∈ records := by
  have hfold : ∀ (records : List α) (start : Option α),
      records.foldl select start = some r → start = some r ∨ r ∈ records := by
    intro records
    induction records with
    | nil => exact fun start hstart => .inl hstart
    | cons x records ih =>
      intro start hstart
      rcases ih _ hstart with hhead | htail
      · rcases hselect start x with hkept | htaken
        · exact .inl (hkept.symm.trans hhead)
        · rw [htaken] at hhead
          cases hhead
          exact .inr mem_cons_self
      · exact .inr (mem_cons_of_mem _ htail)
  rcases hfold records none h with hnone | hmem
  · cases hnone
  · exact hmem

end Selection

section Removal

variable {q : α → κ} {records : List α}

/-- Removing records that do not count changes no count. -/
theorem countP_filter_of_imp {p q : α → Bool} (h : ∀ r ∈ records, p r = true → q r = true) :
    (records.filter q).countP p = records.countP p := by
  rw [countP_filter]
  refine countP_congr fun r hr => ?_
  rw [Bool.and_eq_true]
  exact ⟨And.left, fun hp => ⟨hp, h r hr hp⟩⟩

theorem length_filter_key_lt {r : α} (hr : r ∈ records) :
    (records.filter fun x => decide (q x ≠ q r)).length < records.length := by
  rw [length_filter_lt_length_iff_exists]
  exact ⟨r, hr, by simp⟩

end Removal

end Bbp.Library
