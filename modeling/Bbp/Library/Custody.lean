import Bbp.Library.Stores

/-!
# Tokens in the custody of several parties

A token is a number that is handed from party to party.  To say that none is
lost and none is duplicated, every list of tokens is weighed by an arbitrary
weight on numbers: an equation that holds for every weight says at once how many
tokens there are and how often each of them occurs.

`held` adds up what the members of a finite family hold, and `held_update` is the
only fact about one member changing its mind that the proofs need.
-/

namespace Bbp.Library

universe u v

section Tally

/-- The total weight of a list of tokens. -/
def tally (f : Nat → Nat) (tokens : List Nat) : Nat := (tokens.map f).sum

variable (f : Nat → Nat)

@[simp] theorem tally_nil : tally f [] = 0 := by
  rfl

variable (token : Nat)

@[simp] theorem tally_cons (tokens : List Nat) :
    tally f (token :: tokens) = f token + tally f tokens := by
  simp [tally]

@[simp] theorem tally_append (first second : List Nat) :
    tally f (first ++ second) = tally f first + tally f second := by
  simp [tally]

/-- The weight that counts tokens. -/
def each : Nat → Nat := fun _ => 1

/-- The weight that counts one token. -/
def only (token : Nat) : Nat → Nat := fun other => if other = token then 1 else 0

@[simp] theorem only_self : only token token = 1 := by
  simp [only]

@[simp] theorem tally_each (tokens : List Nat) : tally each tokens = tokens.length := by
  induction tokens with
  | nil => rfl
  | cons token tokens ih =>
    simp only [tally_cons, ih, each, List.length_cons]
    omega

@[simp] theorem tally_only (tokens : List Nat) :
    tally (only token) tokens = tokens.count token := by
  induction tokens with
  | nil => rfl
  | cons other tokens ih =>
    simp only [tally_cons, ih, only, List.count_cons, beq_iff_eq]
    omega

/-- A token that weighs something by itself is in the list. -/
theorem mem_of_tally_only_pos {token : Nat} {tokens : List Nat}
    (h : 0 < tally (only token) tokens) : token ∈ tokens := by
  rw [tally_only] at h
  exact List.count_pos_iff.mp h

/-- Erasing a key takes its own weight out of the weight of the keys. -/
theorem tally_keys_eraseKey {ν : Type u} {k : Nat} {x : ν} {xs : List (Nat × ν)}
    (hnodup : (xs.map Prod.fst).Nodup) (h : xs.lookup k = some x) :
    tally f (xs.map Prod.fst) =
      f k + tally f ((eraseKey k xs).map Prod.fst) := by
  obtain ⟨before, after, hsplit, herase⟩ := lookup_split hnodup h
  rw [herase, hsplit]
  simp only [List.map_append, List.map_cons, tally_append, tally_cons]
  omega

/-- Tokens in a row: one more row behind the first. -/
theorem tally_range'_add (start m n : Nat) :
    tally f (List.range' start (m + n)) =
      tally f (List.range' start m) + tally f (List.range' (start + m) n) := by
  rw [← List.range'_append_1, tally_append]

end Tally

section Families

open Finset Function

variable {ι : Type v} {α : Type u}

/-- What is known of a member is known of the new one, or of another one. -/
theorem update_cases [DecidableEq ι] {members : ι → α} {i j : ι} {x : α} {P : α → Prop}
    (h : P (update members i x j)) : j = i ∧ P x ∨ j ≠ i ∧ P (members j) := by
  by_cases hj : j = i
  · subst hj
    rw [update_self] at h
    exact .inl ⟨rfl, h⟩
  · rw [update_of_ne hj] at h
    exact .inr ⟨hj, h⟩

variable [Fintype ι]

/-- What all members of a family hold together. -/
def held (f : α → Nat) (members : ι → α) : Nat := ∑ i, f (members i)

/-- One member changes: its old share goes and its new share comes. -/
theorem held_update [DecidableEq ι] (f : α → Nat) (members : ι → α) (i : ι) (x : α) :
    held f (update members i x) + f (members i) = held f members + f x := by
  have hsplit : ∀ g : ι → α, held f g = f (g i) + ∑ j ∈ univ.erase i, f (g j) := by
    intro g
    exact (add_sum_erase univ (fun j => f (g j)) (mem_univ i)).symm
  have hrest : ∑ j ∈ univ.erase i, f (update members i x j) =
      ∑ j ∈ univ.erase i, f (members j) := by
    apply sum_congr rfl
    intro j hj
    rw [update_of_ne (ne_of_mem_erase hj)]
  rw [hsplit (update members i x), hsplit members, hrest, update_self]
  omega

/-- One member changes, and with it at most one in the count. -/
theorem card_filter_update [DecidableEq ι] (members : ι → α) (i : ι) (x : α) (p : α → Bool) :
    (univ.filter fun j => p (update members i x j) = true).card + (p (members i)).toNat =
      (univ.filter fun j => p (members j) = true).card + (p x).toNat := by
  have hheld : ∀ g : ι → α,
      (univ.filter fun j => p (g j) = true).card = held (fun x => (p x).toNat) g := by
    intro g
    rw [card_filter]
    refine sum_congr rfl fun j _ => ?_
    beta_reduce
    cases p (g j) <;> rfl
  rw [hheld, hheld]
  exact held_update _ members i x

/-- Every member holds at most what all hold. -/
theorem le_held (f : α → Nat) (members : ι → α) (i : ι) :
    f (members i) ≤ held f members := by
  unfold held
  exact single_le_sum (f := fun j => f (members j)) (fun _ _ => Nat.zero_le _) (mem_univ i)

/-- Members that hold one more than a share hold together one more each. -/
theorem held_le_add {n : Nat} {f g : α → Nat} (h : ∀ x, f x ≤ 1 + g x) (members : Fin n → α) :
    held f members ≤ n + held g members := by
  have hsum := sum_le_sum (fun i (_ : i ∈ univ) => h (members i))
  rw [sum_add_distrib] at hsum
  simpa [held] using hsum

/-- If no member holds anything, nothing is held. -/
theorem held_eq_zero {f : α → Nat} {members : ι → α} (h : ∀ i, f (members i) = 0) :
    held f members = 0 :=
  sum_eq_zero (fun i _ => h i)

end Families

end Bbp.Library
