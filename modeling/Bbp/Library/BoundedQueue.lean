import Mathlib

/-!
# Queues that forget their oldest entry

A bounded queue drops its front entry when a new entry is pushed at its limit.  What it
holds is always the end of what has been pushed.
-/

namespace Bbp.Library

universe u

open List

variable {α : Type u}

/-- Push an entry; a full queue loses its front entry first. -/
def pushBounded (limit : Nat) (queue : List α) (entry : α) : List α :=
  (if queue.length = limit then queue.tail else queue) ++ [entry]

section Push

variable {limit : Nat} {queue : List α} {entry : α}

theorem mem_pushBounded {x : α} (h : x ∈ pushBounded limit queue entry) :
    x ∈ queue ∨ x = entry := by
  unfold pushBounded at h
  rcases mem_append.mp h with hold | hnew
  · split at hold
    · exact .inl (mem_of_mem_tail hold)
    · exact .inl hold
  · exact .inr (mem_singleton.mp hnew)

theorem entry_mem_pushBounded : entry ∈ pushBounded limit queue entry :=
  mem_append_right _ (mem_singleton_self entry)

theorem length_pushBounded_le (hlimit : 0 < limit) (h : queue.length ≤ limit) :
    (pushBounded limit queue entry).length ≤ limit := by
  unfold pushBounded
  split
  next hfull =>
    rw [length_append, length_tail, length_singleton]
    omega
  next hroom =>
    rw [length_append, length_singleton]
    omega

/-- The front entry is lost only to entries that fill the queue behind it. -/
theorem suffix_pushBounded {kept : List α} (h : kept <:+ queue) (hroom : kept.length < limit) :
    kept ++ [entry] <:+ pushBounded limit queue entry := by
  obtain ⟨older, rfl⟩ := h
  unfold pushBounded
  split
  next hfull =>
    cases older with
    | nil =>
      rw [nil_append] at hfull
      omega
    | cons first older => exact ⟨older, by simp⟩
  next _ => exact ⟨older, by simp⟩

/-- The queue stays the end of what has been pushed. -/
theorem pushBounded_suffix {pushed : List α} (h : queue <:+ pushed) :
    pushBounded limit queue entry <:+ pushed ++ [entry] := by
  have htail : (if queue.length = limit then queue.tail else queue) <:+ pushed := by
    split
    · exact (tail_suffix queue).trans h
    · exact h
  obtain ⟨older, holder⟩ := htail
  exact ⟨older, by rw [pushBounded, ← append_assoc, holder]⟩

/-- What holds between any two entries in order still holds after a push. -/
theorem pairwise_pushBounded {R : α → α → Prop} (h : queue.Pairwise R)
    (hnew : ∀ x ∈ queue, R x entry) : (pushBounded limit queue entry).Pairwise R := by
  unfold pushBounded
  refine pairwise_append.mpr ⟨?_, pairwise_singleton R entry, ?_⟩
  · split
    · exact h.sublist (tail_sublist queue)
    · exact h
  · intro x hx y hy
    rw [mem_singleton.mp hy]
    split at hx
    · exact hnew x (mem_of_mem_tail hx)
    · exact hnew x hx

end Push

end Bbp.Library
