import Mathlib

/-!
# Trees of blocks

A block determines its height and its parent, so it determines the whole chain
below it: `blockAt tip h` is the block at height `h` of the chain that ends in
`tip`.  Two chains that agree at a height agree everywhere below it.
-/

namespace Bbp.Library

universe u

/-- Blocks that determine their heights and their ancestors. -/
structure BlockTree (H : Type u) where
  height : H → Nat
  parent : H → H
  height_parent : ∀ b, height (parent b) = height b - 1

namespace BlockTree

variable {H : Type u} (T : BlockTree H)

/-- The block at a height of the chain that ends in a tip. -/
def blockAt (tip : H) (h : Nat) : H := T.parent^[T.height tip - h] tip

theorem height_iterate_parent (n : Nat) (b : H) : T.height (T.parent^[n] b) = T.height b - n := by
  induction n generalizing b with
  | zero => simp
  | succ n ih =>
    rw [Function.iterate_succ_apply, ih, T.height_parent]
    omega

@[simp]
theorem blockAt_height (tip : H) : T.blockAt tip (T.height tip) = tip := by
  simp [blockAt]

variable {T} {tip : H} {h k : Nat}

theorem height_blockAt (hh : h ≤ T.height tip) : T.height (T.blockAt tip h) = h := by
  rw [blockAt, height_iterate_parent]
  omega

/-- Below one of its blocks a chain is the chain of that block. -/
theorem blockAt_blockAt (hk : k ≤ h) (hh : h ≤ T.height tip) :
    T.blockAt (T.blockAt tip h) k = T.blockAt tip k := by
  have hsteps : T.height tip - k = (h - k) + (T.height tip - h) := by
    omega
  rw [blockAt, height_blockAt hh, blockAt, blockAt, hsteps, Function.iterate_add_apply]

/-- Chains that agree at a height agree below it. -/
theorem blockAt_eq_of_agree {tip' : H}
    (hk : k ≤ h) (hh : h ≤ T.height tip) (hh' : h ≤ T.height tip')
    (hagree : T.blockAt tip h = T.blockAt tip' h) : T.blockAt tip k = T.blockAt tip' k := by
  rw [← blockAt_blockAt hk hh, hagree, blockAt_blockAt hk hh']

end BlockTree

end Bbp.Library
