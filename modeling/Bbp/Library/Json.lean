import Mathlib

/-!
# JSON documents

JSON values, the number of bytes that the compact text of a value takes, and what a library
that writes and reads such texts has to grant.  Objects keep their fields in the order in which
they are written.
-/

namespace Bbp.Library

inductive Json where
  | null
  | bool (value : Bool)
  | number (value : Int)
  | string (value : String)
  | array (values : List Json)
  | object (fields : List (String × Json))

namespace Json

section Text

/-- The bytes of a character in a quoted string. -/
def characterSize (c : Char) : Nat :=
  if c = '"' ∨ c = '\\' then 2
  else if c.toNat = 8 ∨ c.toNat = 9 ∨ c.toNat = 10 ∨ c.toNat = 12 ∨ c.toNat = 13 then 2
  else if c.toNat < 32 then 6
  else c.utf8Size

/-- The bytes of a string between its quotes. -/
def escapedSize (text : String) : Nat := (text.toList.map characterSize).sum

def numberSize (value : Int) : Nat :=
  (Nat.toDigits 10 value.natAbs).length + if value < 0 then 1 else 0

mutual

/-- The bytes of the compact text of a value. -/
def textSize : Json → Nat
  | .null => 4
  | .bool true => 4
  | .bool false => 5
  | .number value => numberSize value
  | .string value => escapedSize value + 2
  | .array values => max 2 (1 + itemsSize values)
  | .object fields => max 2 (1 + fieldsSize fields)

/-- Each item with the sign after it. -/
def itemsSize : List Json → Nat
  | [] => 0
  | value :: values => value.textSize + 1 + itemsSize values

/-- Each field with its quotes, its colon and the sign after it. -/
def fieldsSize : List (String × Json) → Nat
  | [] => 0
  | (name, value) :: fields => escapedSize name + value.textSize + 4 + fieldsSize fields

end

theorem characterSize_le (c : Char) : characterSize c ≤ 6 := by
  have hutf8 := c.utf8Size_le_four
  unfold characterSize
  split
  · omega
  · split
    · omega
    · split <;> omega

theorem escapedSize_le (text : String) : escapedSize text ≤ 6 * text.length := by
  rw [escapedSize, ← String.length_toList]
  induction text.toList with
  | nil => exact Nat.le_refl 0
  | cons c rest ih =>
    have hc := characterSize_le c
    rw [List.map_cons, List.sum_cons, List.length_cons]
    omega

/-- A decimal number has digits only. -/
theorem notMem_toDigits {c : Char} (hc : c.isDigit = false) (n : Nat) : c ∉ Nat.toDigits 10 n := by
  intro hmem
  have hdigit := Nat.isDigit_of_mem_toDigits (by decide) le_rfl hmem
  rw [hc] at hdigit
  cases hdigit

theorem numberSize_le {n : Nat} (h : n < 2 ^ 64) : numberSize n ≤ 20 := by
  have hdigits : (Nat.toDigits 10 n).length ≤ 20 :=
    Nat.toDigits_length 10 n 20 (by decide) (lt_trans h (by decide))
  have hsign : ¬ (n : Int) < 0 := by omega
  simpa only [numberSize, Int.natAbs_natCast, if_neg hsign, Nat.add_zero] using hdigits

theorem itemsSize_strings (texts : List String) :
    itemsSize (texts.map .string) = (texts.map fun text => escapedSize text + 3).sum := by
  induction texts with
  | nil => rfl
  | cons text texts ih => rw [List.map_cons, itemsSize, ih, List.map_cons, List.sum_cons, textSize]

end Text

end Json

/-- A library for JSON texts. -/
structure JsonText where
  Text : Type
  serialize : Json → Text
  parse : Text → Except String Json
  size : Text → Nat
  parse_serialize : ∀ value, parse (serialize value) = .ok value
  size_serialize_le : ∀ value, size (serialize value) ≤ value.textSize

/-- The texts as the values themselves. -/
def JsonText.compact : JsonText := ⟨Json, id, .ok, Json.textSize, fun _ => rfl, fun _ => le_rfl⟩

end Bbp.Library
