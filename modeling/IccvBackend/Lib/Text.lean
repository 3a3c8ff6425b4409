/-
Module: IccvBackend.Lib.Text
Purpose: Two functions of ECMAScript on texts: `trim`, and `toLowerCase` over the letters of
  Latin-1.
Trusted boundary: human-reviewed spec
Main exports: isBlank, trimChars, trim, toLowerCase, trimChars_eq_self
-/
import Mathlib.Data.List.Basic

namespace IccvBackend.Lib

/-- `\s`, which is also what `trim` takes away. -/
def isBlank (c : Char) : Bool :=
  c.toNat ∈ [0x20, 0x09, 0x0a, 0x0b, 0x0c, 0x0d, 0xa0, 0x1680, 0x2028, 0x2029, 0x202f,
    0x205f, 0x3000, 0xfeff] || (0x2000 ≤ c.toNat && c.toNat ≤ 0x200a)

/-- `trim`, character by character. -/
def trimChars (text : List Char) : List Char :=
  ((text.dropWhile isBlank).reverse.dropWhile isBlank).reverse

/-- `trim`. -/
def trim (text : String) : String := String.ofList (trimChars text.toList)

/-- The small letter of a capital of Latin-1, in which Portuguese is written. -/
def lowerChar (c : Char) : Char :=
  if 0xc0 ≤ c.toNat ∧ c.toNat ≤ 0xde ∧ c.toNat ≠ 0xd7 then Char.ofNat (c.toNat + 0x20)
  else c.toLower

/-- `toLowerCase`. -/
def toLowerCase (text : String) : String := text.map lowerChar

theorem dropWhile_eq_self {p : Char → Bool} {text : List Char}
    (first : text.head?.any p = false) : text.dropWhile p = text := by
  cases text with
  | nil => rfl
  | cons c text => exact List.dropWhile_cons_of_neg (by simpa using first)

/-- Nothing is taken from a text with no blank at either end. -/
theorem trimChars_eq_self {text : List Char} (first : text.head?.any isBlank = false)
    (last : text.getLast?.any isBlank = false) : trimChars text = text := by
  rw [trimChars, dropWhile_eq_self first, dropWhile_eq_self, List.reverse_reverse]
  rw [List.head?_reverse]
  exact last

end IccvBackend.Lib
