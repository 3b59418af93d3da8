/-
White space: the characters that count as blank when a text is trimmed, by the
property White_Space of the Unicode Character Database.
-/

import RuntimeLocator.Text.Ranges

namespace RuntimeLocator.Blank

/-- The 25 characters of White_Space, as ranges of code points. -/
def ranges : List (Nat × Nat) := [
  (0x09, 0x0D), (0x20, 0x20), (0x85, 0x85), (0xA0, 0xA0), (0x1680, 0x1680),
  (0x2000, 0x200A), (0x2028, 0x2029), (0x202F, 0x202F), (0x205F, 0x205F),
  (0x3000, 0x3000)]

/-- Whether a character is white space. -/
def isBlank (c : Char) : Bool :=
  inRanges ranges c.toNat

/-- A text of white space alone, the empty text included. -/
def isBlankText (s : String) : Bool :=
  s.toList.all isBlank

/-- The text after its leading white space. -/
def dropLeading (cs : List Char) : List Char :=
  cs.dropWhile isBlank

/-- The text before its trailing white space. -/
def dropTrailing (cs : List Char) : List Char :=
  (cs.reverse.dropWhile isBlank).reverse

/-- A text is more than white space exactly when one of its characters is. -/
theorem isBlankText_eq_false_iff {s : String} :
    isBlankText s = false ↔ ∃ c ∈ s.toList, isBlank c = false := by
  simp [isBlankText]

end RuntimeLocator.Blank
