/-
Text as 16-bit units: how many units a text takes, which units they are, and the
text that a sequence of units stands for when some of them are damaged.

`encode` and `units` go together (`length_encode`), and a damaged unit is replaced
by one character of one unit, so decoding neither drops nor adds units.
-/

namespace RuntimeLocator.Utf16

/-- The character that stands in for a damaged unit. -/
def replacement : Char := '\uFFFD'

/-- A character takes one unit up to U+FFFF and a surrogate pair above. -/
def charUnits (c : Char) : Nat :=
  if c.toNat < 0x10000 then 1 else 2

/-- The number of 16-bit units of a text. -/
def units (s : String) : Nat :=
  s.toList.foldr (charUnits · + ·) 0

/-- The units of one character. -/
def encodeChar (c : Char) : List UInt16 :=
  if c.toNat < 0x10000 then
    [UInt16.ofNat c.toNat]
  else
    [UInt16.ofNat (0xD800 + (c.toNat - 0x10000) / 0x400),
      UInt16.ofNat (0xDC00 + (c.toNat - 0x10000) % 0x400)]

/-- The units of a text. -/
def encode (s : String) : List UInt16 :=
  s.toList.flatMap encodeChar

/-- Whether a unit is the first half of a surrogate pair. -/
def isLeading (u : UInt16) : Bool :=
  0xD800 ≤ u.toNat && u.toNat ≤ 0xDBFF

/-- Whether a unit is the second half of a surrogate pair. -/
def isTrailing (u : UInt16) : Bool :=
  0xDC00 ≤ u.toNat && u.toNat ≤ 0xDFFF

/-- The character of a surrogate pair. -/
def pairChar (leading trailing : UInt16) : Char :=
  Char.ofNat (0x10000 + (leading.toNat - 0xD800) * 0x400 + (trailing.toNat - 0xDC00))

/-- The character that one unit stands for by itself: no surrogate stands for one. -/
def unitChar (u : UInt16) : Char :=
  if isLeading u || isTrailing u then replacement else Char.ofNat u.toNat

/-- The characters that the units stand for. A surrogate without its other half
becomes U+FFFD, and the unit after it is read afresh. -/
def decodeChars : List UInt16 → List Char
  | [] => []
  | [u] => [unitChar u]
  | u :: v :: rest =>
    if isLeading u && isTrailing v then pairChar u v :: decodeChars rest
    else unitChar u :: decodeChars (v :: rest)

/-- The text that the units stand for. -/
def decode (us : List UInt16) : String :=
  String.ofList (decodeChars us)

theorem length_encodeChar (c : Char) : (encodeChar c).length = charUnits c := by
  unfold encodeChar charUnits
  split <;> rfl

/-- A text has as many units as `units` counts. -/
theorem length_encode (s : String) : (encode s).length = units s := by
  unfold encode units
  induction s.toList with
  | nil => rfl
  | cons c cs ih =>
    rw [List.flatMap_cons, List.length_append, List.foldr_cons, length_encodeChar, ih]

end RuntimeLocator.Utf16
