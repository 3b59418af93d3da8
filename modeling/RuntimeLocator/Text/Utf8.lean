/-
Text as bytes: the strict reading that refuses damaged text, and the lenient one
that puts U+FFFD in the place of each damaged part.

A damaged part is as long as it can be: the longest run of bytes that begins a
well-formed character, or a single byte where none does.
-/

namespace RuntimeLocator.Utf8

/-- The ranges that the bytes after a leading byte must lie in; `none` for a byte
that begins no character. The first continuation is narrowed after E0, ED, F0 and
F4, so that no character has two spellings, none is a surrogate and none lies
beyond U+10FFFF. -/
def continuations (lead : UInt8) : Option (List (UInt8 × UInt8)) :=
  if lead ≤ 0x7F then some []
  else if 0xC2 ≤ lead && lead ≤ 0xDF then some [(0x80, 0xBF)]
  else if lead == 0xE0 then some [(0xA0, 0xBF), (0x80, 0xBF)]
  else if lead == 0xED then some [(0x80, 0x9F), (0x80, 0xBF)]
  else if 0xE1 ≤ lead && lead ≤ 0xEF then some [(0x80, 0xBF), (0x80, 0xBF)]
  else if lead == 0xF0 then some [(0x90, 0xBF), (0x80, 0xBF), (0x80, 0xBF)]
  else if 0xF1 ≤ lead && lead ≤ 0xF3 then some [(0x80, 0xBF), (0x80, 0xBF), (0x80, 0xBF)]
  else if lead == 0xF4 then some [(0x80, 0x8F), (0x80, 0xBF), (0x80, 0xBF)]
  else none

/-- The part of a leading byte that belongs to the code point, given how many
bytes follow it. -/
def leadBits (lead : UInt8) (following : Nat) : Nat :=
  match following with
  | 0 => lead.toNat
  | 1 => lead.toNat % 0x20
  | 2 => lead.toNat % 0x10
  | _ => lead.toNat % 0x08

/-- Reads continuation bytes for as long as each lies in its range. The answer is
the code point, if all of them came, and the bytes that are left. -/
def readContinuations (code : Nat) : List (UInt8 × UInt8) → List UInt8 → Option Nat × List UInt8
  | [], bytes => (some code, bytes)
  | _ :: _, [] => (none, [])
  | range :: ranges, b :: bytes =>
    if range.1 ≤ b && b ≤ range.2 then
      readContinuations (code * 0x40 + b.toNat % 0x40) ranges bytes
    else
      (none, b :: bytes)

theorem length_readContinuations_le (code : Nat) (ranges : List (UInt8 × UInt8))
    (bytes : List UInt8) : (readContinuations code ranges bytes).2.length ≤ bytes.length := by
  fun_induction readContinuations code ranges bytes with
  | case1 => exact Nat.le_refl _
  | case2 => exact Nat.le_refl _
  | case3 code range ranges b bytes _ ih => exact Nat.le_succ_of_le ih
  | case4 => exact Nat.le_refl _

/-- The character that the first bytes spell, U+FFFD if they spell none, and the
bytes that are left. -/
def readChar (lead : UInt8) (bytes : List UInt8) : Char × List UInt8 :=
  match continuations lead with
  | none => ('\uFFFD', bytes)
  | some ranges =>
    match readContinuations (leadBits lead ranges.length) ranges bytes with
    | (some code, rest) => (Char.ofNat code, rest)
    | (none, rest) => ('\uFFFD', rest)

theorem length_readChar_le (lead : UInt8) (bytes : List UInt8) :
    (readChar lead bytes).2.length ≤ bytes.length := by
  unfold readChar
  split
  · exact Nat.le_refl _
  · rename_i ranges _
    have h := length_readContinuations_le (leadBits lead ranges.length) ranges bytes
    split <;> simp_all

/-- The characters of a text whose damaged parts are replaced. -/
def lenientChars : List UInt8 → List Char
  | [] => []
  | lead :: bytes => (readChar lead bytes).1 :: lenientChars (readChar lead bytes).2
termination_by bytes => bytes.length
decreasing_by
  exact Nat.lt_succ_of_le (length_readChar_le lead bytes)

/-- The text of some bytes, with U+FFFD in the place of each damaged part. -/
def lenient (bytes : List UInt8) : String :=
  String.ofList (lenientChars bytes)

/-- The text of some bytes, if they are well-formed throughout. -/
def strict? (bytes : List UInt8) : Option String :=
  String.fromUTF8? ⟨bytes.toArray⟩

/-- The bytes of a text. -/
def bytes (s : String) : List UInt8 :=
  s.toUTF8.data.toList

/-- The parts of some bytes between those that are a mark. -/
def splitAt (mark : UInt8) (data : List UInt8) : List (List UInt8) :=
  data.foldr
    (fun b parts =>
      if b = mark then [] :: parts
      else
        match parts with
        | [] => [[b]]
        | part :: rest => (b :: part) :: rest)
    [[]]

/-- The bytes that are read strictly are those of the text. -/
theorem strict?_eq_some_iff {data : List UInt8} {text : String} :
    strict? data = some text ↔ data = bytes text := by
  have same : text.toByteArray = ⟨data.toArray⟩ ↔ data = bytes text := by
    rw [ByteArray.ext_iff, ← Array.toList_inj, bytes, String.toUTF8_eq_toByteArray]
    exact eq_comm
  rw [← same, strict?, String.fromUTF8?]
  split
  · rw [Option.some_inj, eq_comm, ← String.toByteArray_inj, String.fromUTF8]
  · rename_i damaged
    exact iff_of_false nofun fun written => damaged (written ▸ text.isValidUTF8)

/-- Texts are told apart by their bytes. -/
theorem bytes_inj {s t : String} : bytes s = bytes t ↔ s = t := by
  constructor
  · intro same
    have read : strict? (bytes s) = some t := strict?_eq_some_iff.mpr same
    rw [strict?_eq_some_iff.mpr rfl] at read
    exact Option.some.inj read
  · rintro rfl
    rfl

end RuntimeLocator.Utf8
