/-
Strings in JSON: the reading that decodes them, and the one that only passes over
them. The second accepts a surrogate escape that stands alone.
-/

import RuntimeLocator.Json.Reader
import RuntimeLocator.Text.Utf16

namespace RuntimeLocator.Json

/-- The value of a hexadecimal digit of either case. -/
def hexDigit? (c : Char) : Option Nat :=
  if '0' ≤ c && c ≤ '9' then some (c.toNat - 0x30)
  else if 'a' ≤ c && c ≤ 'f' then some (c.toNat - 0x61 + 10)
  else if 'A' ≤ c && c ≤ 'F' then some (c.toNat - 0x41 + 10)
  else none

/-- The unit spelled by the four hexadecimal digits that come next. The text counts as
ended when fewer than four bytes of it are left. -/
def hexUnit (cs : List Char) : Except Fault UInt16 :=
  if (cs.take 4).foldr (Char.utf8Size · + ·) 0 < 4 then .error (.ended .string)
  else
    match (cs.take 4).mapM hexDigit? with
    | some [a, b, c, d] => .ok (UInt16.ofNat (((a * 16 + b) * 16 + c) * 16 + d))
    | _ => .error (.malformed .invalidEscape)

/-- The character behind a backslash and one letter. -/
def shortEscape? : Char → Option Char
  | '"' => some '"'
  | '\\' => some '\\'
  | '/' => some '/'
  | 'b' => some '\x08'
  | 'f' => some '\x0c'
  | 'n' => some '\n'
  | 'r' => some '\r'
  | 't' => some '\t'
  | _ => none

/-- The character behind a backslash and `u`, and how many characters after the `u`
spell it: four digits, or ten when a second escape completes a surrogate pair. -/
def unicodeEscape (cs : List Char) : Except Fault (Char × Nat) :=
  match hexUnit cs with
  | .error fault => .error fault
  | .ok u =>
    if Utf16.isTrailing u then .error (.malformed .loneSurrogate)
    else if Utf16.isLeading u then
      match cs.drop 4 with
      | [] => .error (.ended .string)
      | '\\' :: [] => .error (.ended .string)
      | '\\' :: 'u' :: rest =>
        match hexUnit rest with
        | .error fault => .error fault
        | .ok v =>
          if Utf16.isTrailing v then .ok (Utf16.pairChar u v, 10)
          else .error (.malformed .loneSurrogate)
      | _ => .error (.malformed .hexEscapeUnfinished)
    else .ok (Char.ofNat u.toNat, 4)

/-- Puts a character before the characters that were read. -/
def prepend (c : Char) :
    Except Fault (List Char × List Char) → Except Fault (List Char × List Char)
  | .error fault => .error fault
  | .ok (cs, rest) => .ok (c :: cs, rest)

/-- The characters of a string up to its closing quote, and the text after it. -/
def stringBody : List Char → Except Fault (List Char × List Char)
  | [] => .error (.ended .string)
  | '"' :: cs => .ok ([], cs)
  | '\\' :: [] => .error (.ended .string)
  | '\\' :: 'u' :: cs =>
    match unicodeEscape cs with
    | .error fault => .error fault
    | .ok (c, length) => prepend c (stringBody (cs.drop length))
  | '\\' :: e :: cs =>
    match shortEscape? e with
    | none => .error (.malformed .invalidEscape)
    | some c => prepend c (stringBody cs)
  | c :: cs =>
    if c.toNat < 0x20 then .error (.malformed .controlCharacter)
    else prepend c (stringBody cs)
termination_by cs => cs.length
decreasing_by all_goals grind

theorem length_le_of_prepend {c : Char} {x : Except Fault (List Char × List Char)}
    {cs r : List Char} {n : Nat} (h : prepend c x = .ok (cs, r))
    (bound : ∀ cs', x = .ok (cs', r) → r.length ≤ n) : r.length ≤ n := by
  unfold prepend at h
  split at h
  · cases h
  · obtain ⟨-, rfl⟩ := Prod.mk.inj (Except.ok.inj h)
    exact bound _ rfl

theorem length_stringBody_le {s cs r : List Char} (h : stringBody s = .ok (cs, r)) :
    r.length ≤ s.length := by
  fun_induction stringBody s generalizing cs with
  | case1 => cases h
  | case2 => grind
  | case3 => cases h
  | case4 => cases h
  | case5 s c length escape ih =>
    have := length_le_of_prepend h fun _ h' => ih h'
    grind
  | case6 => cases h
  | case7 e s _ c _ ih =>
    have := length_le_of_prepend h fun _ h' => ih h'
    grind
  | case8 => cases h
  | case9 c s _ _ _ _ _ ih =>
    have := length_le_of_prepend h fun _ h' => ih h'
    grind

/-- The text after the closing quote of a string that is not decoded. -/
def skipBody : List Char → Except Fault (Unit × List Char)
  | [] => .error (.ended .string)
  | '"' :: cs => .ok ((), cs)
  | '\\' :: [] => .error (.ended .string)
  | '\\' :: 'u' :: cs =>
    match hexUnit cs with
    | .error fault => .error fault
    | .ok _ => skipBody (cs.drop 4)
  | '\\' :: e :: cs =>
    match shortEscape? e with
    | none => .error (.malformed .invalidEscape)
    | some _ => skipBody cs
  | c :: cs =>
    if c.toNat < 0x20 then .error (.malformed .controlCharacter)
    else skipBody cs
termination_by cs => cs.length
decreasing_by all_goals grind

theorem length_skipBody_le {s r : List Char} {a : Unit} (h : skipBody s = .ok (a, r)) :
    r.length ≤ s.length := by
  fun_induction skipBody s with
  | _ => grind

namespace Reader

/-- Reads the rest of a string whose opening quote has been passed. -/
def stringTail : Reader String := do
  let cs ← Reader.mk stringBody length_stringBody_le
  return String.ofList cs

/-- Passes over the rest of a string whose opening quote has been passed. -/
def skipString : Reader Unit :=
  Reader.mk skipBody length_skipBody_le

end Reader

end RuntimeLocator.Json
