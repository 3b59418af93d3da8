/-
Strings that were printed are read back.

A character stands in a string by itself, behind a backslash as a letter, or behind a
backslash as four hexadecimal digits. There is a lemma for each way of writing it, and
`stringBody_stringChar_append` puts them together: whatever follows, a character is read
as it was printed. So a string is read back to its closing quote.
-/

import RuntimeLocator.Json.Print
import RuntimeLocator.Json.Text
import RuntimeLocator.Proofs.Text.Utf16

namespace RuntimeLocator.Json

/-! ### Escapes -/

/-- A hexadecimal digit is one byte long and is read back. -/
theorem hexDigit?_hexDigit :
    ∀ n < 16, hexDigit? (Print.hexDigit n) = some n ∧ (Print.hexDigit n).utf8Size = 1 := by
  decide

/-- Four digits of a number below 256 spell this number. -/
theorem hexUnit_of_low {n : Nat} (low : n < 256) (rest : List Char) :
    hexUnit ('0' :: '0' :: Print.hexDigit (n / 16) :: Print.hexDigit (n % 16) :: rest) =
      .ok (UInt16.ofNat n) := by
  obtain ⟨first, firstSize⟩ := hexDigit?_hexDigit (n / 16) (by omega)
  obtain ⟨second, secondSize⟩ := hexDigit?_hexDigit (n % 16) (by omega)
  have zero : hexDigit? '0' = some 0 := by decide
  have zeroSize : '0'.utf8Size = 1 := by decide
  have sum : n / 16 * 16 + n % 16 = n := by omega
  simp [hexUnit, zero, zeroSize, first, firstSize, second, secondSize, sum]

/-- The escape of a control character is read as this character. -/
theorem unicodeEscape_of_control {c : Char} (control : c.toNat < 0x20) (rest : List Char) :
    unicodeEscape ('0' :: '0' :: Print.hexDigit (c.toNat / 16) ::
      Print.hexDigit (c.toNat % 16) :: rest) = .ok (c, 4) := by
  have unit : (UInt16.ofNat c.toNat).toNat = c.toNat :=
    UInt16.toNat_ofNat_of_lt' (Nat.lt_trans control (by decide))
  have below : (UInt16.ofNat c.toNat).toNat < 0xD800 := by omega
  obtain ⟨leading, trailing⟩ := Utf16.not_surrogate (.inl below)
  rw [unicodeEscape, hexUnit_of_low (Nat.lt_trans control (by decide))]
  simp only [leading, trailing, unit, Bool.false_eq_true, if_false, Char.ofNat_toNat]

/-! ### Characters of a string -/

theorem stringBody_letter {e c : Char} (letter : shortEscape? e = some c) (rest : List Char) :
    stringBody ('\\' :: e :: rest) = prepend c (stringBody rest) := by
  have noDigits : e ≠ 'u' := by
    rintro rfl
    cases letter
  rw [stringBody]
  · simp only [letter]
  · exact noDigits

theorem stringBody_control {c : Char} (control : c.toNat < 0x20) (rest : List Char) :
    stringBody ('\\' :: 'u' :: '0' :: '0' :: Print.hexDigit (c.toNat / 16) ::
      Print.hexDigit (c.toNat % 16) :: rest) = prepend c (stringBody rest) := by
  rw [stringBody, unicodeEscape_of_control control]
  rfl

theorem stringBody_plain {c : Char} (quote : c ≠ '"') (backslash : c ≠ '\\')
    (visible : ¬ c.toNat < 0x20) (rest : List Char) :
    stringBody (c :: rest) = prepend c (stringBody rest) := by
  rw [stringBody]
  · rw [if_neg visible]
  · exact quote
  · exact fun same _ => backslash same
  · exact fun _ same _ => backslash same
  · exact fun _ _ same _ => backslash same

/-- A character is read as it was printed, whatever follows it. -/
theorem stringBody_stringChar_append (c : Char) (rest : List Char) :
    stringBody (Print.stringChar c ++ rest) = prepend c (stringBody rest) := by
  unfold Print.stringChar
  split
  · exact stringBody_letter rfl rest
  · exact stringBody_letter rfl rest
  · exact stringBody_letter rfl rest
  · exact stringBody_letter rfl rest
  · exact stringBody_letter rfl rest
  · exact stringBody_letter rfl rest
  · exact stringBody_letter rfl rest
  · rename_i quote backslash _ _ _ _ _
    split
    · rename_i control
      exact stringBody_control control rest
    · rename_i visible
      exact stringBody_plain quote backslash visible rest

/-- A string is read back to its closing quote. -/
theorem stringBody_flatMap_stringChar (cs rest : List Char) :
    stringBody (cs.flatMap Print.stringChar ++ '"' :: rest) = .ok (cs, rest) := by
  induction cs with
  | nil => rw [List.flatMap_nil, List.nil_append, stringBody]
  | cons c cs ih =>
    rw [List.flatMap_cons, List.append_assoc, stringBody_stringChar_append, ih]
    rfl

/-- The rest of a string whose opening quote has been passed is read back. -/
theorem Reader.run_stringTail (s : String) (rest : List Char) :
    stringTail.run (s.toList.flatMap Print.stringChar ++ '"' :: rest) = .ok (s, rest) := by
  have body : (Reader.mk stringBody length_stringBody_le).run
      (s.toList.flatMap Print.stringChar ++ '"' :: rest) = .ok (s.toList, rest) :=
    stringBody_flatMap_stringChar s.toList rest
  rw [stringTail, run_bind_of_ok body, String.ofList_toList, run_pure]

end RuntimeLocator.Json
