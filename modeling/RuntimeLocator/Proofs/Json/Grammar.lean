/-
The grammar of JSON, and the readers of its strings and numbers.

A rule relates two texts: the first begins with what the rule describes, and the second is all
that follows it. A string may be written in many ways, each character by itself, behind a backslash
as a letter, or as escapes of its 16-bit units; where it is not decoded, an escaped unit may stand
alone. A number ends where the text does not go on with it. What the grammar derives as a string
denotes one text and is read as it (`run_stringTail_of_body`), and strings and numbers that nobody
asks for are passed over to their end (`run_skipString_of_passed`, `run_skipNumber_of_numeral`).
-/

import RuntimeLocator.Json.Skip
import RuntimeLocator.Proofs.Json.Number
import RuntimeLocator.Proofs.Json.Text

namespace RuntimeLocator.Json

open Reader (isSpace isPoint isExponentMark)

/-! ### Blank text -/

/-- Blank text, none perhaps, stands between any two tokens. -/
inductive Blanks : List Char → List Char → Prop
  | none {t : List Char} : Blanks t t
  | more {c : Char} {s t : List Char} (blank : isSpace c = true) (later : Blanks s t) :
      Blanks (c :: s) t

/-! ### Strings -/

/-- A hexadecimal digit, of either case. -/
def HexDigit (n : Nat) (c : Char) : Prop :=
  n < 16 ∧ (c = Nat.digitChar n ∨ c = (Nat.digitChar n).toUpper)

/-- Four hexadecimal digits are written for a unit. -/
inductive HexUnit (u : UInt16) : List Char → List Char → Prop
  | digits {a b c d : Char} {t : List Char} (first : HexDigit (u.toNat / 0x1000) a)
      (second : HexDigit (u.toNat / 0x100 % 0x10) b) (third : HexDigit (u.toNat / 0x10 % 0x10) c)
      (fourth : HexDigit (u.toNat % 0x10) d) : HexUnit u (a :: b :: c :: d :: t) t

/-- Units are written as escapes, one after the other. -/
inductive Escapes : List UInt16 → List Char → List Char → Prop
  | nil {t : List Char} : Escapes [] t t
  | cons {u : UInt16} {us : List UInt16} {s r t : List Char} (unit : HexUnit u s r)
      (later : Escapes us r t) : Escapes (u :: us) ('\\' :: 'u' :: s) t

/-- The ways to write a character in a string. -/
inductive Spells : Char → List Char → List Char → Prop
  | plain {c : Char} {t : List Char} (visible : 0x20 ≤ c.toNat) (quote : c ≠ '"')
      (backslash : c ≠ '\\') : Spells c (c :: t) t
  | letter {c e : Char} {t : List Char} (letter : shortEscape? e = some c) :
      Spells c ('\\' :: e :: t) t
  | units {c : Char} {s t : List Char} (escapes : Escapes (Utf16.encodeChar c) s t) : Spells c s t

/-- The characters of a string up to its closing quote. -/
inductive Body : List Char → List Char → List Char → Prop
  | closed {t : List Char} : Body [] ('"' :: t) t
  | next {c : Char} {cs s r t : List Char} (spells : Spells c s r) (later : Body cs r t) :
      Body (c :: cs) s t

/-- A string that denotes a text. -/
inductive Quotes (text : String) : List Char → List Char → Prop
  | quoted {s t : List Char} (body : Body text.toList s t) : Quotes text ('"' :: s) t

/-- The rest of a string that is not decoded: an escaped unit may be half of a character. -/
inductive PassedBody : List Char → List Char → Prop
  | closed {t : List Char} : PassedBody ('"' :: t) t
  | plain {c : Char} {s t : List Char} (visible : 0x20 ≤ c.toNat) (quote : c ≠ '"')
      (backslash : c ≠ '\\') (later : PassedBody s t) : PassedBody (c :: s) t
  | letter {c e : Char} {s t : List Char} (letter : shortEscape? e = some c)
      (later : PassedBody s t) : PassedBody ('\\' :: e :: s) t
  | unit {u : UInt16} {s r t : List Char} (unit : HexUnit u s r) (later : PassedBody r t) :
      PassedBody ('\\' :: 'u' :: s) t

/-! ### Numbers -/

/-- One digit or more. -/
inductive Digits : List Char → List Char → Prop
  | last {c : Char} {t : List Char} (digit : isDigit c = true) : Digits (c :: t) t
  | more {c : Char} {s t : List Char} (digit : isDigit c = true) (later : Digits s t) :
      Digits (c :: s) t

/-- The digits of a whole number: a leading zero stands alone. -/
inductive WholeDigits : List Char → List Char → Prop
  | zero {t : List Char} : WholeDigits ('0' :: t) t
  | positive {c : Char} {s t : List Char} (digits : Digits (c :: s) t) (leading : c ≠ '0') :
      WholeDigits (c :: s) t

inductive Minus : List Char → List Char → Prop
  | absent {t : List Char} : Minus t t
  | present {t : List Char} : Minus ('-' :: t) t

inductive Fraction : List Char → List Char → Prop
  | absent {t : List Char} : Fraction t t
  | present {s t : List Char} (digits : Digits s t) : Fraction ('.' :: s) t

inductive Sign : List Char → List Char → Prop
  | absent {t : List Char} : Sign t t
  | present {c : Char} {t : List Char} (sign : c = '+' ∨ c = '-') : Sign (c :: t) t

inductive Exponent : List Char → List Char → Prop
  | absent {t : List Char} : Exponent t t
  | present {c : Char} {s r t : List Char} (mark : c = 'e' ∨ c = 'E') (sign : Sign s r)
      (digits : Digits r t) : Exponent (c :: s) t

/-- A number of any size. -/
structure Numeral (s t : List Char) : Prop where
  parts : ∃ a b c, Minus s a ∧ WholeDigits a b ∧ Fraction b c ∧ Exponent c t
  ends : EndsNumber t

/-! ### Reading strings -/

theorem hexDigit?_of_hexDigit {n : Nat} {c : Char} (digit : HexDigit n c) :
    hexDigit? c = some n ∧ c.utf8Size = 1 := by
  have lower : ∀ n < 16, hexDigit? (Nat.digitChar n) = some n ∧ (Nat.digitChar n).utf8Size = 1 := by
    decide
  have upper : ∀ n < 16, hexDigit? (Nat.digitChar n).toUpper = some n ∧
      (Nat.digitChar n).toUpper.utf8Size = 1 := by decide
  obtain ⟨small, rfl | rfl⟩ := digit
  · exact lower n small
  · exact upper n small

section Strings

variable {u : UInt16} {c : Char} {cs s t : List Char}

/-- The digits of a unit are read as this unit, and the text behind them begins at the fifth
character. -/
theorem hexUnit_of_hexUnit (unit : HexUnit u s t) : hexUnit s = .ok u ∧ s.drop 4 = t := by
  obtain ⟨first, second, third, fourth⟩ := unit
  obtain ⟨readA, sizeA⟩ := hexDigit?_of_hexDigit first
  obtain ⟨readB, sizeB⟩ := hexDigit?_of_hexDigit second
  obtain ⟨readC, sizeC⟩ := hexDigit?_of_hexDigit third
  obtain ⟨readD, sizeD⟩ := hexDigit?_of_hexDigit fourth
  have sum : ((u.toNat / 0x1000 * 16 + u.toNat / 0x100 % 0x10) * 16 + u.toNat / 0x10 % 0x10) * 16 +
      u.toNat % 0x10 = u.toNat := by omega
  simp [hexUnit, readA, sizeA, readB, sizeB, readC, sizeC, readD, sizeD, sum]

/-- A character is read from the escapes of its units. -/
theorem unicodeEscape_of_escapes (escapes : Escapes (Utf16.encodeChar c) s t) :
    ∃ r length, s = '\\' :: 'u' :: r ∧ unicodeEscape r = .ok (c, length) ∧ r.drop length = t := by
  rcases Utf16.encodeChar_cases c with ⟨u, units, outside, single⟩ |
    ⟨u, v, units, leading, trailing, pair⟩
  case inl =>
    rw [units] at escapes
    cases escapes with
    | @cons _ _ first _ _ unit escapes =>
      cases escapes
      obtain ⟨read, behind⟩ := hexUnit_of_hexUnit unit
      obtain ⟨notLeading, notTrailing⟩ := Utf16.not_surrogate outside
      refine ⟨first, 4, rfl, ?_, behind⟩
      simp only [unicodeEscape, read, notLeading, notTrailing, single, Bool.false_eq_true, if_false]
  case inr =>
    rw [units] at escapes
    cases escapes with
    | @cons _ _ first _ _ high escapes =>
      cases escapes with
      | @cons _ _ second _ _ low escapes =>
        cases escapes
        obtain ⟨readHigh, next⟩ := hexUnit_of_hexUnit high
        obtain ⟨readLow, behind⟩ := hexUnit_of_hexUnit low
        have notTrailing := Utf16.isTrailing_of_isLeading leading
        refine ⟨first, 10, rfl, ?_, ?_⟩
        · simp only [unicodeEscape, readHigh, notTrailing, leading, next, readLow, trailing, pair,
            Bool.false_eq_true, if_false, if_true]
        · calc first.drop 10 = (first.drop 4).drop 6 := by rw [List.drop_drop]
            _ = second.drop 4 := by rw [next]; rfl
            _ = t := behind

/-- A character is read however it is written. -/
theorem stringBody_of_spells (spells : Spells c s t) : stringBody s = prepend c (stringBody t) := by
  cases spells with
  | plain visible quote backslash =>
    exact stringBody_plain quote backslash (Nat.not_lt.mpr visible) t
  | letter letter => exact stringBody_letter letter t
  | units escapes =>
    obtain ⟨r, length, rfl, read, rfl⟩ := unicodeEscape_of_escapes escapes
    rw [stringBody, read]

theorem stringBody_of_body (body : Body cs s t) : stringBody s = .ok (cs, t) := by
  induction body with
  | closed => rw [stringBody]
  | next spells later ih =>
    rw [stringBody_of_spells spells, ih]
    rfl

/-- A text is read from any string that denotes it. -/
theorem Reader.run_stringTail_of_body {text : String} (body : Body text.toList s t) :
    stringTail.run s = .ok (text, t) := by
  have read : (Reader.mk stringBody length_stringBody_le).run s = .ok (text.toList, t) :=
    stringBody_of_body body
  rw [stringTail, run_bind_of_ok read, String.ofList_toList, run_pure]

/-- What is printed for a character is one of the ways to write it. -/
theorem spells_stringChar (c : Char) (t : List Char) : Spells c (Print.stringChar c ++ t) t := by
  unfold Print.stringChar
  split
  case h_8 quote backslash _ _ _ _ _ =>
    split
    case isTrue control =>
      have unit : (UInt16.ofNat c.toNat).toNat = c.toNat :=
        UInt16.toNat_ofNat_of_lt' (Nat.lt_trans control (by decide))
      have single : Utf16.encodeChar c = [UInt16.ofNat c.toNat] :=
        if_pos (Nat.lt_trans control (by decide))
      have zero : HexDigit 0 '0' := ⟨by decide, .inl rfl⟩
      have digit {n : Nat} (small : n < 16) : HexDigit n (Print.hexDigit n) := ⟨small, .inl rfl⟩
      have high : c.toNat / 0x10 % 0x10 = c.toNat / 0x10 := by omega
      have spelled : HexUnit (UInt16.ofNat c.toNat)
          ('0' :: '0' :: Print.hexDigit (c.toNat / 0x10) :: Print.hexDigit (c.toNat % 0x10) :: t)
          t := by
        refine .digits ?_ ?_ ?_ ?_
        · rwa [unit, Nat.div_eq_of_lt (by omega)]
        · rwa [unit, Nat.div_eq_of_lt (by omega)]
        · rw [unit, high]
          exact digit (by omega)
        · rw [unit]
          exact digit (by omega)
      exact .units (single ▸ .cons spelled .nil)
    case isFalse visible => exact .plain (Nat.not_lt.mp visible) quote backslash
  all_goals exact .letter rfl

/-- A printed string denotes its text. -/
theorem quotes_string (text : String) (t : List Char) : Quotes text (Print.string text ++ t) t := by
  have body (cs : List Char) : Body cs (cs.flatMap Print.stringChar ++ '"' :: t) t := by
    induction cs with
    | nil => exact .closed
    | cons c cs ih =>
      rw [List.flatMap_cons, List.append_assoc]
      exact .next (spells_stringChar c _) ih
  have bracketed : Print.string text ++ t =
      '"' :: (text.toList.flatMap Print.stringChar ++ '"' :: t) := by simp [Print.string]
  rw [bracketed]
  exact .quoted (body text.toList)

/-- A string that is not decoded is passed over to its closing quote. -/
theorem Reader.run_skipString_of_passed (body : PassedBody s t) :
    skipString.run s = .ok ((), t) := by
  show skipBody s = .ok ((), t)
  induction body with
  | closed => rw [skipBody]
  | plain visible quote backslash later ih =>
    rw [skipBody]
    · rw [if_neg (Nat.not_lt.mpr visible), ih]
    · exact quote
    · exact fun same _ => backslash same
    · exact fun _ same _ => backslash same
    · exact fun _ _ same _ => backslash same
  | @letter c e s t letter later ih =>
    have noDigits : e ≠ 'u' := by
      rintro rfl
      cases letter
    rw [skipBody]
    · simp only [letter, ih]
    · exact noDigits
  | unit unit later ih =>
    obtain ⟨read, rfl⟩ := hexUnit_of_hexUnit unit
    rw [skipBody, read]
    exact ih

end Strings

/-! ### Reading numbers -/

theorem Digits.exists_append {s t : List Char} (digits : Digits s t) :
    ∃ c ds, s = c :: ds ++ t ∧ ∀ d ∈ c :: ds, isDigit d = true := by
  induction digits with
  | @last c t digit => exact ⟨c, [], rfl, List.forall_mem_singleton.mpr digit⟩
  | @more c s t digit later ih =>
    obtain ⟨d, ds, rfl, areDigits⟩ := ih
    exact ⟨c, d :: ds, rfl, List.forall_mem_cons.mpr ⟨digit, areDigits⟩⟩

theorem WholeDigits.exists_digit {s t : List Char} (whole : WholeDigits s t) :
    ∃ c r, s = c :: r ∧ isDigit c = true := by
  cases whole with
  | zero => exact ⟨'0', t, rfl, rfl⟩
  | positive digits =>
    obtain ⟨c, ds, same, areDigits⟩ := digits.exists_append
    exact ⟨c, ds ++ t, same, areDigits c List.mem_cons_self⟩

namespace Reader

section Numbers

variable {s r t : List Char}

theorem run_passes_of_present {isMark : Char → Bool} {c : Char} (mark : isMark c = true) :
    (passes isMark).run (c :: s) = .ok (true, s) := by
  rw [passes, run_bind_of_ok (run_peek _)]
  simp only [List.head?_cons, mark, if_true]
  rfl

theorem run_someDigits_of_digits (atEnd : Fault) (digits : Digits s t)
    (stops : ∀ c ∈ t.head?, isDigit c = false) :
    ∃ c ds, s = c :: ds ++ t ∧ (someDigits atEnd).run s = .ok (c :: ds, t) := by
  obtain ⟨c, ds, rfl, areDigits⟩ := digits.exists_append
  exact ⟨c, ds, rfl, run_someDigits atEnd (List.cons_ne_nil c ds) areDigits stops⟩

theorem run_wholeDigits_of_wholeDigits (atEnd : Fault) (whole : WholeDigits s t)
    (stops : ∀ c ∈ t.head?, isDigit c = false) :
    ∃ ds, (wholeDigits atEnd).run s = .ok (ds, t) := by
  cases whole with
  | zero =>
    have read : (someDigits atEnd).run ('0' :: t) = .ok (['0'], t) :=
      run_someDigits atEnd (List.cons_ne_nil _ _) (List.forall_mem_singleton.mpr rfl) stops
    exact ⟨['0'], run_bind_of_ok read⟩
  | positive digits leading =>
    obtain ⟨d, ds, same, read⟩ := run_someDigits_of_digits atEnd digits stops
    refine ⟨d :: ds, (run_bind_of_ok read).trans ?_⟩
    split
    case h_1 zero =>
      cases zero
      cases same
      exact absurd rfl leading
    case h_2 => rw [run_pure]

theorem run_sign_of_sign (sign : Sign s r) (digits : Digits r t) :
    ∃ negative, Reader.sign.run s = .ok (negative, r) := by
  cases sign with
  | absent =>
    obtain ⟨c, ds, rfl, areDigits⟩ := digits.exists_append
    have digit : isDigit c = true := areDigits c List.mem_cons_self
    refine ⟨false, ?_⟩
    rw [Reader.sign, run_bind_of_ok (run_peek _), List.cons_append, List.head?_cons]
    split
    case h_1 plus =>
      cases plus
      exact absurd digit (by decide)
    case h_2 minus =>
      cases minus
      exact absurd digit (by decide)
    case h_3 => rfl
  | present sign =>
    rcases sign with rfl | rfl
    · exact ⟨false, rfl⟩
    · exact ⟨true, rfl⟩

/-- What follows the digits of a fraction or, without one, the whole ones, up to the end of the
number. -/
theorem run_exponent_of_exponent (exponent : Exponent s t) (ends : EndsNumber t) :
    (do if ← passes isExponentMark then skipExponent : Reader Unit).run s = .ok ((), t) := by
  cases exponent with
  | absent =>
    have absent := run_passes_of_absent fun c next => (ends c next).2.2
    exact run_bind_of_ok absent
  | @present c _ _ _ mark sign digits =>
    have marks : isExponentMark c = true := by rcases mark with rfl | rfl <;> rfl
    obtain ⟨negative, readSign⟩ := run_sign_of_sign sign digits
    obtain ⟨d, ds, -, read⟩ := run_someDigits_of_digits (.malformed .invalidNumber) digits
      fun c next => (ends c next).1
    rw [run_bind_of_ok (run_passes_of_present marks), if_pos rfl, skipExponent,
      run_bind_of_ok readSign, run_bind_of_ok read, run_pure]

/-- Neither an exponent nor the end of a number goes on with digits or a point. -/
theorem head?_of_exponent (exponent : Exponent s t) (ends : EndsNumber t) :
    ∀ c ∈ s.head?, isDigit c = false ∧ isPoint c = false := by
  intro d first
  cases exponent with
  | absent => exact ⟨(ends d first).1, (ends d first).2.1⟩
  | present mark =>
    cases Option.mem_some_iff.mp first
    rcases mark with rfl | rfl
    · decide
    · decide

theorem head?_of_fraction (fraction : Fraction s r) (stops : ∀ c ∈ r.head?, isDigit c = false) :
    ∀ c ∈ s.head?, isDigit c = false := by
  cases fraction with
  | absent => exact stops
  | present =>
    intro d first
    cases Option.mem_some_iff.mp first
    decide

/-- A number that nobody asked for is passed over to its end. -/
theorem run_skipNumber_of_numeral (numeral : Numeral s t) : skipNumber.run s = .ok ((), t) := by
  obtain ⟨⟨a, b, c, minus, whole, fraction, exponent⟩, ends⟩ := numeral
  have stops := head?_of_exponent exponent ends
  obtain ⟨ds, readWhole⟩ := run_wholeDigits_of_wholeDigits (.malformed .invalidNumber) whole
    (head?_of_fraction fraction fun c next => (stops c next).1)
  have readMinus : ∃ negative, (passes (· == '-')).run s = .ok (negative, a) := by
    cases minus with
    | absent =>
      obtain ⟨d, r, rfl, digit⟩ := whole.exists_digit
      refine ⟨false, run_passes_of_absent fun e first => ?_⟩
      cases Option.mem_some_iff.mp first
      rw [beq_eq_false_iff_ne]
      rintro rfl
      exact absurd digit (by decide)
    | present => exact ⟨true, run_passes_of_present rfl⟩
  obtain ⟨negative, readMinus⟩ := readMinus
  rw [skipNumber, run_bind_of_ok readMinus, run_bind_of_ok readWhole]
  cases fraction with
  | absent =>
    have absent := run_passes_of_absent fun c next => (stops c next).2
    rw [run_bind_of_ok absent]
    exact run_exponent_of_exponent exponent ends
  | present digits =>
    obtain ⟨d, ds, -, read⟩ := run_someDigits_of_digits (.malformed .invalidNumber) digits
      fun c next => (stops c next).1
    rw [run_bind_of_ok (run_passes_of_present rfl)]
    refine (run_bind_of_ok read).trans ?_
    exact run_exponent_of_exponent exponent ends

end Numbers

end Reader

end RuntimeLocator.Json
