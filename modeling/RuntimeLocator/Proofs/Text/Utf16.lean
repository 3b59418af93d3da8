/-
Decoding what was encoded: the units of a text stand for that text and for no other.

No unit of a character is taken for half of another character, because the characters
leave out the numbers of surrogates (`toNat_cases`). So decoding goes a character at a
time (`decodeChars_encodeChar_append`), whatever units follow. Texts without U+0000 have
no zero unit, which leaves the zero unit free to end them (`ne_zero_of_mem_encode`).

Units that no text has are decoded as well. The character that stands in for a damaged unit
takes one unit itself, so a text has as many units as it was decoded from (`units_decode`),
and no zero unit is made where there was none (`nul_not_mem_decode`).
-/

import RuntimeLocator.Text.Utf16

namespace RuntimeLocator.Utf16

/-- A character is below the surrogates or above them. -/
theorem toNat_cases (c : Char) :
    c.toNat < 0xD800 ∨ (0xDFFF < c.toNat ∧ c.toNat < 0x110000) :=
  c.valid

theorem not_surrogate {u : UInt16} (outside : u.toNat < 0xD800 ∨ 0xDFFF < u.toNat) :
    isLeading u = false ∧ isTrailing u = false := by
  simp only [isLeading, isTrailing, Bool.and_eq_false_iff, decide_eq_false_iff_not]
  omega

theorem isTrailing_of_isLeading {u : UInt16} (leading : isLeading u = true) :
    isTrailing u = false := by
  simp only [isLeading, Bool.and_eq_true, decide_eq_true_eq] at leading
  simp only [isTrailing, Bool.and_eq_false_iff, decide_eq_false_iff_not]
  omega

/-- The units that are no surrogates stand for one character each. -/
theorem decodeChars_cons_of_not_surrogate {u : UInt16} {us : List UInt16}
    (outside : u.toNat < 0xD800 ∨ 0xDFFF < u.toNat) :
    decodeChars (u :: us) = Char.ofNat u.toNat :: decodeChars us := by
  obtain ⟨leading, trailing⟩ := not_surrogate outside
  have single : unitChar u = Char.ofNat u.toNat := by simp [unitChar, leading, trailing]
  cases us with
  | nil => simp [decodeChars, single]
  | cons v rest => simp [decodeChars, leading, single]

theorem decodeChars_cons_of_pair {u v : UInt16} {us : List UInt16}
    (leading : isLeading u = true) (trailing : isTrailing v = true) :
    decodeChars (u :: v :: us) = pairChar u v :: decodeChars us := by
  simp [decodeChars, leading, trailing]

/-- Both halves of a surrogate pair are numbers of 16 bits. -/
theorem toNat_halves (c : Char) :
    (UInt16.ofNat (0xD800 + (c.toNat - 0x10000) / 0x400)).toNat =
        0xD800 + (c.toNat - 0x10000) / 0x400 ∧
      (UInt16.ofNat (0xDC00 + (c.toNat - 0x10000) % 0x400)).toNat =
        0xDC00 + (c.toNat - 0x10000) % 0x400 := by
  have range := toNat_cases c
  constructor
  · refine UInt16.toNat_ofNat_of_lt' ?_
    change _ < 0x10000
    omega
  · refine UInt16.toNat_ofNat_of_lt' ?_
    change _ < 0x10000
    omega

/-- A character is one unit that is no surrogate, or both halves of a pair. -/
theorem encodeChar_cases (c : Char) :
    (∃ u, encodeChar c = [u] ∧ (u.toNat < 0xD800 ∨ 0xDFFF < u.toNat) ∧ Char.ofNat u.toNat = c) ∨
      ∃ u v, encodeChar c = [u, v] ∧ isLeading u = true ∧ isTrailing v = true ∧
        pairChar u v = c := by
  have range := toNat_cases c
  unfold encodeChar
  split
  case isTrue narrow =>
    have unit : (UInt16.ofNat c.toNat).toNat = c.toNat := UInt16.toNat_ofNat_of_lt' narrow
    refine .inl ⟨_, rfl, ?_, ?_⟩
    · omega
    · rw [unit, Char.ofNat_toNat]
  case isFalse wide =>
    obtain ⟨high, low⟩ := toNat_halves c
    have whole : 0x10000 + (0xD800 + (c.toNat - 0x10000) / 0x400 - 0xD800) * 0x400 +
        (0xDC00 + (c.toNat - 0x10000) % 0x400 - 0xDC00) = c.toNat := by omega
    refine .inr ⟨_, _, rfl, ?_, ?_, ?_⟩
    · simp only [isLeading, high, Bool.and_eq_true, decide_eq_true_eq]
      omega
    · simp only [isTrailing, low, Bool.and_eq_true, decide_eq_true_eq]
      omega
    · rw [pairChar, high, low, whole, Char.ofNat_toNat]

/-- The units of a character are read back as this character, before any other units. -/
theorem decodeChars_encodeChar_append (c : Char) (us : List UInt16) :
    decodeChars (encodeChar c ++ us) = c :: decodeChars us := by
  rcases encodeChar_cases c with ⟨u, units, outside, single⟩ |
    ⟨u, v, units, leading, trailing, pair⟩
  · rw [units, List.singleton_append, decodeChars_cons_of_not_surrogate outside, single]
  · rw [units, List.cons_append, List.singleton_append,
      decodeChars_cons_of_pair leading trailing, pair]

/-- A text is read back from its units. -/
@[simp] theorem decode_encode (text : String) : decode (encode text) = text := by
  have chars : decodeChars (encode text) = text.toList := by
    unfold encode
    induction text.toList with
    | nil => rfl
    | cons c cs ih => rw [List.flatMap_cons, decodeChars_encodeChar_append, ih]
  rw [decode, chars, String.ofList_toList]

/-- Only U+0000 has a zero unit. -/
theorem ne_zero_of_mem_encodeChar {c : Char} (visible : c ≠ '\x00') :
    ∀ u ∈ encodeChar c, u ≠ 0 := by
  have range := toNat_cases c
  have positive : c.toNat ≠ 0 := fun zero => visible (Char.toNat_inj.mp zero)
  intro u mem zero
  subst zero
  unfold encodeChar at mem
  split at mem
  · rename_i narrow
    have unit := congrArg UInt16.toNat (List.mem_singleton.mp mem)
    rw [UInt16.toNat_ofNat_of_lt' narrow] at unit
    exact positive unit.symm
  · rename_i wide
    obtain ⟨high, low⟩ := toNat_halves c
    rcases List.mem_cons.mp mem with first | second
    · rw [← first, UInt16.toNat_zero] at high
      omega
    · rw [← List.mem_singleton.mp second, UInt16.toNat_zero] at low
      omega

theorem ne_zero_of_mem_encode {text : String} (visible : '\x00' ∉ text.toList) :
    ∀ u ∈ encode text, u ≠ 0 := by
  intro u mem
  obtain ⟨c, among, unit⟩ := List.mem_flatMap.mp mem
  refine ne_zero_of_mem_encodeChar ?_ u unit
  rintro rfl
  exact visible among

/-- Every character takes a unit. -/
theorem encode_ne_nil {text : String} (nonempty : text ≠ "") : encode text ≠ [] := by
  intro empty
  apply nonempty
  rw [← decode_encode text, empty]
  rfl

/-! ### Damaged units -/

theorem units_ofList (cs : List Char) :
    units (String.ofList cs) = cs.foldr (charUnits · + ·) 0 := by
  rw [units, String.toList_ofList]

theorem toNat_ofNat_of_valid {n : Nat} (valid : n.isValidChar) : (Char.ofNat n).toNat = n := by
  rw [Char.ofNat, dif_pos valid]
  rfl

/-- One unit by itself stands for a character of one unit: itself, or the character that
stands in for a surrogate. -/
theorem unitChar_cases (u : UInt16) :
    unitChar u = replacement ∨ (unitChar u).toNat = u.toNat := by
  unfold unitChar
  split
  · exact .inl rfl
  · rename_i single
    have bound : u.toNat < 0x10000 := u.toNat_lt
    have valid : u.toNat.isValidChar := by
      simp only [isLeading, isTrailing, Bool.or_eq_true, Bool.and_eq_true, decide_eq_true_eq,
        not_or, not_and] at single
      unfold Nat.isValidChar
      omega
    exact .inr (toNat_ofNat_of_valid valid)

theorem charUnits_unitChar (u : UInt16) : charUnits (unitChar u) = 1 := by
  rcases unitChar_cases u with damaged | same
  · rw [damaged]
    rfl
  · exact if_pos (same ▸ u.toNat_lt)

theorem unitChar_ne_nul {u : UInt16} (visible : u ≠ 0) : unitChar u ≠ '\x00' := by
  intro nul
  rcases unitChar_cases u with damaged | same
  · rw [damaged] at nul
    exact absurd nul (by decide)
  · rw [nul] at same
    exact visible (UInt16.toNat_inj.mp same.symm)

/-- The halves of a surrogate pair stand for a character above U+FFFF. -/
theorem toNat_pairChar {u v : UInt16} (leading : isLeading u = true)
    (trailing : isTrailing v = true) : 0x10000 ≤ (pairChar u v).toNat := by
  simp only [isLeading, Bool.and_eq_true, decide_eq_true_eq] at leading
  simp only [isTrailing, Bool.and_eq_true, decide_eq_true_eq] at trailing
  have valid :
      (0x10000 + (u.toNat - 0xD800) * 0x400 + (v.toNat - 0xDC00)).isValidChar := by
    unfold Nat.isValidChar
    omega
  rw [pairChar, toNat_ofNat_of_valid valid]
  omega

theorem charUnits_pairChar {u v : UInt16} (leading : isLeading u = true)
    (trailing : isTrailing v = true) : charUnits (pairChar u v) = 2 :=
  if_neg (Nat.not_lt.mpr (toNat_pairChar leading trailing))

theorem pairChar_ne_nul {u v : UInt16} (leading : isLeading u = true)
    (trailing : isTrailing v = true) : pairChar u v ≠ '\x00' := by
  intro nul
  have wide := toNat_pairChar leading trailing
  rw [nul] at wide
  exact absurd wide (by decide)

/-- A text has as many units as it was decoded from, however many of them are damaged. -/
@[simp] theorem units_decode (us : List UInt16) : units (decode us) = us.length := by
  rw [decode, units_ofList]
  fun_induction decodeChars us with
  | case1 => rfl
  | case2 u => rw [List.foldr_cons, charUnits_unitChar, List.foldr_nil, List.length_singleton]
  | case3 u v rest paired ih =>
    obtain ⟨leading, trailing⟩ := Bool.and_eq_true_iff.mp paired
    rw [List.foldr_cons, charUnits_pairChar leading trailing, ih, List.length_cons,
      List.length_cons]
    omega
  | case4 u v rest single ih =>
    rw [List.foldr_cons, charUnits_unitChar, ih]
    exact Nat.add_comm 1 _

/-- No character U+0000 comes from units that are not zero. -/
theorem nul_not_mem_decode {us : List UInt16} (visible : ∀ u ∈ us, u ≠ 0) :
    '\x00' ∉ (decode us).toList := by
  rw [decode, String.toList_ofList]
  fun_induction decodeChars us with
  | case1 => exact List.not_mem_nil
  | case2 u =>
    obtain ⟨first, -⟩ := List.forall_mem_cons.mp visible
    exact fun mem => unitChar_ne_nul first (List.mem_singleton.mp mem).symm
  | case3 u v rest paired ih =>
    obtain ⟨leading, trailing⟩ := Bool.and_eq_true_iff.mp paired
    have others := (List.forall_mem_cons.mp (List.forall_mem_cons.mp visible).2).2
    rw [List.mem_cons, not_or]
    exact ⟨fun nul => pairChar_ne_nul leading trailing nul.symm, ih others⟩
  | case4 u v rest single ih =>
    obtain ⟨first, others⟩ := List.forall_mem_cons.mp visible
    rw [List.mem_cons, not_or]
    exact ⟨fun nul => unitChar_ne_nul first nul.symm, ih others⟩

theorem decode_ne_empty {us : List UInt16} (nonempty : us ≠ []) : decode us ≠ "" := by
  intro empty
  have length := units_decode us
  rw [empty] at length
  exact nonempty (List.length_eq_zero_iff.mp length.symm)

end RuntimeLocator.Utf16
