/-
Values and the bytes that the registry holds for them.

`Value.native` writes the proper bytes of a value, and `Value.ofNative` reads bytes of any
shape under a kind. What was written is read back where the value is `Representable`: its
texts have no terminator inside and its lists no empty item, and data that is kept raw is
of no kind that would be decoded. A text needs its terminator only to say where it ends, so
it is read back before any other bytes, and without the terminator too.
-/

import Mathlib.Algebra.Ring.Nat
import Mathlib.Data.List.TakeWhile
import RuntimeLocator.Proofs.Text.Utf16
import RuntimeLocator.Registry.Value.Native

namespace RuntimeLocator

/-! ### Bytes and units -/

@[simp] theorem length_littleEndianBytes (count n : Nat) :
    (littleEndianBytes count n).length = count := by
  induction count generalizing n with
  | zero => rfl
  | succ count ih => rw [littleEndianBytes, List.length_cons, ih]

/-- So many bytes of a number stand for what is left of it in so many bytes. -/
theorem littleEndianNumber_littleEndianBytes (count n : Nat) :
    littleEndianNumber (littleEndianBytes count n) = n % 256 ^ count := by
  induction count generalizing n with
  | zero => rw [pow_zero, Nat.mod_one]; rfl
  | succ count ih =>
    have rest : littleEndianNumber (littleEndianBytes (count + 1) n) =
        (UInt8.ofNat n).toNat + 256 * littleEndianNumber (littleEndianBytes count (n / 256)) := rfl
    rw [rest, ih, UInt8.toNat_ofNat', pow_succ' 256 count, Nat.mod_mul]

@[simp] theorem length_unitBytes (us : List UInt16) : (unitBytes us).length = us.length * 2 := by
  induction us with
  | nil => rfl
  | cons u us ih =>
    rw [unitBytes, List.flatMap_cons, List.length_append, length_littleEndianBytes]
    rw [unitBytes] at ih
    rw [ih, List.length_cons]
    omega

/-- The units of some bytes are read back, before any other bytes. -/
theorem littleEndianUnits_unitBytes_append (us : List UInt16) (rest : List UInt8) :
    littleEndianUnits (unitBytes us ++ rest) = us ++ littleEndianUnits rest := by
  induction us with
  | nil => rfl
  | cons u us ih =>
    have unit : UInt16.ofNat ((UInt8.ofNat u.toNat).toNat +
        256 * (UInt8.ofNat (u.toNat / 256)).toNat) = u := by
      have bound : u.toNat < 65536 := u.toNat_lt
      have sum : u.toNat % 256 + 256 * (u.toNat / 256 % 256) = u.toNat := by omega
      rw [UInt8.toNat_ofNat', UInt8.toNat_ofNat', sum, UInt16.ofNat_toNat]
    have first : littleEndianUnits (unitBytes (u :: us) ++ rest) =
        UInt16.ofNat ((UInt8.ofNat u.toNat).toNat + 256 * (UInt8.ofNat (u.toNat / 256)).toNat) ::
          littleEndianUnits (unitBytes us ++ rest) := rfl
    rw [first, unit, ih, List.cons_append]

/-! ### Texts -/

/-- The units before a terminator, whatever follows it. -/
theorem takeWhile_terminated {us : List UInt16} (visible : ∀ u ∈ us, u ≠ 0)
    (rest : List UInt16) : (us ++ 0 :: rest).takeWhile (· ≠ 0) = us := by
  rw [List.takeWhile_append_of_pos (by simpa using visible)]
  simp

theorem takeWhile_unterminated {us : List UInt16} (visible : ∀ u ∈ us, u ≠ 0) :
    us.takeWhile (· ≠ 0) = us :=
  List.takeWhile_eq_self_iff.mpr (by simpa using visible)

section Texts

variable {text : String}

theorem littleEndianUnits_textBytes_append (text : String) (rest : List UInt8) :
    littleEndianUnits (textBytes text ++ rest) =
      Utf16.encode text ++ 0 :: littleEndianUnits rest := by
  rw [textBytes, littleEndianUnits_unitBytes_append, List.append_assoc, List.singleton_append]

/-- A text is read back up to its terminator, whatever bytes follow. -/
theorem nativeText_textBytes_append (visible : '\x00' ∉ text.toList) (rest : List UInt8) :
    Value.nativeText (textBytes text ++ rest) = text := by
  rw [Value.nativeText, littleEndianUnits_textBytes_append,
    takeWhile_terminated (Utf16.ne_zero_of_mem_encode visible), Utf16.decode_encode]

theorem nativeText_textBytes (visible : '\x00' ∉ text.toList) :
    Value.nativeText (textBytes text) = text := by
  have read := nativeText_textBytes_append visible []
  rwa [List.append_nil] at read

/-- A text whose terminator is missing is read back too. -/
theorem nativeText_unitBytes (visible : '\x00' ∉ text.toList) :
    Value.nativeText (unitBytes (Utf16.encode text)) = text := by
  have units : littleEndianUnits (unitBytes (Utf16.encode text)) = Utf16.encode text := by
    simpa [littleEndianUnits] using littleEndianUnits_unitBytes_append (Utf16.encode text) []
  rw [Value.nativeText, units, takeWhile_unterminated (Utf16.ne_zero_of_mem_encode visible),
    Utf16.decode_encode]

end Texts

/-! ### Lists of texts -/

theorem splitAtTerminators_ne_nil (us : List UInt16) : splitAtTerminators us ≠ [] := by
  cases us with
  | nil => exact List.cons_ne_nil _ _
  | cons u us =>
    rw [splitAtTerminators]
    split
    · exact List.cons_ne_nil _ _
    · split <;> exact List.cons_ne_nil _ _

theorem splitAtTerminators_cons_zero (us : List UInt16) :
    splitAtTerminators (0 :: us) = [] :: splitAtTerminators us := by
  rw [splitAtTerminators]
  split
  · rename_i none
    exact absurd none (splitAtTerminators_ne_nil us)
  · rename_i run runs split
    rw [if_pos rfl, split]

/-- A run without a terminator inside is split off at the terminator after it. -/
theorem splitAtTerminators_append {run : List UInt16} (visible : ∀ u ∈ run, u ≠ 0)
    (rest : List UInt16) :
    splitAtTerminators (run ++ 0 :: rest) = run :: splitAtTerminators rest := by
  induction run with
  | nil => exact splitAtTerminators_cons_zero rest
  | cons u us ih =>
    obtain ⟨first, others⟩ := List.forall_mem_cons.mp visible
    rw [List.cons_append, splitAtTerminators, ih others]
    exact if_neg first

/-- The runs of a list of texts are their units, and two empty ones where the list ends. -/
theorem splitAtTerminators_flatMap {items : List String}
    (visible : ∀ item ∈ items, '\x00' ∉ item.toList) (rest : List UInt16) :
    splitAtTerminators (items.flatMap (fun item => Utf16.encode item ++ [0]) ++ rest) =
      items.map Utf16.encode ++ splitAtTerminators rest := by
  induction items with
  | nil => rfl
  | cons item items ih =>
    obtain ⟨first, others⟩ := List.forall_mem_cons.mp visible
    rw [List.flatMap_cons, List.append_assoc, List.append_assoc, List.singleton_append,
      splitAtTerminators_append (Utf16.ne_zero_of_mem_encode first), ih others]
    rfl

theorem flatMap_textBytes (items : List String) :
    items.flatMap textBytes =
      unitBytes (items.flatMap fun item => Utf16.encode item ++ [0]) := by
  rw [unitBytes, List.flatMap_assoc]
  rfl

/-- A list of texts is read back item by item. -/
theorem ofNative_multiString {items : List String}
    (proper : ∀ item ∈ items, item ≠ "" ∧ '\x00' ∉ item.toList) :
    Value.ofNative .multiString (Value.multiString items).native = .multiString items := by
  have visible : ∀ item ∈ items, '\x00' ∉ item.toList := fun item mem => (proper item mem).2
  have units : littleEndianUnits (Value.multiString items).native =
      items.flatMap (fun item => Utf16.encode item ++ [0]) ++ [0] := by
    rw [Value.native, flatMap_textBytes, littleEndianUnits_unitBytes_append]
    rfl
  have runs : splitAtTerminators (littleEndianUnits (Value.multiString items).native) =
      items.map Utf16.encode ++ [[], []] := by
    rw [units, splitAtTerminators_flatMap visible]
    rfl
  have kept : (items.map Utf16.encode).filter (!·.isEmpty) = items.map Utf16.encode := by
    rw [List.filter_eq_self]
    intro run mem
    obtain ⟨item, among, rfl⟩ := List.mem_map.mp mem
    simpa using Utf16.encode_ne_nil (proper item among).1
  have decoded : (items.map Utf16.encode).map Utf16.decode = items := by
    rw [List.map_map]
    exact List.map_id'' Utf16.decode_encode items
  simp only [Value.ofNative, runs, List.filter_append, kept]
  simp [decoded]

/-! ### Values -/

/-- The values that their native bytes stand for. -/
def Value.Representable : Value → Prop
  | .string text | .expandString text => '\x00' ∉ text.toList
  | .multiString items => ∀ item ∈ items, item ≠ "" ∧ '\x00' ∉ item.toList
  | .dword _ | .qword _ | .binary _ => True
  | .raw code data =>
    code ∉ [1, 2, 3, 7] ∧ ¬(code = 4 ∧ data.length = 4) ∧ ¬(code = 11 ∧ data.length = 8)

instance : DecidablePred Value.Representable
  | .string text | .expandString text => inferInstanceAs (Decidable ('\x00' ∉ text.toList))
  | .multiString items =>
    inferInstanceAs (Decidable (∀ item ∈ items, item ≠ "" ∧ '\x00' ∉ item.toList))
  | .dword _ | .qword _ | .binary _ => inferInstanceAs (Decidable True)
  | .raw code data =>
    inferInstanceAs (Decidable
      (code ∉ [1, 2, 3, 7] ∧ ¬(code = 4 ∧ data.length = 4) ∧ ¬(code = 11 ∧ data.length = 8)))

theorem length_textBytes (text : String) : (textBytes text).length = textSize text := by
  rw [textBytes, length_unitBytes, List.length_append, Utf16.length_encode]
  rfl

/-- The size that a value is counted with is the number of its native bytes. -/
theorem length_native (value : Value) : value.native.length = value.storedSize := by
  cases value with
  | string text => exact length_textBytes text
  | expandString text => exact length_textBytes text
  | multiString items =>
    simp only [Value.native, Value.storedSize, List.length_append]
    induction items with
    | nil => rfl
    | cons item items ih =>
      rw [List.flatMap_cons, List.length_append, length_textBytes, Nat.add_assoc, ih,
        List.foldr_cons]
  | dword n => exact length_littleEndianBytes 4 n.toNat
  | qword n => exact length_littleEndianBytes 8 n.toNat
  | binary data => rfl
  | raw code data => rfl

theorem ofNative_dword (n : UInt32) :
    Value.ofNative .dword (Value.dword n).native = .dword n := by
  have number : littleEndianNumber (littleEndianBytes 4 n.toNat) = n.toNat := by
    rw [littleEndianNumber_littleEndianBytes]
    exact Nat.mod_eq_of_lt n.toNat_lt
  rw [Value.ofNative, Value.native, length_littleEndianBytes, if_pos rfl, number,
    UInt32.ofNat_toNat]

theorem ofNative_qword (n : UInt64) :
    Value.ofNative .qword (Value.qword n).native = .qword n := by
  have number : littleEndianNumber (littleEndianBytes 8 n.toNat) = n.toNat := by
    rw [littleEndianNumber_littleEndianBytes]
    exact Nat.mod_eq_of_lt n.toNat_lt
  rw [Value.ofNative, Value.native, length_littleEndianBytes, if_pos rfl, number,
    UInt64.ofNat_toNat]

/-- Raw data stays raw under its own code, unless this is the code of a kind that takes it. -/
theorem ofNative_raw {code : UInt32} {data : List UInt8}
    (representable : (Value.raw code data).Representable) :
    Value.ofNative (Kind.ofCode code) data = .raw code data := by
  obtain ⟨foreign, noDword, noQword⟩ := representable
  simp only [List.mem_cons, List.not_mem_nil, or_false, not_or] at foreign
  obtain ⟨notString, notExpand, notBinary, notMulti⟩ := foreign
  rw [Kind.ofCode, if_neg notString, if_neg notExpand, if_neg notBinary]
  by_cases dword : code = 4
  · subst dword
    rw [if_pos rfl, Value.ofNative, if_neg fun width => noDword ⟨rfl, width⟩]
    rfl
  · rw [if_neg dword, if_neg notMulti]
    by_cases qword : code = 11
    · subst qword
      rw [if_pos rfl, Value.ofNative, if_neg fun width => noQword ⟨rfl, width⟩]
      rfl
    · rw [if_neg qword, Value.ofNative]

/-- What was written is read back under the code of its kind. -/
theorem ofNative_native {value : Value} (representable : value.Representable) :
    Value.ofNative (Kind.ofCode value.kind.code) value.native = value := by
  cases value with
  | string text => exact congrArg Value.string (nativeText_textBytes representable)
  | expandString text => exact congrArg Value.expandString (nativeText_textBytes representable)
  | multiString items => exact ofNative_multiString representable
  | dword n => exact ofNative_dword n
  | qword n => exact ofNative_qword n
  | binary data => rfl
  | raw code data => exact ofNative_raw representable

/-- **Decoding undoes the native encoding, whose length is the stored size.** A text is read
back before any other bytes as well, and without its terminator. -/
theorem native_codec (value : Value) (representable : value.Representable) :
    value.native.length = value.storedSize ∧
    Value.ofNative (Kind.ofCode value.kind.code) value.native = value ∧
    ∀ text : String, value = .string text ∨ value = .expandString text →
      (∀ rest : List UInt8,
        Value.ofNative (Kind.ofCode value.kind.code) (value.native ++ rest) = value) ∧
      Value.ofNative (Kind.ofCode value.kind.code) (unitBytes (Utf16.encode text)) = value := by
  refine ⟨length_native value, ofNative_native representable, ?_⟩
  rintro text (rfl | rfl)
  · exact ⟨fun rest => congrArg Value.string (nativeText_textBytes_append representable rest),
      congrArg Value.string (nativeText_unitBytes representable)⟩
  · exact ⟨fun rest => congrArg Value.expandString (nativeText_textBytes_append representable rest),
      congrArg Value.expandString (nativeText_unitBytes representable)⟩

/-- A text with a character of two units, before bytes that end in the middle of a unit, and
data of the wrong width for the kind of its code. -/
theorem native_codec_pair :
    let text : Value := .string "a😀"
    let narrow : Value := .raw 4 [1, 2]
    (text.Representable ∧ text.native = [0x61, 0, 0x3D, 0xD8, 0, 0xDE, 0, 0] ∧
      text.native.length = text.storedSize ∧
      Value.ofNative .string (text.native ++ [0x62, 0, 0x63]) = text ∧
      Value.ofNative .string [0x61, 0, 0x3D, 0xD8, 0, 0xDE] = text) ∧
    narrow.Representable ∧ Value.ofNative .dword [1, 2] = narrow := by
  intro text narrow
  have representable : text.Representable := by decide
  have wrongWidth : narrow.Representable := by decide
  obtain ⟨size, -, read⟩ := native_codec text representable
  obtain ⟨followed, unended⟩ := read "a😀" (.inl rfl)
  exact ⟨⟨representable, by decide, size, followed _, unended⟩, wrongWidth,
    (native_codec narrow wrongWidth).2.1⟩

end RuntimeLocator
