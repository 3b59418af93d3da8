/-
Decoding bytes of any shape.

A registry may hold bytes that nobody encoded: of odd length, with damaged units, with
terminators inside or none at the end, or too few of them for a number. `Decoded` lists what
can become of bytes under a code. Whatever it is, it keeps the code, and it is a value that its
own bytes stand for (`representable_of_decoded`), so encoding and decoding it again changes
nothing. Units are lost behind a terminator only, and bytes of numbers and of data never
(`ofNative_wellFormed`).
-/

import RuntimeLocator.Proofs.Registry.Native

namespace RuntimeLocator

/-! ### Numbers -/

theorem littleEndianNumber_cons (b : UInt8) (data : List UInt8) :
    littleEndianNumber (b :: data) = b.toNat + 256 * littleEndianNumber data := rfl

/-- So many bytes stand for a number of so many bytes. -/
theorem littleEndianNumber_lt (data : List UInt8) :
    littleEndianNumber data < 256 ^ data.length := by
  induction data with
  | nil => exact Nat.one_pos
  | cons b data ih =>
    have bound : b.toNat < 256 := b.toNat_lt
    rw [littleEndianNumber_cons, List.length_cons, pow_succ' 256 data.length]
    omega

/-- The bytes of a number are those that it was made of. -/
theorem littleEndianBytes_littleEndianNumber (data : List UInt8) :
    littleEndianBytes data.length (littleEndianNumber data) = data := by
  induction data with
  | nil => rfl
  | cons b data ih =>
    have bound : b.toNat < 256 := b.toNat_lt
    have rest : (b.toNat + 256 * littleEndianNumber data) / 256 = littleEndianNumber data := by
      omega
    have first : UInt8.ofNat (b.toNat + 256 * littleEndianNumber data) = b := by
      rw [← UInt8.toNat_inj, UInt8.toNat_ofNat']
      omega
    rw [littleEndianNumber_cons, List.length_cons, littleEndianBytes, rest, first, ih]

theorem native_dword {data : List UInt8} (width : data.length = 4) :
    (Value.dword (UInt32.ofNat (littleEndianNumber data))).native = data := by
  have bound := littleEndianNumber_lt data
  have bytes := littleEndianBytes_littleEndianNumber data
  rw [width] at bound bytes
  rw [Value.native, UInt32.toNat_ofNat_of_lt' bound, bytes]

theorem native_qword {data : List UInt8} (width : data.length = 8) :
    (Value.qword (UInt64.ofNat (littleEndianNumber data))).native = data := by
  have bound := littleEndianNumber_lt data
  have bytes := littleEndianBytes_littleEndianNumber data
  rw [width] at bound bytes
  rw [Value.native, UInt64.toNat_ofNat_of_lt' bound, bytes]

/-! ### Texts -/

/-- The units of a text that bytes are decoded to: those before the first terminator, or all of
them. -/
def textUnits (data : List UInt8) : List UInt16 :=
  (littleEndianUnits data).takeWhile (· ≠ 0)

theorem ne_zero_of_mem_textUnits {data : List UInt8} : ∀ u ∈ textUnits data, u ≠ 0 :=
  fun _ mem => by simpa using List.mem_takeWhile_imp mem

theorem nul_not_mem_nativeText (data : List UInt8) : '\x00' ∉ (Value.nativeText data).toList :=
  Utf16.nul_not_mem_decode ne_zero_of_mem_textUnits

theorem units_nativeText (data : List UInt8) :
    Utf16.units (Value.nativeText data) = (textUnits data).length :=
  Utf16.units_decode _

theorem textSize_nativeText (data : List UInt8) :
    textSize (Value.nativeText data) = 2 * (textUnits data).length + 2 := by
  rw [textSize, units_nativeText]
  omega

/-! ### Lists of texts -/

/-- No run between terminators has one inside. -/
theorem ne_zero_of_mem_splitAtTerminators {us run : List UInt16}
    (mem : run ∈ splitAtTerminators us) : ∀ u ∈ run, u ≠ 0 := by
  -- Each unit either begins a new run or, if it is no terminator, lengthens the first one.
  induction us generalizing run with
  | nil =>
    rw [List.mem_singleton.mp mem]
    exact fun u absent => nomatch absent
  | cons u us ih =>
    rw [splitAtTerminators] at mem
    split at mem
    · rw [List.mem_singleton.mp mem]
      exact fun u absent => nomatch absent
    · rename_i first runs split
      rw [split] at ih
      split at mem
      · rcases List.mem_cons.mp mem with rfl | among
        · exact fun u absent => nomatch absent
        · exact ih among
      · rename_i visible
        rcases List.mem_cons.mp mem with rfl | among
        · exact List.forall_mem_cons.mpr ⟨visible, ih List.mem_cons_self⟩
        · exact ih (List.mem_cons_of_mem _ among)

/-- The runs between terminators hold all other units. -/
theorem length_splitAtTerminators (us : List UInt16) :
    (splitAtTerminators us).foldr (·.length + ·) 0 = us.countP (· ≠ 0) := by
  induction us with
  | nil => rfl
  | cons u us ih =>
    by_cases terminator : u = 0
    · subst terminator
      rw [splitAtTerminators_cons_zero, List.foldr_cons, ih, List.countP_cons_of_neg (by simp)]
      exact Nat.zero_add _
    · rw [splitAtTerminators, List.countP_cons_of_pos (by simpa using terminator), ← ih]
      split
      · rename_i none
        exact absurd none (splitAtTerminators_ne_nil us)
      · rename_i first runs split
        rw [if_neg terminator, split, List.foldr_cons, List.foldr_cons, List.length_cons]
        omega

/-- The texts of a list that bytes are decoded to. -/
def listItems (data : List UInt8) : List String :=
  ((splitAtTerminators (littleEndianUnits data)).filter (!·.isEmpty)).map Utf16.decode

section Lists

variable {data : List UInt8}

/-- The items of a list are texts that a list can hold, whatever its bytes are. -/
theorem proper_of_mem_listItems {item : String} (mem : item ∈ listItems data) :
    item ≠ "" ∧ '\x00' ∉ item.toList := by
  obtain ⟨run, kept, rfl⟩ := List.mem_map.mp mem
  obtain ⟨among, nonempty⟩ := List.mem_filter.mp kept
  have proper : run ≠ [] := by simpa using nonempty
  exact ⟨Utf16.decode_ne_empty proper,
    Utf16.nul_not_mem_decode (ne_zero_of_mem_splitAtTerminators among)⟩

/-- The items have a unit for each unit that is no terminator. -/
theorem units_listItems (data : List UInt8) :
    (listItems data).foldr (Utf16.units · + ·) 0 = (littleEndianUnits data).countP (· ≠ 0) := by
  rw [listItems, List.foldr_map, ← length_splitAtTerminators]
  simp only [Utf16.units_decode]
  -- A run that is left out is empty, so it has no units to count.
  induction splitAtTerminators (littleEndianUnits data) with
  | nil => rfl
  | cons run runs ih =>
    cases run with
    | nil => simpa using ih
    | cons u us => simpa using ih

end Lists

/-! ### Values -/

/-- What becomes of bytes under the code of a kind. Only texts and lists have parts of the
bytes left out; numbers have the width of their kind, and all other data stays as it is, under
the code that it came with. -/
inductive Decoded (data : List UInt8) : UInt32 → Value → Prop where
  | string : Decoded data 1 (.string (Value.nativeText data))
  | expandString : Decoded data 2 (.expandString (Value.nativeText data))
  | binary : Decoded data 3 (.binary data)
  | dword (width : data.length = 4) :
      Decoded data 4 (.dword (UInt32.ofNat (littleEndianNumber data)))
  | multiString : Decoded data 7 (.multiString (listItems data))
  | qword (width : data.length = 8) :
      Decoded data 11 (.qword (UInt64.ofNat (littleEndianNumber data)))
  | raw {code : UInt32} (foreign : (Value.raw code data).Representable) :
      Decoded data code (.raw code data)

theorem decoded_ofNative (code : UInt32) (data : List UInt8) :
    Decoded data code (Value.ofNative (Kind.ofCode code) data) := by
  by_cases string : code = 1
  · subst string
    exact .string
  by_cases expandString : code = 2
  · subst expandString
    exact .expandString
  by_cases binary : code = 3
  · subst binary
    exact .binary
  by_cases multiString : code = 7
  · subst multiString
    exact .multiString
  have foreign : code ∉ [1, 2, 3, 7] := by
    simp [string, expandString, binary, multiString]
  by_cases dword : code = 4 ∧ data.length = 4
  · obtain ⟨rfl, width⟩ := dword
    have number : Value.ofNative (Kind.ofCode 4) data =
        .dword (UInt32.ofNat (littleEndianNumber data)) := if_pos width
    exact number ▸ .dword width
  by_cases qword : code = 11 ∧ data.length = 8
  · obtain ⟨rfl, width⟩ := qword
    have number : Value.ofNative (Kind.ofCode 11) data =
        .qword (UInt64.ofNat (littleEndianNumber data)) := if_pos width
    exact number ▸ .qword width
  have representable : (Value.raw code data).Representable := ⟨foreign, dword, qword⟩
  exact ofNative_raw representable ▸ .raw representable

section Decoded

variable {code : UInt32} {data : List UInt8} {value : Value}

theorem representable_of_decoded (decoded : Decoded data code value) : value.Representable := by
  cases decoded with
  | string => exact nul_not_mem_nativeText data
  | expandString => exact nul_not_mem_nativeText data
  | binary => trivial
  | dword width => trivial
  | multiString => exact fun item => proper_of_mem_listItems
  | qword width => trivial
  | raw foreign => exact foreign

theorem code_of_decoded (decoded : Decoded data code value) : value.kind.code = code := by
  cases decoded <;> rfl

/-- All that is no text and no list of texts keeps every byte. -/
theorem native_of_decoded (decoded : Decoded data code value)
    (noText : ∀ text, value ≠ .string text ∧ value ≠ .expandString text)
    (noList : ∀ items, value ≠ .multiString items) : value.native = data := by
  cases decoded with
  | string => exact absurd rfl (noText _).1
  | expandString => exact absurd rfl (noText _).2
  | binary => rfl
  | dword width => exact native_dword width
  | multiString => exact absurd rfl (noList _)
  | qword width => exact native_qword width
  | raw => rfl

theorem text_of_decoded {text : String} (decoded : Decoded data code value)
    (isText : value = .string text ∨ value = .expandString text) :
    text = Value.nativeText data := by
  rcases isText with rfl | rfl
  · cases decoded
    rfl
  · cases decoded
    rfl

theorem items_of_decoded {items : List String} (decoded : Decoded data code value)
    (isList : value = .multiString items) : items = listItems data := by
  subst isList
  cases decoded
  rfl

theorem code_of_decoded_raw {other : UInt32} {kept : List UInt8}
    (decoded : Decoded data code value) (isRaw : value = .raw other kept) :
    code ∉ [1, 2, 3, 7] ∧ ¬(code = 4 ∧ data.length = 4) ∧ ¬(code = 11 ∧ data.length = 8) := by
  subst isRaw
  cases decoded with
  | raw foreign => exact foreign

end Decoded

/-- **Bytes of any shape are decoded under the code that they came with.** A text has a unit for
each whole unit before the first terminator, damaged or not, and no terminator; the items of a
list are not empty and have none, and together a unit for each unit that is no terminator;
everything else keeps every byte, and is kept raw only where no kind of value takes it. Encoding
the value and decoding it again gives the same value. -/
theorem ofNative_wellFormed (code : UInt32) (data : List UInt8) :
    let value := Value.ofNative (Kind.ofCode code) data
    let units := (littleEndianUnits data).takeWhile (· ≠ 0)
    value.kind.code = code ∧
    (∀ text, value = .string text ∨ value = .expandString text →
      '\x00' ∉ text.toList ∧ Utf16.units text = units.length ∧
        value.storedSize = 2 * units.length + 2) ∧
    (∀ items, value = .multiString items →
      (∀ item ∈ items, item ≠ "" ∧ '\x00' ∉ item.toList) ∧
        items.foldr (Utf16.units · + ·) 0 = (littleEndianUnits data).countP (· ≠ 0)) ∧
    ((∀ text, value ≠ .string text ∧ value ≠ .expandString text) →
      (∀ items, value ≠ .multiString items) → value.native = data) ∧
    (∀ other kept, value = .raw other kept →
      code ∉ [1, 2, 3, 7] ∧ ¬(code = 4 ∧ data.length = 4) ∧ ¬(code = 11 ∧ data.length = 8)) ∧
    Value.ofNative (Kind.ofCode code) value.native = value := by
  intro value units
  have decoded : Decoded data code value := decoded_ofNative code data
  have kept : value.kind.code = code := code_of_decoded decoded
  have representable := representable_of_decoded decoded
  refine ⟨kept, ?texts, ?lists, native_of_decoded decoded,
    fun _ _ => code_of_decoded_raw decoded, ?again⟩
  case texts =>
    intro text isText
    have same := text_of_decoded decoded isText
    have size : value.storedSize = textSize text := by
      rcases isText with isString | isExpandString
      · rw [isString]
        rfl
      · rw [isExpandString]
        rfl
    rw [size, same]
    exact ⟨nul_not_mem_nativeText data, units_nativeText data, textSize_nativeText data⟩
  case lists =>
    intro items isList
    rw [items_of_decoded decoded isList]
    exact ⟨fun item => proper_of_mem_listItems, units_listItems data⟩
  case again =>
    have read := ofNative_native representable
    rwa [kept] at read

/-- Three halves of surrogate pairs that have lost the other one, beside a whole pair, before a
terminator and an odd byte; a list that begins with terminators and ends without one; and a
number of the wrong width. -/
theorem ofNative_wellFormed_damaged :
    let damaged : List UInt8 :=
      [0x61, 0, 0, 0xDC, 0x3D, 0xD8, 0x3D, 0xD8, 0, 0xDE, 0x3D, 0xD8, 0, 0, 0x62, 0, 0x63]
    let list : List UInt8 := [0, 0, 0x61, 0, 0, 0, 0, 0, 0, 0xDC]
    let narrow : List UInt8 := [1, 2, 3]
    (Value.ofNative (Kind.ofCode 2) damaged = .expandString "a��😀�" ∧
      '\x00' ∉ "a��😀�".toList ∧ Utf16.units "a��😀�" = 6 ∧
      (Value.ofNative (Kind.ofCode 2) damaged).storedSize = 14) ∧
    (Value.ofNative (Kind.ofCode 7) list = .multiString ["a", "�"] ∧
      (∀ item ∈ ["a", "�"], item ≠ "" ∧ '\x00' ∉ item.toList) ∧
      ["a", "�"].foldr (Utf16.units · + ·) 0 = (littleEndianUnits list).countP (· ≠ 0)) ∧
    Value.ofNative (Kind.ofCode 11) narrow = .raw 11 narrow ∧
    (Value.ofNative (Kind.ofCode 11) narrow).native = narrow ∧ narrow.length ≠ 8 := by
  intro damaged list narrow
  have text : Value.ofNative (Kind.ofCode 2) damaged = .expandString "a��😀�" := by decide
  have items : Value.ofNative (Kind.ofCode 7) list = .multiString ["a", "�"] := by decide
  have raw : Value.ofNative (Kind.ofCode 11) narrow = .raw 11 narrow := by decide
  have count : ((littleEndianUnits damaged).takeWhile (· ≠ 0)).length = 6 := by decide
  obtain ⟨-, texts, -⟩ := ofNative_wellFormed 2 damaged
  obtain ⟨visible, units, size⟩ := texts _ (.inr text)
  rw [count] at units size
  obtain ⟨-, -, -, whole, foreign, -⟩ := ofNative_wellFormed 11 narrow
  have bytes := whole (by simp [raw]) (by simp [raw])
  exact ⟨⟨text, visible, units, size⟩, ⟨items, (ofNative_wellFormed 7 list).2.2.1 _ items⟩, raw,
    bytes, fun width => (foreign _ _ raw).2.2 ⟨rfl, width⟩⟩

end RuntimeLocator
