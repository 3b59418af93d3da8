/-
Natural numbers that were printed are read back.

The digits of a number end where something else begins, so a number is read back only
before a rest that does not go on with it (`EndsNumber`). While the number fits 64 bits no
digit is dropped (`foldl_push_toDigits`), and only zero begins with the digit zero
(`head?_toDigits_ne_zero`), so nothing that was printed is refused.
-/

import Mathlib.Data.List.Basic
import RuntimeLocator.Json.Number

namespace RuntimeLocator.Json

open Reader (isPoint isExponentMark)

/-- The text after a number does not go on with it: it is empty, or it begins with no
digit, no point and no mark of an exponent. -/
def EndsNumber (rest : List Char) : Prop :=
  ∀ c ∈ rest.head?, isDigit c = false ∧ isPoint c = false ∧ isExponentMark c = false

theorem endsNumber_nil : EndsNumber [] := nofun

/-! ### Digits -/

theorem isDigit_eq (c : Char) : isDigit c = c.isDigit := by
  simp only [isDigit, Char.isDigit, Char.le_def, ge_iff_le]

theorem isSpace_of_isDigit {c : Char} (digit : isDigit c = true) : Reader.isSpace c = false := by
  simp only [Reader.isSpace, Bool.or_eq_false_iff, beq_eq_false_iff_ne]
  refine ⟨⟨⟨?_, ?_⟩, ?_⟩, ?_⟩ <;> (rintro rfl; exact absurd digit (by decide))

theorem isDigit_of_mem_toDigits {n : Nat} {c : Char} (mem : c ∈ Nat.toDigits 10 n) :
    isDigit c = true := by
  rw [isDigit_eq]
  exact Nat.isDigit_of_mem_toDigits (by decide) (by decide) mem

/-- Only zero begins with the digit zero. -/
theorem head?_toDigits_ne_zero {n : Nat} (positive : 0 < n) :
    (Nat.toDigits 10 n).head? ≠ some '0' := by
  induction n using Nat.strongRecOn with
  | ind n ih =>
    rw [Nat.toDigits_eq_if (by decide)]
    split
    · rw [List.head?_cons, Ne, Option.some.injEq, Nat.digitChar_eq_zero]
      exact Nat.ne_of_gt positive
    · rw [List.head?_append_of_ne_nil _ Nat.toDigits_ne_nil]
      exact ih (n / 10) (by omega) (by omega)

/-- A number that fits 64 bits is gathered from its digits, and none of them is dropped. -/
theorem foldl_push_toDigits {n : Nat} (fits : n < UInt64.size) :
    (Nat.toDigits 10 n).foldl Gathered.push ⟨0, 0⟩ = ⟨n, 0⟩ := by
  induction n using Nat.strongRecOn with
  | ind n ih =>
    have value {d : Nat} (digit : d < 10) : digitValue d.digitChar = d := by
      rw [digitValue, Nat.toNat_digitChar_of_lt_ten digit]
      omega
    rw [Nat.toDigits_eq_if (by decide)]
    split
    · rename_i single
      simp [Gathered.push, value single, fits]
    · rename_i several
      have last : n / 10 * 10 + n % 10 = n := by omega
      rw [List.foldl_append, ih (n / 10) (by omega) (by omega)]
      simp [Gathered.push, value (Nat.mod_lt n (by decide)), last, fits]

namespace Reader

/-! ### The stages of a number -/

/-- A mark that does not come next is not passed. -/
theorem run_passes_of_absent {isMark : Char → Bool} {s : List Char}
    (absent : ∀ c ∈ s.head?, isMark c = false) : (passes isMark).run s = .ok (false, s) := by
  cases s with
  | nil => rfl
  | cons c s =>
    have other : isMark c = false := absent c rfl
    rw [passes, run_bind_of_ok (run_peek _)]
    simp [other]

theorem run_someDigits {ds rest : List Char} (atEnd : Fault) (nonempty : ds ≠ [])
    (areDigits : ∀ c ∈ ds, isDigit c = true) (stops : ∀ c ∈ rest.head?, isDigit c = false) :
    (someDigits atEnd).run (ds ++ rest) = .ok (ds, rest) := by
  have stops : rest.takeWhile isDigit = [] ∧ rest.dropWhile isDigit = rest := by
    cases rest with
    | nil => exact ⟨rfl, rfl⟩
    | cons c rest =>
      have other := stops c rfl
      simp [other]
  have read : digits.run (ds ++ rest) = .ok (ds, rest) := by
    simp only [digits]
    rw [List.takeWhile_append_of_pos areDigits, List.dropWhile_append_of_pos areDigits, stops.1,
      stops.2, List.append_nil]
  cases ds with
  | nil => exact absurd rfl nonempty
  | cons d ds => rw [someDigits, run_bind_of_ok read, run_pure]

theorem run_wholeDigits {n : Nat} {rest : List Char} (atEnd : Fault) (ends : EndsNumber rest) :
    (wholeDigits atEnd).run (Nat.toDigits 10 n ++ rest) = .ok (Nat.toDigits 10 n, rest) := by
  have read : (someDigits atEnd).run (Nat.toDigits 10 n ++ rest) =
      .ok (Nat.toDigits 10 n, rest) :=
    run_someDigits atEnd Nat.toDigits_ne_nil (fun _ => isDigit_of_mem_toDigits)
      fun c next => (ends c next).1
  rw [wholeDigits, run_bind_of_ok read]
  split
  · rename_i c cs leading
    rcases Nat.eq_zero_or_pos n with rfl | positive
    · rw [Nat.toDigits_zero] at leading
      cases leading
    · exact absurd (by rw [leading]; rfl) (head?_toDigits_ne_zero positive)
  · rw [run_pure]

/-- A natural number that fits 64 bits is read back from its digits. -/
theorem run_number_toDigits {n : Nat} {rest : List Char} (fits : n < UInt64.size)
    (ends : EndsNumber rest) :
    number.run (Nat.toDigits 10 n ++ rest) = .ok (.natural n, rest) := by
  have unsigned : (passes (· == '-')).run (Nat.toDigits 10 n ++ rest) =
      .ok (false, Nat.toDigits 10 n ++ rest) := by
    refine run_passes_of_absent fun c first => ?_
    rw [List.head?_append_of_ne_nil _ Nat.toDigits_ne_nil] at first
    have digit := isDigit_of_mem_toDigits (List.mem_of_head? first)
    rw [beq_eq_false_iff_ne]
    rintro rfl
    exact absurd digit (by decide)
  have noPoint : (passes isPoint).run rest = .ok (false, rest) :=
    run_passes_of_absent fun c next => (ends c next).2.1
  have noExponent : (passes isExponentMark).run rest = .ok (false, rest) :=
    run_passes_of_absent fun c next => (ends c next).2.2
  rw [number, run_bind_of_ok unsigned, run_bind_of_ok (run_wholeDigits _ ends),
    foldl_push_toDigits fits, run_bind_of_ok noPoint, if_neg Bool.false_ne_true,
    run_bind_of_ok noExponent, if_neg Bool.false_ne_true]
  rfl

end Reader

end RuntimeLocator.Json
