/-
Lower-casing: what it leaves, and what it does not look at.

A lower-case text has no capitals (`isCapital_of_mem_lowerAfter`), so lower-casing it again
changes nothing (`lower_lower`). The case of the letters A to Z makes no difference
(`lower_eq_of_map_toLower_eq`), not even to the final sigma, whose rule asks for letters with
case and not for capitals. A backslash cuts a text in two whose lower cases do not depend on
each other (`lowerAfter_append_backslash`).

That no lower-case letter is a capital is a fact of the table, decided there run against run.
-/

import RuntimeLocator.Text.LowerCase

namespace RuntimeLocator.LowerCase

/-! ### Runs of capitals -/

namespace CaseRun

variable {run other : CaseRun} {n : Nat}

/-- The lower-case letters of a run, in order. -/
def letters (run : CaseRun) : List Nat :=
  (List.range ((run.last - run.first) / run.stride + 1)).map (run.target + run.stride * ·)

/-- An upper bound of the lower-case letters of a run. -/
def lastLetter (run : CaseRun) : Nat :=
  run.target + (run.last - run.first)

/-- Whether no lower-case letter of a run lies in another. Most runs are far apart; the
letters are looked at one by one only where they are not. -/
def misses (run other : CaseRun) : Bool :=
  Nat.blt run.lastLetter other.first || Nat.blt other.last run.target ||
    run.letters.all (!other.holds ·)

theorem holds_iff :
    run.holds n = true ↔ run.first ≤ n ∧ n ≤ run.last ∧ (n - run.first) % run.stride = 0 := by
  simp [holds, and_assoc]

theorem letter_mem_letters (holds : run.holds n = true) :
    run.target + (n - run.first) ∈ run.letters := by
  obtain ⟨-, notAfter, inStep⟩ := holds_iff.mp holds
  have steps : run.stride * ((n - run.first) / run.stride) = n - run.first :=
    Nat.mul_div_cancel' (Nat.dvd_of_mod_eq_zero inStep)
  have bound : (n - run.first) / run.stride ≤ (run.last - run.first) / run.stride :=
    Nat.div_le_div_right (Nat.sub_le_sub_right notAfter _)
  exact List.mem_map.mpr
    ⟨_, List.mem_range.mpr (Nat.lt_succ_of_le bound), congrArg (run.target + ·) steps⟩

theorem letter_le_lastLetter (holds : run.holds n = true) :
    run.target + (n - run.first) ≤ run.lastLetter :=
  Nat.add_le_add_left (Nat.sub_le_sub_right (holds_iff.mp holds).2.1 _) _

theorem not_holds_letter (misses : run.misses other = true) (holds : run.holds n = true) :
    other.holds (run.target + (n - run.first)) = false := by
  have last := letter_le_lastLetter holds
  simp only [CaseRun.misses, Bool.or_eq_true, Nat.blt_eq, List.all_eq_true] at misses
  rcases misses with (before | after) | apart
  · refine Bool.eq_false_iff.mpr fun inside => ?_
    have := (holds_iff.mp inside).1
    omega
  · refine Bool.eq_false_iff.mpr fun inside => ?_
    have := (holds_iff.mp inside).2.1
    omega
  · simpa using apart _ (letter_mem_letters holds)

end CaseRun

/-- No lower-case letter of any run lies in a run. -/
theorem misses_of_mem {run other : CaseRun} (runs : run ∈ caseRuns) (others : other ∈ caseRuns) :
    run.misses other = true := by
  have apart : caseRuns.all (fun run => caseRuns.all run.misses) = true := by decide +kernel
  exact List.all_eq_true.mp (List.all_eq_true.mp apart run runs) other others

/-- The lower-case letters of a run stand behind all signs before `a`, U+0130 is none of them,
and all are characters. -/
theorem bounds_of_mem : ∀ run ∈ caseRuns,
    0x60 < run.target ∧ (run.lastLetter < 0x130 ∨ 0x130 < run.target) ∧
      (run.lastLetter < 0xD800 ∨ 0xDFFF < run.target ∧ run.lastLetter < 0x110000) := by
  decide +kernel

/-! ### Code points -/

/-- Whether some run holds a code point. -/
def isHeld (n : Nat) : Bool :=
  caseRuns.any (·.holds n)

/-- A code point stays, or it becomes the letter in its place of the run that holds it. -/
theorem lowerCode_cases (n : Nat) :
    (isHeld n = false ∧ lowerCode n = n) ∨
      ∃ run ∈ caseRuns, run.holds n = true ∧ lowerCode n = run.target + (n - run.first) := by
  unfold lowerCode
  cases found : caseRuns.find? (·.holds n) with
  | none => exact .inl ⟨by simpa [isHeld] using List.find?_eq_none.mp found, rfl⟩
  | some run =>
    have holds : run.holds n = true := by simpa using List.find?_some found
    exact .inr ⟨run, List.mem_of_find?_eq_some found, holds, rfl⟩

theorem lowerCode_of_not_held {n : Nat} (free : isHeld n = false) : lowerCode n = n := by
  rcases lowerCode_cases n with ⟨-, same⟩ | ⟨run, mem, holds, -⟩
  · exact same
  · have held : isHeld n = true := List.any_eq_true.mpr ⟨run, mem, holds⟩
    rw [held] at free
    cases free

theorem isHeld_lowerCode (n : Nat) : isHeld (lowerCode n) = false := by
  rcases lowerCode_cases n with ⟨free, same⟩ | ⟨run, mem, holds, lower⟩
  · rw [same]
    exact free
  · rw [lower, isHeld, List.any_eq_false]
    intro other others
    rw [CaseRun.not_holds_letter (misses_of_mem mem others) holds]
    exact Bool.false_ne_true

theorem isValidChar_lowerCode {n : Nat} (valid : n.isValidChar) : (lowerCode n).isValidChar := by
  rcases lowerCode_cases n with ⟨-, same⟩ | ⟨run, mem, holds, lower⟩
  · rw [same]
    exact valid
  · have last := CaseRun.letter_le_lastLetter holds
    obtain ⟨-, -, range⟩ := bounds_of_mem run mem
    rw [lower, Nat.isValidChar]
    omega

/-- The signs before `a` and U+0130 are the lower case of nothing but themselves. -/
theorem eq_of_lowerCode_eq {n m : Nat} (apart : m ≤ 0x60 ∨ m = 0x130)
    (lower : lowerCode n = m) : n = m := by
  rcases lowerCode_cases n with ⟨-, same⟩ | ⟨run, mem, holds, letter⟩
  · exact same.symm.trans lower
  · have last := CaseRun.letter_le_lastLetter holds
    obtain ⟨first, dotted, -⟩ := bounds_of_mem run mem
    omega

/-! ### Characters -/

/-- Whether a character is one that lower-casing takes away. -/
def isCapital (c : Char) : Bool :=
  c == '\u0130' || isHeld c.toNat

theorem toNat_ofNat_lowerCode (c : Char) :
    (Char.ofNat (lowerCode c.toNat)).toNat = lowerCode c.toNat := by
  have valid : (lowerCode c.toNat).isValidChar := isValidChar_lowerCode c.valid
  rw [Char.ofNat, dif_pos valid]
  rfl

theorem lowerChar_of_not_capital {c : Char} (small : isCapital c = false) : lowerChar c = [c] := by
  obtain ⟨undotted, free⟩ := Bool.or_eq_false_iff.mp small
  rw [lowerChar, if_neg (by simpa using undotted), lowerCode_of_not_held free, Char.ofNat_toNat]

theorem lowerChar_ne_nil (c : Char) : lowerChar c ≠ [] := by
  unfold lowerChar
  split <;> exact List.cons_ne_nil _ _

/-- The lower case of a character has no capital, and a backslash in it was one before. -/
theorem small_of_mem_lowerChar {c d : Char} (mem : d ∈ lowerChar c) :
    isCapital d = false ∧ (d = '\\' → c = '\\') := by
  unfold lowerChar at mem
  split at mem
  · rcases List.mem_cons.mp mem with rfl | mem
    · exact ⟨by decide +kernel, fun same => absurd same (by decide)⟩
    · obtain rfl := List.mem_singleton.mp mem
      exact ⟨by decide +kernel, fun same => absurd same (by decide)⟩
  · rename_i undotted
    have code : d.toNat = lowerCode c.toNat := by
      rw [List.mem_singleton.mp mem, toNat_ofNat_lowerCode]
    have unchanged {e : Char} (apart : e.toNat ≤ 0x60 ∨ e.toNat = 0x130) (same : d = e) :
        c = e :=
      Char.toNat_inj.mp (eq_of_lowerCode_eq apart (code.symm.trans (congrArg Char.toNat same)))
    refine ⟨Bool.or_eq_false_iff.mpr ⟨?_, ?_⟩, unchanged (.inl (by decide))⟩
    · simpa using fun same => undotted (unchanged (.inr rfl) same)
    · rw [code]
      exact isHeld_lowerCode _

/-! ### Characters in a text -/

/-- The lower case of one character of a text. -/
def lowerWithin (before : List Char) (c : Char) (after : List Char) : List Char :=
  if c = 'Σ' then [lowerSigma before after] else lowerChar c

theorem lowerAfter_cons (before : List Char) (c : Char) (after : List Char) :
    lowerAfter before (c :: after) = lowerWithin before c after ++ lowerAfter (c :: before) after :=
  rfl

section Within

variable {before after : List Char} {c d : Char}

theorem lowerWithin_ne_nil : lowerWithin before c after ≠ [] := by
  unfold lowerWithin
  split
  · exact List.cons_ne_nil _ _
  · exact lowerChar_ne_nil c

theorem lowerWithin_of_not_capital (small : isCapital c = false) :
    lowerWithin before c after = [c] := by
  have other : c ≠ 'Σ' := by
    rintro rfl
    exact absurd small (by decide +kernel)
  rw [lowerWithin, if_neg other, lowerChar_of_not_capital small]

theorem small_of_mem_lowerWithin (mem : d ∈ lowerWithin before c after) :
    isCapital d = false ∧ (d = '\\' → c = '\\') := by
  unfold lowerWithin at mem
  split at mem
  · obtain rfl := List.mem_singleton.mp mem
    unfold lowerSigma
    split
    · exact ⟨by decide +kernel, fun same => absurd same (by decide)⟩
    · exact ⟨by decide +kernel, fun same => absurd same (by decide)⟩
  · exact small_of_mem_lowerChar mem

end Within

/-! ### Texts -/

/-- What was lower-cased has no capitals. -/
theorem isCapital_of_mem_lowerAfter {before chars : List Char} {d : Char}
    (mem : d ∈ lowerAfter before chars) : isCapital d = false := by
  induction chars generalizing before with
  | nil => cases mem
  | cons c chars ih =>
    rw [lowerAfter_cons] at mem
    rcases List.mem_append.mp mem with here | later
    · exact (small_of_mem_lowerWithin here).1
    · exact ih later

theorem lowerAfter_of_no_capital {before chars : List Char}
    (small : ∀ c ∈ chars, isCapital c = false) : lowerAfter before chars = chars := by
  induction chars generalizing before with
  | nil => rfl
  | cons c chars ih =>
    rw [lowerAfter_cons, lowerWithin_of_not_capital (small c List.mem_cons_self),
      ih fun c mem => small c (List.mem_cons_of_mem _ mem)]
    rfl

/-- Lower-casing twice is lower-casing once. -/
@[simp] theorem lower_lower (text : String) : lower (lower text) = lower text := by
  rw [lower, lower, String.toList_ofList,
    lowerAfter_of_no_capital fun _ mem => isCapital_of_mem_lowerAfter mem]

/-! ### The letters A to Z -/

/-- A letter of A to Z becomes the letter 32 places behind it, and all else stays. -/
theorem toLower_cases (c : Char) :
    c.toLower = c ∨ (0x41 ≤ c.toNat ∧ c.toNat ≤ 0x5A) ∧ c.toLower.toNat = c.toNat + 32 := by
  unfold Char.toLower
  split
  · rename_i capital
    have low : 0x41 ≤ c.toNat := UInt32.le_iff_toNat_le.mp capital.1
    have high : c.toNat ≤ 0x5A := UInt32.le_iff_toNat_le.mp capital.2
    refine .inr ⟨⟨low, high⟩, ?_⟩
    change (c.val + 32).toNat = c.val.toNat + 32
    rw [UInt32.toNat_add]
    have : c.val.toNat ≤ 0x5A := high
    have : (32 : UInt32).toNat = 32 := rfl
    omega
  · exact .inl rfl

/-- Characters outside a to z are the lower case of no letter of A to Z. -/
theorem toLower_eq_iff {c d : Char} (other : d.toNat < 0x61 ∨ 0x7A < d.toNat)
    (notUpper : d.toNat < 0x41 ∨ 0x5A < d.toNat) : c.toLower = d ↔ c = d := by
  rcases toLower_cases c with same | ⟨letter, lower⟩
  · rw [same]
  · constructor
    · rintro rfl
      omega
    · rintro rfl
      omega

/-- Neither letters nor backslashes are passed over in the search for a letter with case. -/
theorem not_ignorable {n : Nat} (sign : (0x41 ≤ n ∧ n ≤ 0x5C) ∨ (0x61 ≤ n ∧ n ≤ 0x7A)) :
    inRanges caseIgnorable n = false := by
  have apart : ∀ range ∈ caseIgnorable,
      range.2 < 0x41 ∨ (0x5C < range.1 ∧ range.2 < 0x61) ∨ 0x7A < range.1 := by
    decide +kernel
  refine Bool.eq_false_iff.mpr fun ignorable => ?_
  obtain ⟨range, mem, first, last⟩ := inRanges_iff.mp ignorable
  have := apart range mem
  omega

theorem cased_of_letter {n : Nat} (letter : (0x41 ≤ n ∧ n ≤ 0x5A) ∨ (0x61 ≤ n ∧ n ≤ 0x7A)) :
    inRanges cased n = true := by
  rcases letter with upper | lower
  · exact inRanges_iff.mpr ⟨(0x41, 0x5A), List.mem_append_left _ List.mem_cons_self, upper⟩
  · exact inRanges_iff.mpr ⟨(0x61, 0x7A),
      List.mem_append_left _ (List.mem_cons_of_mem _ List.mem_cons_self), lower⟩

theorem lowerCode_of_letter {n : Nat} (letter : 0x41 ≤ n ∧ n ≤ 0x5A) : lowerCode n = n + 32 := by
  have holds : CaseRun.holds ⟨0x41, 0x5A, 1, 0x61⟩ n = true :=
    CaseRun.holds_iff.mpr ⟨letter.1, letter.2, Nat.mod_one _⟩
  have found : caseRuns.find? (·.holds n) = some ⟨0x41, 0x5A, 1, 0x61⟩ :=
    List.find?_cons_of_pos holds
  rw [lowerCode, found]
  change 0x61 + (n - 0x41) = n + 32
  omega

theorem lowerChar_toLower (c : Char) : lowerChar c.toLower = lowerChar c := by
  rcases toLower_cases c with same | ⟨letter, lower⟩
  · rw [same]
  · have undotted : c ≠ '\u0130' := by
      rintro rfl
      exact absurd letter.2 (by decide)
    have whole : lowerChar c = [c.toLower] := by
      rw [lowerChar, if_neg undotted, lowerCode_of_letter letter, ← lower, Char.ofNat_toNat]
    have small : isCapital c.toLower = false :=
      (small_of_mem_lowerChar (c := c) (by rw [whole]; exact List.mem_singleton_self _)).1
    rw [whole, lowerChar_of_not_capital small]

/-- Letters count for the final sigma whatever their case. -/
theorem seesCased_map_toLower (chars : List Char) :
    seesCased (chars.map Char.toLower) = seesCased chars := by
  have ignorable (c : Char) :
      inRanges caseIgnorable c.toLower.toNat = inRanges caseIgnorable c.toNat := by
    rcases toLower_cases c with same | ⟨letter, lower⟩
    · rw [same]
    · rw [not_ignorable (by omega), not_ignorable (by omega)]
  have hasCase (c : Char) : inRanges cased c.toLower.toNat = inRanges cased c.toNat := by
    rcases toLower_cases c with same | ⟨letter, lower⟩
    · rw [same]
    · rw [cased_of_letter (by omega), cased_of_letter (by omega)]
  have skipped : (fun c : Char => inRanges caseIgnorable c.toNat) ∘ Char.toLower =
      fun c => inRanges caseIgnorable c.toNat := funext ignorable
  rw [seesCased, seesCased, List.dropWhile_map, skipped]
  cases chars.dropWhile fun c => inRanges caseIgnorable c.toNat with
  | nil => rfl
  | cons c rest => exact hasCase c

theorem lowerAfter_map_toLower (before chars : List Char) :
    lowerAfter (before.map Char.toLower) (chars.map Char.toLower) = lowerAfter before chars := by
  -- The characters before change their case with the others: the sigma looks back at them.
  induction chars generalizing before with
  | nil => rfl
  | cons c chars ih =>
    have sigma : c.toLower = 'Σ' ↔ c = 'Σ' := toLower_eq_iff (.inr (by decide)) (.inr (by decide))
    have here : lowerWithin (before.map Char.toLower) c.toLower (chars.map Char.toLower) =
        lowerWithin before c chars := by
      simp only [lowerWithin, sigma, lowerSigma, seesCased_map_toLower, lowerChar_toLower]
    rw [List.map_cons, lowerAfter_cons, lowerAfter_cons, here]
    exact congrArg _ (ih (c :: before))

/-- Texts that differ in the case of letters A to Z alone have one lower case. -/
theorem lower_eq_of_map_toLower_eq {text other : String}
    (same : text.toList.map Char.toLower = other.toList.map Char.toLower) :
    lower text = lower other := by
  rw [lower, lower, ← lowerAfter_map_toLower [] text.toList,
    ← lowerAfter_map_toLower [] other.toList, same]

/-! ### Backslashes -/

/-- A letter with case is not looked for beyond a backslash. -/
theorem seesCased_append_backslash (front rest : List Char) :
    seesCased (front ++ '\\' :: rest) = seesCased front := by
  have stops : inRanges caseIgnorable '\\'.toNat = false := not_ignorable (.inl (by decide))
  have uncased : inRanges cased '\\'.toNat = false := by decide +kernel
  have kept : ('\\' :: rest).dropWhile (fun c => inRanges caseIgnorable c.toNat) = '\\' :: rest :=
    List.dropWhile_cons_of_neg (by rw [stops]; exact Bool.false_ne_true)
  rw [seesCased, seesCased, List.dropWhile_append, kept]
  cases front.dropWhile fun c => inRanges caseIgnorable c.toNat with
  | nil => exact uncased
  | cons c front => rfl

theorem lowerWithin_backslash (before after : List Char) :
    lowerWithin before '\\' after = ['\\'] :=
  lowerWithin_of_not_capital (by decide +kernel)

/-- What stands before a backslash does not count after it. -/
theorem lowerAfter_of_backslash (near far chars : List Char) :
    lowerAfter (near ++ '\\' :: far) chars = lowerAfter near chars := by
  induction chars generalizing near with
  | nil => rfl
  | cons c chars ih =>
    have here : lowerWithin (near ++ '\\' :: far) c chars = lowerWithin near c chars := by
      simp only [lowerWithin, lowerSigma, seesCased_append_backslash]
    rw [lowerAfter_cons, lowerAfter_cons, here]
    exact congrArg _ (ih (c :: near))

/-- A backslash cuts a text in two, each with a lower case of its own. -/
theorem lowerAfter_append_backslash (before front rest : List Char) :
    lowerAfter before (front ++ '\\' :: rest) =
      lowerAfter before front ++ '\\' :: lowerAfter [] rest := by
  induction front generalizing before with
  | nil =>
    rw [List.nil_append, lowerAfter_cons, lowerWithin_backslash]
    exact congrArg _ (lowerAfter_of_backslash [] before rest)
  | cons c front ih =>
    have here : lowerWithin before c (front ++ '\\' :: rest) = lowerWithin before c front := by
      simp only [lowerWithin, lowerSigma, seesCased_append_backslash]
    rw [List.cons_append, lowerAfter_cons, lowerAfter_cons, here, ih, List.append_assoc]

end RuntimeLocator.LowerCase
