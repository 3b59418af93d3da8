/-
Components appended one after the other, and the same components appended at once.

What a path puts before a component does not depend on the component (`stem`), and behind a
component it is one backslash, even behind a colon. So joining a second component adds a backslash
and the component to the path (`join_join`), as it does to join both with the backslash between
them (`join_append`). Only the first join can make a path shorter: from then on each path begins
the next one. So where the last of the paths fits a buffer all of them do, and appending any
number of components in turn is appending them at once (`appendEach_joined`).
-/

import RuntimeLocator.Proofs.Path.Components

namespace RuntimeLocator

namespace Path

/-! ### What stands before a component -/

/-- A text that is one component as it is. -/
structure Single (component : String) : Prop where
  nonempty : component.toList ≠ []
  plain : ∀ c ∈ component.toList, isSeparator c = false

/-- What stands before a component that is joined to a path. -/
def stem (path : List Char) : List Char :=
  if path = [] then []
  else if dropTrailing path = [] ∨
      ((dropTrailing path).getLast? = some ':' ∧ (dropTrailing path).length < path.length) then path
  else dropTrailing path ++ ['\\']

section Characters

variable {component : List Char}

theorem joinChars_eq_stem (path : List Char) (adds : component.dropWhile isSeparator ≠ []) :
    joinChars path component = stem path ++ component.dropWhile isSeparator := by
  simp only [joinChars, stem, if_neg adds]
  split
  case isTrue => rfl
  case isFalse =>
    split
    case isTrue => rfl
    case isFalse => rw [List.append_assoc, List.singleton_append]

variable (nonempty : component ≠ []) (plain : ∀ c ∈ component, isSeparator c = false)

include nonempty plain

theorem dropWhile_append_of_plain (rest : List Char) :
    (component ++ rest).dropWhile isSeparator = component ++ rest := by
  cases component with
  | nil => exact absurd rfl nonempty
  | cons c component => exact List.dropWhile_cons_of_neg (by simp [plain c List.mem_cons_self])

/-- A component with something behind it is joined with all of that. -/
theorem joinChars_append_of_plain (path rest : List Char) :
    joinChars path (component ++ rest) = stem path ++ component ++ rest := by
  have whole := dropWhile_append_of_plain nonempty plain rest
  have adds : (component ++ rest).dropWhile isSeparator ≠ [] := by
    rw [whole]
    exact List.append_ne_nil_of_left_ne_nil nonempty rest
  rw [joinChars_eq_stem path adds, whole, List.append_assoc]

/-- Behind a component stands a backslash: no separators follow it, so that it ends with a colon
makes no difference. -/
theorem stem_append_of_plain (path : List Char) :
    stem (path ++ component) = path ++ component ++ ['\\'] := by
  obtain ⟨front, c, rfl⟩ : ∃ front c, component = front ++ [c] :=
    ⟨_, _, (List.dropLast_concat_getLast nonempty).symm⟩
  have last : isSeparator c = false := plain c (by simp)
  have whole : dropTrailing (path ++ (front ++ [c])) = path ++ (front ++ [c]) := by
    simp [dropTrailing, last]
  rw [stem, whole, if_neg (by simp), if_neg]
  rintro (empty | ⟨-, shorter⟩)
  · simp at empty
  · exact Nat.lt_irrefl _ shorter

end Characters

/-! ### Components in turn -/

section Joins

variable {component rest : String} (single : Single component)

include single

theorem join_append (path rest : String) :
    join path (component ++ "\\" ++ rest) = join path component ++ "\\" ++ rest := by
  have alone := joinChars_append_of_plain single.nonempty single.plain path.toList []
  have both := joinChars_append_of_plain single.nonempty single.plain path.toList
    ('\\' :: rest.toList)
  rw [List.append_nil, List.append_nil] at alone
  rw [← String.toList_inj]
  simp [join, alone, both]

theorem join_join (path : String) (adds : rest.toList ≠ [])
    (begins : rest.toList.dropWhile isSeparator = rest.toList) :
    join (join path component) rest = join path component ++ "\\" ++ rest := by
  have alone := joinChars_append_of_plain single.nonempty single.plain path.toList []
  have behind := stem_append_of_plain single.nonempty single.plain (stem path.toList)
  have addsRest : rest.toList.dropWhile isSeparator ≠ [] := by rwa [begins]
  rw [List.append_nil, List.append_nil] at alone
  rw [← String.toList_inj]
  simp [join, alone, behind, joinChars_eq_stem _ addsRest, begins]

end Joins

/-- Components with a backslash between each two. -/
def joined (components : List String) : String :=
  "\\".intercalate components

theorem joined_cons_cons (component next : String) (components : List String) :
    joined (component :: next :: components) =
      component ++ "\\" ++ joined (next :: components) :=
  String.intercalate_cons_cons

/-- Components begin with what no join drops. -/
theorem begins_joined {component : String} (single : Single component)
    (components : List String) :
    (joined (component :: components)).toList ≠ [] ∧
      (joined (component :: components)).toList.dropWhile isSeparator =
        (joined (component :: components)).toList := by
  obtain ⟨rest, whole⟩ : ∃ rest, (joined (component :: components)).toList =
      component.toList ++ rest := by
    cases components with
    | nil => exact ⟨[], (List.append_nil _).symm⟩
    | cons next components =>
      rw [joined_cons_cons, String.append_assoc, String.toList_append]
      exact ⟨_, rfl⟩
  rw [whole]
  exact ⟨List.append_ne_nil_of_left_ne_nil single.nonempty rest,
    dropWhile_append_of_plain single.nonempty single.plain rest⟩

end Path

/-! ### Buffers -/

namespace PathBuffer

/-- Every append of a run succeeds, and the last one leaves this buffer. -/
def TakesEach (start : PathBuffer) (components : List String) (final : PathBuffer) : Prop :=
  (∀ report ∈ (start.appendEach components).2, report.2 = none) ∧
    (start.appendEach components).1 = final

variable {start final : PathBuffer} {component next : String} {components : List String}

theorem takesEach_nil_iff : start.TakesEach [] final ↔ start = final := by
  simp [TakesEach, appendEach]

theorem takesEach_cons_iff :
    start.TakesEach (component :: components) final ↔
      ∃ after, start.append component = .ok after ∧ after.TakesEach components final := by
  simp only [TakesEach, appendEach, List.mem_cons, forall_eq_or_imp, tryAppend]
  cases start.append component with
  | error failure => simp
  | ok after => simp

/-- Where a path that goes on behind a component fits, the component was taken. -/
theorem exists_append_of_prefix {rest : String}
    (goesOn : final.path = Path.join start.path component ++ rest)
    (capacity : final.capacity = start.capacity) :
    ∃ after, start.append component = .ok after := by
  have shorter : Utf16.units (Path.join start.path component) ≤ Utf16.units final.path := by
    simp only [← Utf16.length_encode, goesOn, Utf16.encode, String.toList_append,
      List.flatMap_append, List.length_append]
    exact Nat.le_add_right _ _
  have fits : Utf16.units (Path.join start.path component) + 1 ≤ start.capacity :=
    calc Utf16.units (Path.join start.path component) + 1
      _ ≤ Utf16.units final.path + 1 := Nat.succ_le_succ shorter
      _ ≤ final.capacity := final.fits
      _ = start.capacity := capacity
  exact ⟨⟨_, _, fits⟩, append_eq_ok_iff.mpr ⟨rfl, rfl⟩⟩

theorem takesEach_iff (singles : ∀ c ∈ component :: components, Path.Single c) :
    start.TakesEach (component :: components) final ↔
      start.append (Path.joined (component :: components)) = .ok final := by
  induction components generalizing start component with
  | nil =>
    simp only [takesEach_cons_iff, takesEach_nil_iff, exists_eq_right]
    rfl
  | cons next components ih =>
    obtain ⟨single, others⟩ := List.forall_mem_cons.mp singles
    obtain ⟨adds, begins⟩ := Path.begins_joined (others next List.mem_cons_self) components
    have inTurn := Path.join_join single start.path adds begins
    have atOnce := Path.join_append single start.path (Path.joined (next :: components))
    rw [← Path.joined_cons_cons] at atOnce
    simp only [takesEach_cons_iff, ih others]
    constructor
    case mp =>
      rintro ⟨after, first, appends⟩
      obtain ⟨pathFirst, capacityFirst⟩ := append_eq_ok_iff.mp first
      obtain ⟨path, capacity⟩ := append_eq_ok_iff.mp appends
      rw [pathFirst, inTurn, ← atOnce] at path
      exact append_eq_ok_iff.mpr ⟨path, capacity.trans capacityFirst⟩
    case mpr =>
      intro appends
      obtain ⟨path, capacity⟩ := append_eq_ok_iff.mp appends
      obtain ⟨after, first⟩ := exists_append_of_prefix
        (path.trans (atOnce.trans (String.append_assoc ..))) capacity
      obtain ⟨pathFirst, capacityFirst⟩ := append_eq_ok_iff.mp first
      refine ⟨after, first, append_eq_ok_iff.mpr ⟨?_, capacity.trans capacityFirst.symm⟩⟩
      rw [path, atOnce, pathFirst, inTurn]

end PathBuffer

/-- **Appending components in turn is appending them at once.** Into any buffer, whatever path it
holds, the appends of single components all succeed exactly where the one append of the
components with a backslash between each two succeeds, and then they leave the same buffer. -/
theorem appendEach_joined {start : PathBuffer} {components : List String}
    (nonempty : components ≠ []) (singles : ∀ c ∈ components, Path.Single c) :
    ((∀ report ∈ (start.appendEach components).2, report.2 = none) ↔
      ∃ final, start.append ("\\".intercalate components) = .ok final) ∧
    ∀ final, start.append ("\\".intercalate components) = .ok final →
      (start.appendEach components).1 = final := by
  obtain ⟨component, components, rfl⟩ := List.exists_cons_of_ne_nil nonempty
  have same (final : PathBuffer) :
      start.TakesEach (component :: components) final ↔
        start.append ("\\".intercalate (component :: components)) = .ok final :=
    PathBuffer.takesEach_iff singles
  refine ⟨⟨fun succeed => ?_, fun ⟨final, appends⟩ => ?_⟩, fun final appends => ?_⟩
  · exact ⟨_, (same _).mp ⟨succeed, rfl⟩⟩
  · exact ((same final).mpr appends).1
  · exact ((same final).mpr appends).2

/-- A component that ends with a colon, after a drive with two separators, in a buffer of twelve
units: the first two components go in both ways, and a third in neither. -/
theorem appendEach_joined_drive :
    let start : PathBuffer := ⟨"C:\\/", 12, by decide⟩
    let final : PathBuffer := ⟨"C:\\/a:\\bc", 12, by decide⟩
    (["a:", "bc"] ≠ [] ∧ (∀ c ∈ ["a:", "bc"], Path.Single c) ∧
      start.append "a:\\bc" = .ok final ∧ (start.appendEach ["a:", "bc"]).1 = final) ∧
    (["a:", "bc", "de"] ≠ [] ∧ (∀ c ∈ ["a:", "bc", "de"], Path.Single c) ∧
      (start.append "a:\\bc\\de").isOk = false ∧
      ¬ ∀ report ∈ (start.appendEach ["a:", "bc", "de"]).2, report.2 = none) := by
  intro start final
  have nonempty : ["a:", "bc"] ≠ [] := List.cons_ne_nil _ _
  have single (c : String) (mem : c ∈ ["a:", "bc", "de"]) : Path.Single c := by
    simp only [List.mem_cons, List.not_mem_nil, or_false] at mem
    obtain rfl | rfl | rfl := mem <;> exact ⟨by decide, by simp [Path.isSeparator]⟩
  have singles : ∀ c ∈ ["a:", "bc"], Path.Single c :=
    fun c mem => single c (List.mem_append_left ["de"] mem)
  have appends : start.append "a:\\bc" = .ok final := by decide
  have overflows : (start.append "a:\\bc\\de").isOk = false := by decide
  obtain ⟨-, leaves⟩ := @appendEach_joined start _ nonempty singles
  obtain ⟨succeed, -⟩ := @appendEach_joined start _ (List.cons_ne_nil _ _) single
  refine ⟨⟨nonempty, singles, appends, leaves final appends⟩, List.cons_ne_nil _ _, single,
    overflows, fun all => ?_⟩
  obtain ⟨longer, fits⟩ := succeed.mp all
  rw [show "\\".intercalate ["a:", "bc", "de"] = "a:\\bc\\de" by decide] at fits
  rw [fits] at overflows
  cases overflows

end RuntimeLocator
