/-
Joining keeps the components of a path.

The components of a text are its longest runs of characters that are no separators.
However a join treats the separators between its two sides, the components of the
joined path are those of the path and then those of the component (`components_join`):
none is lost, none is made, and no two become one. Runs of appends and resolutions
inherit this, and a resolution under settings that obey the rules ends with the product
directory (`components_composed`).
-/

import Mathlib.Data.List.TakeWhile
import RuntimeLocator.Proofs.Path.Capacity

namespace RuntimeLocator

open Script

namespace Path

/-! ### Components -/

/-- The longest runs of characters that are no separators, in order. -/
def runs (path : List Char) : List (List Char) :=
  (path.splitOnP isSeparator).filter (· ≠ [])

/-- The components of a path. -/
def components (path : String) : List String :=
  (runs path.toList).map String.ofList

theorem runs_nil : runs [] = [] := rfl

/-- A separator ends one run and begins another. -/
theorem runs_append_cons {sep : Char} (separates : isSeparator sep = true)
    (before after : List Char) : runs (before ++ sep :: after) = runs before ++ runs after := by
  rw [runs, List.splitOnP_append_cons before after separates, List.filter_append]
  rfl

theorem runs_cons {sep : Char} (separates : isSeparator sep = true) (path : List Char) :
    runs (sep :: path) = runs path := by
  have split := runs_append_cons separates [] path
  rwa [runs_nil, List.nil_append, List.nil_append] at split

/-- Leading separators are in no run. -/
theorem runs_append_left {seps : List Char} (separate : ∀ c ∈ seps, isSeparator c = true)
    (path : List Char) : runs (seps ++ path) = runs path := by
  induction seps with
  | nil => rfl
  | cons sep seps ih =>
    rw [List.cons_append, runs_cons (separate sep List.mem_cons_self)]
    exact ih fun c mem => separate c (List.mem_cons_of_mem _ mem)

/-- However many separators stand between two texts, if any does, no run reaches across. -/
theorem runs_append_between {seps : List Char} (separate : ∀ c ∈ seps, isSeparator c = true)
    (nonempty : seps ≠ []) (before after : List Char) :
    runs (before ++ (seps ++ after)) = runs before ++ runs after := by
  cases seps with
  | nil => exact absurd rfl nonempty
  | cons sep seps =>
    rw [List.cons_append, runs_append_cons (separate sep List.mem_cons_self),
      runs_append_left fun c mem => separate c (List.mem_cons_of_mem _ mem)]

/-- Nor are trailing ones. -/
theorem runs_append_right {seps : List Char} (separate : ∀ c ∈ seps, isSeparator c = true)
    (path : List Char) : runs (path ++ seps) = runs path := by
  cases seps with
  | nil => rw [List.append_nil]
  | cons sep seps =>
    have between := runs_append_between separate (List.cons_ne_nil sep seps) path []
    rwa [List.append_nil, runs_nil, List.append_nil] at between

theorem runs_dropWhile (path : List Char) : runs (path.dropWhile isSeparator) = runs path :=
  calc runs (path.dropWhile isSeparator)
    _ = runs (path.takeWhile isSeparator ++ path.dropWhile isSeparator) :=
      (runs_append_left (fun _ mem => List.mem_takeWhile_imp mem) _).symm
    _ = runs path := by rw [List.takeWhile_append_dropWhile]

/-! ### Trailing separators -/

/-- A path is what stands before its trailing separators, and these. -/
theorem exists_eq_dropTrailing_append (path : List Char) :
    ∃ seps : List Char, (∀ c ∈ seps, isSeparator c = true) ∧ path = dropTrailing path ++ seps := by
  refine ⟨(path.reverse.takeWhile isSeparator).reverse, fun c mem => ?_, ?_⟩
  · exact List.mem_takeWhile_imp (List.mem_reverse.mp mem)
  · rw [dropTrailing, ← List.reverse_append, List.takeWhile_append_dropWhile, List.reverse_reverse]

theorem runs_dropTrailing (path : List Char) : runs (dropTrailing path) = runs path := by
  obtain ⟨seps, separate, split⟩ := exists_eq_dropTrailing_append path
  calc runs (dropTrailing path)
    _ = runs (dropTrailing path ++ seps) := (runs_append_right separate _).symm
    _ = runs path := by rw [← split]

/-- Texts that run into nothing that follows them: they are empty or end with a
separator. -/
def Ended (front : List Char) : Prop :=
  front = [] ∨ ∃ before sep, isSeparator sep = true ∧ front = before ++ [sep]

/-- Where there are trailing separators to drop, a path ends with one. -/
theorem ended_of_dropTrailing {path : List Char}
    (shorter : (dropTrailing path).length < path.length) : Ended path := by
  obtain ⟨seps, separate, split⟩ := exists_eq_dropTrailing_append path
  have nonempty : seps ≠ [] := by
    rintro rfl
    rw [List.append_nil] at split
    exact absurd (congrArg List.length split) (Nat.ne_of_gt shorter)
  refine .inr ⟨dropTrailing path ++ seps.dropLast, seps.getLast nonempty,
    separate _ (List.getLast_mem nonempty), ?_⟩
  rw [List.append_assoc, List.dropLast_concat_getLast]
  exact split

theorem runs_append_of_ended {front : List Char} (ended : Ended front) (path : List Char) :
    runs (front ++ path) = runs front ++ runs path := by
  rcases ended with rfl | ⟨before, sep, separates, rfl⟩
  · rfl
  · have alone := runs_append_cons separates before []
    rw [runs_nil, List.append_nil] at alone
    rw [alone, List.append_assoc]
    exact runs_append_cons separates before path

/-! ### Joins -/

/-- How a join puts its two sides together: the path keeps its runs in what comes before
the component, and these do not run into it. -/
theorem exists_joinChars_eq (path : List Char) {component : List Char}
    (adds : component.dropWhile isSeparator ≠ []) :
    ∃ front : List Char, joinChars path component = front ++ component.dropWhile isSeparator ∧
      runs front = runs path ∧ Ended front := by
  simp only [joinChars, if_neg adds]
  split
  · rename_i empty
    exact ⟨[], rfl, by rw [empty], .inl rfl⟩
  · rename_i nonempty
    split
    · rename_i keeps
      refine ⟨path, rfl, rfl, ended_of_dropTrailing ?_⟩
      rcases keeps with bare | ⟨-, shorter⟩
      · rw [bare]
        exact List.length_pos_iff.mpr nonempty
      · exact shorter
    · have separates : isSeparator '\\' = true := by decide
      refine ⟨dropTrailing path ++ ['\\'], by simp, ?_, .inr ⟨_, _, separates, rfl⟩⟩
      rw [runs_append_cons separates (dropTrailing path) [], runs_nil, List.append_nil,
        runs_dropTrailing]

/-- **A join keeps components**: those of the path come first, then those of the
component. -/
theorem components_join (path component : String) :
    components (join path component) = components path ++ components component := by
  simp only [components, join, String.toList_ofList]
  rw [← List.map_append, ← runs_dropWhile component.toList]
  congr 1
  by_cases adds : component.toList.dropWhile isSeparator = []
  · simp [joinChars, adds, runs_nil]
  · obtain ⟨front, joined, kept, ended⟩ := exists_joinChars_eq path.toList adds
    rw [joined, runs_append_of_ended ended, kept]

/-! ### Other characters -/

section Characters

variable {c : Char}

theorem mem_dropWhile_iff (visible : isSeparator c = false) (chars : List Char) :
    c ∈ chars.dropWhile isSeparator ↔ c ∈ chars := by
  constructor
  · exact fun mem => (List.dropWhile_suffix isSeparator).subset mem
  · intro mem
    rw [← List.takeWhile_append_dropWhile (p := isSeparator) (l := chars)] at mem
    rcases List.mem_append.mp mem with dropped | kept
    · rw [List.mem_takeWhile_imp dropped] at visible
      cases visible
    · exact kept

theorem mem_dropTrailing_iff (visible : isSeparator c = false) (path : List Char) :
    c ∈ dropTrailing path ↔ c ∈ path := by
  rw [dropTrailing, List.mem_reverse, mem_dropWhile_iff visible, List.mem_reverse]

/-- A join drops and adds separators only. -/
theorem mem_join_iff (visible : isSeparator c = false) {path component : String} :
    c ∈ (join path component).toList ↔ c ∈ path.toList ∨ c ∈ component.toList := by
  rw [join, String.toList_ofList, ← mem_dropWhile_iff visible component.toList]
  simp only [joinChars]
  split
  · rename_i nothing
    simp [nothing]
  · split
    · rename_i empty
      simp [empty]
    · split
      · rw [List.mem_append]
      · have other : c ≠ '\\' := by
          rintro rfl
          cases visible
        rw [List.mem_append, List.mem_cons, mem_dropTrailing_iff visible, or_iff_right other]

end Characters

/-! ### The last component -/

/-- The text after the last separator of a path, or all of it. -/
def afterLastSeparator (path : String) : String :=
  String.ofList (path.toList.reverse.takeWhile (!isSeparator ·)).reverse

/-- A component without separators is what a join ends with. -/
theorem afterLastSeparator_join {component : String} (nonempty : component.toList ≠ [])
    (single : ∀ c ∈ component.toList, isSeparator c = false) (path : String) :
    afterLastSeparator (join path component) = component := by
  have whole : component.toList.dropWhile isSeparator = component.toList := by
    rw [List.dropWhile_eq_self_iff]
    intro long
    simp [single _ (List.getElem_mem long)]
  obtain ⟨front, joined, -, ended⟩ :=
    exists_joinChars_eq path.toList (show component.toList.dropWhile isSeparator ≠ [] by
      rwa [whole])
  rw [whole] at joined
  have stops : front.reverse.takeWhile (!isSeparator ·) = [] := by
    rcases ended with rfl | ⟨before, sep, separates, rfl⟩
    · rfl
    · simp [separates]
  rw [afterLastSeparator, join, String.toList_ofList, joined, List.reverse_append,
    List.takeWhile_append_of_pos (by simpa using single), stops, List.append_nil,
    List.reverse_reverse, String.ofList_toList]

end Path

/-! ### Runs of appends -/

/-- A run of appends that all succeed adds the components of each text in turn. -/
theorem PathBuffer.components_appendEach {buffer : PathBuffer} {texts : List String}
    (succeed : ∀ report ∈ (buffer.appendEach texts).2, report.2 = none) :
    Path.components (buffer.appendEach texts).1.path =
      Path.components buffer.path ++ texts.flatMap Path.components := by
  induction texts generalizing buffer with
  | nil => simp [appendEach]
  | cons text texts ih =>
    simp only [appendEach, List.mem_cons, forall_eq_or_imp] at succeed ⊢
    obtain ⟨first, rest⟩ := succeed
    have step : (buffer.tryAppend text).1.path = Path.join buffer.path text := by
      generalize attempted : buffer.tryAppend text = next at first ⊢
      have attempt := buffer.tryAppend_spec text
      rw [attempted] at attempt
      cases attempt with
      | taken path => exact path
      | refused => cases first
    rw [ih rest, step, Path.components_join, List.flatMap_cons, List.append_assoc]

/-! ### Resolutions -/

theorem components_of_versioned {seeded versioned : PathBuffer} {version : Option String}
    (pins : Versioned seeded version versioned) :
    Path.components versioned.path =
      Path.components seeded.path ++ version.elim [] Path.components := by
  cases pins with
  | unpinned => simp
  | pinned appends =>
    rw [(PathBuffer.append_eq_ok_iff.mp appends).1, Path.components_join]
    rfl

/-- Under settings that obey the rules, the product directory is one component. -/
theorem Settings.productDirectory_single {settings : Settings}
    (valid : settings.firstViolation? = none) :
    settings.productDirectory.toList ≠ [] ∧
      ∀ c ∈ settings.productDirectory.toList, Path.isSeparator c = false := by
  rw [Settings.firstViolation?, List.head?_eq_none_iff, Settings.violations,
    List.append_eq_nil_iff, List.append_eq_nil_iff] at valid
  obtain ⟨⟨blanks, -⟩, separators⟩ := valid
  constructor
  · intro empty
    simp [List.filter_eq_nil_iff, Item.all, Settings.get, Blank.isBlankText, empty] at blanks
  · simpa using separators

section Composed

variable {settings : Settings} {maxChars : Nat} {source : RootSource} {root : String}
  {version : Option String} {resolution : Resolution}

theorem components_of_composed
    (composed : Composed settings maxChars source root version (.ok resolution)) :
    Path.components resolution.path =
      Path.components root ++ version.elim [] Path.components ++
        Path.components settings.productDirectory := by
  cases composed with
  | succeeds seeds pins appends =>
    rw [(PathBuffer.append_eq_ok_iff.mp appends).1, Path.components_join,
      components_of_versioned pins, (PathBuffer.hold_eq_ok_iff.mp seeds).1]

theorem afterLastSeparator_of_composed (valid : settings.firstViolation? = none)
    (composed : Composed settings maxChars source root version (.ok resolution)) :
    Path.afterLastSeparator resolution.path = settings.productDirectory := by
  obtain ⟨nonempty, single⟩ := Settings.productDirectory_single valid
  cases composed with
  | succeeds _ _ appends =>
    rw [(PathBuffer.append_eq_ok_iff.mp appends).1]
    exact Path.afterLastSeparator_join nonempty single _

end Composed

/-- Composing paths loses, merges and makes no component: a run of appends that succeed
adds the components of each text to those of the root, and a resolved path has those of
the root that the winning tier supplied, of the version and of the product directory. The
product directory is what such a path ends with, if the settings obey the rules. -/
theorem components_composed :
    (∀ (root : String) (capacity : Nat) (start : PathBuffer) (texts : List String),
      PathBuffer.hold root capacity = .ok start →
      (∀ report ∈ (start.appendEach texts).2, report.2 = none) →
      Path.components (start.appendEach texts).1.path =
        Path.components root ++ texts.flatMap Path.components) ∧
    ∀ (σ : Type) (host : Host σ) (settings : Settings) (maxChars : Nat) (start : σ)
      (resolution : Resolution),
      ((resolve settings maxChars).run host start).answer = .ok resolution →
      (∃ root : String,
        Consulted host settings maxChars start
          ⟨⟨resolution.source, resolution.version, .ok root⟩,
            ((resolve settings maxChars).run host start).calls,
            ((resolve settings maxChars).run host start).state⟩ ∧
        Path.components resolution.path =
          Path.components root ++ resolution.version.elim [] Path.components ++
            Path.components settings.productDirectory) ∧
      (settings.firstViolation? = none →
        Path.afterLastSeparator resolution.path = settings.productDirectory) := by
  refine ⟨fun root capacity start texts held succeed => ?_,
    fun σ host settings maxChars start resolution answers => ?_⟩
  · rw [PathBuffer.components_appendEach succeed, (PathBuffer.hold_eq_ok_iff.mp held).1]
  · obtain ⟨root, consulted, composed⟩ := exists_supplied_of_answer_ok answers
    exact ⟨⟨root, consulted, components_of_composed composed⟩,
      fun valid => afterLastSeparator_of_composed valid composed⟩

/-- Texts of several components, with separators around them, after a drive; and a share
under a version of two components. -/
theorem components_composed_share :
    let start : PathBuffer := ⟨"C:\\", 20, by decide⟩
    let texts := ["/a\\b//", "\\", "c"]
    let host := (Store.answering (.ok (.string "//srv//"))).host
      (.ofPairs [("COMPLUS_Version", "\\v4/x")])
    let run := (resolve .standard 260).run host ⟨.zero, none⟩
    let resolution : Resolution := ⟨"//srv\\v4/x\\WPF", .registeredInstallRoot, some "\\v4/x"⟩
    (PathBuffer.hold "C:\\" 20 = .ok start ∧
      (∀ report ∈ (start.appendEach texts).2, report.2 = none) ∧
      Path.components (start.appendEach texts).1.path =
        Path.components "C:\\" ++ texts.flatMap Path.components) ∧
    (run.answer = .ok resolution ∧
      ∃ root : String,
        Consulted host .standard 260 ⟨.zero, none⟩
          ⟨⟨resolution.source, resolution.version, .ok root⟩, run.calls, run.state⟩ ∧
        Path.components resolution.path =
          Path.components root ++ resolution.version.elim [] Path.components ++
            Path.components Settings.standard.productDirectory) ∧
    (Settings.standard.firstViolation? = none ∧
      Path.afterLastSeparator resolution.path = Settings.standard.productDirectory) := by
  intro start texts host run resolution
  have held : PathBuffer.hold "C:\\" 20 = .ok start := by decide
  have succeed : ∀ report ∈ (start.appendEach texts).2, report.2 = none := by decide
  have answers : run.answer = .ok resolution := by decide
  have valid : Settings.standard.firstViolation? = none := by decide
  obtain ⟨supplied, last⟩ :=
    components_composed.2 _ host .standard 260 ⟨.zero, none⟩ resolution answers
  exact ⟨⟨held, succeed, components_composed.1 "C:\\" 20 start texts held succeed⟩,
    ⟨answers, supplied⟩, valid, last valid⟩

end RuntimeLocator
