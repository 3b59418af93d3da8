/-
The rules for settings, and which of them is the first to be broken.

`Lawful` and `FirstViolation` say both of the texts alone, and every settings obey the rules or
break one first (`lawful_or_firstViolation`). What the check answers is just that
(`firstViolation?_eq_none_iff`, `firstViolation?_eq_some_iff`).
-/

import Mathlib.Tactic.ByContra
import RuntimeLocator.Settings

namespace RuntimeLocator.Settings

/-- A text with a character that is not white space. -/
def Visible (text : String) : Prop :=
  ∃ c ∈ text.toList, Blank.isBlank c = false

/-- A text that begins with a backslash or a slash. -/
def Leads (text : String) : Prop :=
  ∃ c ∈ text.toList.head?, c = '\\' ∨ c = '/'

/-- A text of more than one component. -/
def Several (text : String) : Prop :=
  ∃ c ∈ text.toList, c = '\\' ∨ c = '/'

/-- Settings that obey every rule. -/
structure Lawful (settings : Settings) : Prop where
  visible : ∀ item, Visible (settings.get item)
  rootKey : ¬ Leads settings.installRootKey
  pathKey : ¬ Leads settings.installPathKey
  single : ¬ Several settings.productDirectory

/-- The first rule that settings break: that no item is blank, item by item in their order, then
that neither key path begins with a separator, that of the install root first, and then that the
product directory is one component. -/
inductive FirstViolation (settings : Settings) : Violation → Prop
  | blank {earlier later : List Item} {item : Item} (order : Item.all = earlier ++ item :: later)
      (visible : ∀ other ∈ earlier, Visible (settings.get other))
      (blank : ¬ Visible (settings.get item)) : FirstViolation settings (.blank item)
  | rootKey (visible : ∀ item, Visible (settings.get item))
      (leads : Leads settings.installRootKey) :
      FirstViolation settings (.leadingSeparator .installRootKey settings.installRootKey)
  | pathKey (visible : ∀ item, Visible (settings.get item))
      (rootKey : ¬ Leads settings.installRootKey) (leads : Leads settings.installPathKey) :
      FirstViolation settings (.leadingSeparator .installPathKey settings.installPathKey)
  | several (visible : ∀ item, Visible (settings.get item))
      (rootKey : ¬ Leads settings.installRootKey) (pathKey : ¬ Leads settings.installPathKey)
      (several : Several settings.productDirectory) :
      FirstViolation settings (.severalComponents settings.productDirectory)

section Texts

variable {text : String}

theorem isBlankText_eq_true_iff : Blank.isBlankText text = true ↔ ¬ Visible text := by
  rw [Visible, ← Blank.isBlankText_eq_false_iff, Bool.not_eq_false]

theorem isSeparator_eq_true_iff {c : Char} : Path.isSeparator c = true ↔ c = '\\' ∨ c = '/' := by
  simp [Path.isSeparator]

theorem beginsWithSeparator_eq_true_iff : beginsWithSeparator text = true ↔ Leads text := by
  simp [beginsWithSeparator, Leads, Option.any_eq_true, isSeparator_eq_true_iff]

theorem any_isSeparator_eq_true_iff : text.toList.any Path.isSeparator = true ↔ Several text := by
  simp [Several, isSeparator_eq_true_iff]

end Texts

section Rules

variable {settings : Settings} {violation : Violation}

theorem firstViolation?_eq (settings : Settings) :
    settings.firstViolation? =
      ((Item.all.find? fun item => Blank.isBlankText (settings.get item)).map .blank).or
        (if beginsWithSeparator settings.installRootKey then
          some (.leadingSeparator .installRootKey settings.installRootKey)
        else if beginsWithSeparator settings.installPathKey then
          some (.leadingSeparator .installPathKey settings.installPathKey)
        else if settings.productDirectory.toList.any Path.isSeparator then
          some (.severalComponents settings.productDirectory)
        else none) := by
  rw [firstViolation?, violations, List.head?_append, List.head?_append, List.head?_map,
    List.head?_filter, List.head?_map, List.head?_filter, Option.or_assoc]
  congr 1
  cases root : beginsWithSeparator settings.installRootKey <;>
    cases path : beginsWithSeparator settings.installPathKey <;>
      cases several : settings.productDirectory.toList.any Path.isSeparator <;>
        simp [List.find?, get, root, path]

theorem find?_blank_eq_none (visible : ∀ item, Visible (settings.get item)) :
    (Item.all.find? fun item => Blank.isBlankText (settings.get item)) = none :=
  List.find?_eq_none.mpr fun item _ blank => isBlankText_eq_true_iff.mp blank (visible item)

theorem firstViolation?_of_lawful (lawful : settings.Lawful) : settings.firstViolation? = none := by
  rw [firstViolation?_eq, find?_blank_eq_none lawful.visible,
    if_neg fun leads => lawful.rootKey (beginsWithSeparator_eq_true_iff.mp leads),
    if_neg fun leads => lawful.pathKey (beginsWithSeparator_eq_true_iff.mp leads),
    if_neg fun several => lawful.single (any_isSeparator_eq_true_iff.mp several)]
  rfl

theorem firstViolation?_of_first (first : settings.FirstViolation violation) :
    settings.firstViolation? = some violation := by
  rw [firstViolation?_eq]
  cases first with
  | @blank earlier later item order visible blank =>
    have found :
        (Item.all.find? fun item => Blank.isBlankText (settings.get item)) = some item := by
      refine List.find?_eq_some_iff_append.mpr ⟨isBlankText_eq_true_iff.mpr blank, earlier, later,
        order, fun other before => ?_⟩
      rw [Bool.not_eq_true']
      exact Blank.isBlankText_eq_false_iff.mpr (visible other before)
    rw [found]
    rfl
  | rootKey visible leads =>
    rw [find?_blank_eq_none visible, if_pos (beginsWithSeparator_eq_true_iff.mpr leads)]
    rfl
  | pathKey visible rootKey leads =>
    rw [find?_blank_eq_none visible,
      if_neg fun leads => rootKey (beginsWithSeparator_eq_true_iff.mp leads),
      if_pos (beginsWithSeparator_eq_true_iff.mpr leads)]
    rfl
  | several visible rootKey pathKey several =>
    rw [find?_blank_eq_none visible,
      if_neg fun leads => rootKey (beginsWithSeparator_eq_true_iff.mp leads),
      if_neg fun leads => pathKey (beginsWithSeparator_eq_true_iff.mp leads),
      if_pos (any_isSeparator_eq_true_iff.mpr several)]
    rfl

theorem lawful_or_firstViolation (settings : Settings) :
    settings.Lawful ∨ ∃ violation, settings.FirstViolation violation := by
  cases found : Item.all.find? fun item => Blank.isBlankText (settings.get item) with
  | some item =>
    obtain ⟨blank, earlier, later, order, visible⟩ := List.find?_eq_some_iff_append.mp found
    refine .inr ⟨_, .blank order (fun other before => ?_) (isBlankText_eq_true_iff.mp blank)⟩
    have shown := visible other before
    rw [Bool.not_eq_true'] at shown
    exact Blank.isBlankText_eq_false_iff.mp shown
  | none =>
    have visible (item : Item) : Visible (settings.get item) := by
      by_contra blank
      have among : item ∈ Item.all := by cases item <;> decide
      exact List.find?_eq_none.mp found item among (isBlankText_eq_true_iff.mpr blank)
    by_cases rootKey : Leads settings.installRootKey
    · exact .inr ⟨_, .rootKey visible rootKey⟩
    · by_cases pathKey : Leads settings.installPathKey
      · exact .inr ⟨_, .pathKey visible rootKey pathKey⟩
      · by_cases several : Several settings.productDirectory
        · exact .inr ⟨_, .several visible rootKey pathKey several⟩
        · exact .inl ⟨visible, rootKey, pathKey, several⟩

theorem firstViolation?_eq_none_iff : settings.firstViolation? = none ↔ settings.Lawful := by
  refine ⟨fun passes => ?_, firstViolation?_of_lawful⟩
  obtain lawful | ⟨violation, first⟩ := settings.lawful_or_firstViolation
  · exact lawful
  · cases passes.symm.trans (firstViolation?_of_first first)

theorem firstViolation?_eq_some_iff :
    settings.firstViolation? = some violation ↔ settings.FirstViolation violation := by
  refine ⟨fun fails => ?_, firstViolation?_of_first⟩
  obtain lawful | ⟨other, first⟩ := settings.lawful_or_firstViolation
  · cases fails.symm.trans (firstViolation?_of_lawful lawful)
  · cases fails.symm.trans (firstViolation?_of_first first)
    exact first

end Rules

end RuntimeLocator.Settings
