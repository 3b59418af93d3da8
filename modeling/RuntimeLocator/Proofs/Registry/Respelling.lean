/-
Spellings that lookups do not tell apart.

Names are written in other case (`Recased`), and paths also between backslashes
(`Respelled`). What such steps lead to, one after the other and in both directions, folds
alike, and nothing else does (`foldName_eq_iff`, `foldPath_eq_iff`). So two paths open the same
key of every registry, and two names are answered alike by every key, exactly where a chain of
steps joins them (`lookups_ignore_spelling`).
-/

import Mathlib.Logic.Relation
import RuntimeLocator.Proofs.Registry.ReadBack
import RuntimeLocator.Proofs.Text.LowerCase

namespace RuntimeLocator

open LowerCase (lower lowerAfter lowerWithin)
open Relation (EqvGen)

/-! ### Trimming and lower-casing -/

theorem lowerAfter_backslash (chars : List Char) :
    lowerAfter [] ('\\' :: chars) = '\\' :: lowerAfter [] chars :=
  LowerCase.lowerAfter_append_backslash [] [] chars

/-- Lower-casing leaves as many backslashes in front as there were. -/
theorem dropWhile_lowerAfter (chars : List Char) :
    (lowerAfter [] chars).dropWhile (· == '\\') =
      lowerAfter [] (chars.dropWhile (· == '\\')) := by
  induction chars with
  | nil => rfl
  | cons c chars ih =>
    by_cases backslash : c = '\\'
    · subst backslash
      rw [lowerAfter_backslash, List.dropWhile_cons_of_pos rfl, List.dropWhile_cons_of_pos rfl, ih]
    · have whole := LowerCase.lowerAfter_cons [] c chars
      cases first : lowerWithin [] c chars with
      | nil => exact absurd first LowerCase.lowerWithin_ne_nil
      | cons d rest =>
        have here : d ∈ lowerWithin [] c chars := by rw [first]; exact List.mem_cons_self
        have other : d ≠ '\\' := fun same =>
          backslash ((LowerCase.small_of_mem_lowerWithin here).2 same)
        rw [List.dropWhile_cons_of_neg (by simpa using backslash), whole, first, List.cons_append,
          List.dropWhile_cons_of_neg (by simpa using other)]

/-- The lower case of a text ends with that of its last character. -/
theorem exists_lowerAfter_concat (before chars : List Char) (c : Char) :
    ∃ front, lowerAfter before (chars ++ [c]) =
      front ++ lowerWithin (chars.reverse ++ before) c [] := by
  induction chars generalizing before with
  | nil => exact ⟨[], List.append_nil _⟩
  | cons d chars ih =>
    obtain ⟨front, rest⟩ := ih (d :: before)
    refine ⟨lowerWithin before d (chars ++ [c]) ++ front, ?_⟩
    rw [List.cons_append, LowerCase.lowerAfter_cons, rest, List.reverse_cons, List.append_assoc,
      List.append_assoc]
    rfl

/-- Nor does it change the backslashes at the end. -/
theorem rdropWhile_lowerAfter (chars : List Char) :
    (lowerAfter [] chars).rdropWhile (· == '\\') =
      lowerAfter [] (chars.rdropWhile (· == '\\')) := by
  induction chars using List.reverseRecOn with
  | nil => rfl
  | append_singleton chars c ih =>
    by_cases backslash : c = '\\'
    · subst backslash
      have cut : lowerAfter [] (chars ++ ['\\']) = lowerAfter [] chars ++ ['\\'] :=
        LowerCase.lowerAfter_append_backslash [] chars []
      rw [cut, List.rdropWhile_concat_pos _ _ _ rfl, List.rdropWhile_concat_pos _ _ _ rfl, ih]
    · rw [List.rdropWhile_concat_neg _ _ _ (by simpa using backslash), List.rdropWhile_eq_self_iff]
      obtain ⟨front, whole⟩ := exists_lowerAfter_concat [] chars c
      rw [whole]
      intro nonempty same
      rw [List.getLast_append_of_ne_nil _ LowerCase.lowerWithin_ne_nil] at same
      exact backslash ((LowerCase.small_of_mem_lowerWithin (List.getLast_mem _)).2
        (by simpa using same))

/-- It does not matter whether a path is trimmed first or lower-cased first. -/
theorem trimPath_lower (path : String) : trimPath (lower path) = lower (trimPath path) := by
  rw [trimPath_eq, lower, String.toList_ofList, dropWhile_lowerAfter, rdropWhile_lowerAfter, lower,
    toList_trimPath]

/-! ### Steps -/

/-- A name in other case: all of it in lower case, or any of its letters A to Z in the other
case. `Char.toLower` knows these letters alone. -/
inductive Recased : String → String → Prop where
  | lowered (name : String) : Recased name (lower name)
  | letters {name other : String}
      (same : name.toList.map Char.toLower = other.toList.map Char.toLower) : Recased name other

/-- A path with backslashes added at its ends. -/
def backslashed (before after : Nat) (path : String) : String :=
  String.ofList (List.replicate before '\\' ++ path.toList ++ List.replicate after '\\')

/-- A path in other case, or with more backslashes at its ends. -/
inductive Respelled : String → String → Prop where
  | recased {path other : String} (recased : Recased path other) : Respelled path other
  | backslashes (path : String) (before after : Nat) :
      Respelled path (backslashed before after path)

theorem trimPath_backslashed (before after : Nat) (path : String) :
    trimPath (backslashed before after path) = trimPath path := by
  have front : ∀ c ∈ List.replicate before '\\', (c == '\\') = true := by
    intro c mem
    rw [List.eq_of_mem_replicate mem]
    rfl
  have back (chars : List Char) : (chars ++ List.replicate after '\\').rdropWhile (· == '\\') =
      chars.rdropWhile (· == '\\') := by
    rw [List.rdropWhile, List.reverse_append, List.reverse_replicate,
      List.dropWhile_append_of_pos (by simp), List.rdropWhile]
  have none : (List.replicate after '\\').dropWhile (· == '\\') = [] := by simp
  rw [trimPath_eq, backslashed, String.toList_ofList, List.append_assoc,
    List.dropWhile_append_of_pos front, List.dropWhile_append, none, trimPath_eq]
  split
  · rename_i empty
    rw [List.isEmpty_iff.mp empty]
  · rw [back]

/-- A path is its trimmed spelling between backslashes. -/
theorem exists_backslashed (path : String) :
    ∃ before after, path = backslashed before after (trimPath path) := by
  have alike {chars : List Char} (all : ∀ c ∈ chars, (c == '\\') = true) :
      ∃ count, chars = List.replicate count '\\' :=
    ⟨_, List.eq_replicate_iff.mpr ⟨rfl, fun c mem => by simpa using all c mem⟩⟩
  obtain ⟨before, front⟩ := alike fun _ mem =>
    List.mem_takeWhile_imp (p := (· == '\\')) (l := path.toList) mem
  obtain ⟨after, back⟩ := alike fun _ mem =>
    List.mem_rtakeWhile_imp (p := (· == '\\')) (l := path.toList.dropWhile (· == '\\')) mem
  refine ⟨before, after, String.ext ?_⟩
  rw [backslashed, String.toList_ofList, ← front, ← back, toList_trimPath, List.append_assoc,
    List.rdropWhile_append_rtakeWhile, List.takeWhile_append_dropWhile]

/-! ### What folding forgets -/

theorem Recased.lower_eq {name other : String} (recased : Recased name other) :
    lower name = lower other := by
  cases recased with
  | lowered => exact (LowerCase.lower_lower name).symm
  | letters same => exact LowerCase.lower_eq_of_map_toLower_eq same

/-- Letters in other case are trimmed alike. -/
theorem foldPath_eq_of_letters {path other : String}
    (same : path.toList.map Char.toLower = other.toList.map Char.toLower) :
    foldPath path = foldPath other := by
  have backslash : (fun c : Char => c == '\\') ∘ Char.toLower = (· == '\\') := by
    funext c
    have stays : c.toLower = '\\' ↔ c = '\\' :=
      LowerCase.toLower_eq_iff (.inl (by decide)) (.inr (by decide))
    exact Bool.eq_iff_iff.mpr (by simpa using stays)
  have trimmed (path : String) : (trimPath path).toList.map Char.toLower =
      ((path.toList.map Char.toLower).dropWhile (· == '\\')).rdropWhile (· == '\\') := by
    rw [toList_trimPath, List.rdropWhile, List.rdropWhile, List.dropWhile_map, backslash,
      ← List.map_reverse, List.dropWhile_map, backslash, List.map_reverse]
  rw [foldPath, foldPath]
  apply LowerCase.lower_eq_of_map_toLower_eq
  rw [trimmed, trimmed, same]

theorem Respelled.foldPath_eq {path other : String} (respelled : Respelled path other) :
    foldPath path = foldPath other := by
  cases respelled with
  | recased recased =>
    cases recased with
    | lowered => rw [foldPath, foldPath, trimPath_lower, LowerCase.lower_lower]
    | letters same => exact foldPath_eq_of_letters same
  | backslashes before after => rw [foldPath, foldPath, trimPath_backslashed]

/-- Where no step changes the folding of a text, and steps lead from every text to its folding,
texts fold alike exactly where steps lead from one to the other. -/
theorem fold_eq_iff_eqvGen {step : String → String → Prop} {fold : String → String}
    (keeps : ∀ text other, step text other → fold text = fold other)
    (leads : ∀ text, EqvGen step text (fold text)) {text other : String} :
    fold text = fold other ↔ EqvGen step text other := by
  constructor
  · intro same
    have there := leads text
    rw [same] at there
    exact .trans _ _ _ there (.symm _ _ (leads other))
  · intro chain
    exact congrArg (Quot.lift fold keeps) (Quot.eqvGen_sound chain)

/-- Names fold alike where steps lead from one to the other. -/
theorem foldName_eq_iff {name other : String} :
    foldName name = foldName other ↔ EqvGen Recased name other :=
  fold_eq_iff_eqvGen (fun _ _ recased => recased.lower_eq) fun name => .rel _ _ (.lowered name)

/-- A path leads to its folding: its backslashes are taken away, then its capitals. -/
theorem eqvGen_foldPath (path : String) : EqvGen Respelled path (foldPath path) := by
  obtain ⟨before, after, whole⟩ := exists_backslashed path
  have trimmed : EqvGen Respelled path (trimPath path) := by
    refine .symm _ _ (.rel _ _ ?_)
    have step := Respelled.backslashes (trimPath path) before after
    rwa [← whole] at step
  exact .trans _ _ _ trimmed (.rel _ _ (.recased (.lowered _)))

theorem foldPath_eq_iff {path other : String} :
    foldPath path = foldPath other ↔ EqvGen Respelled path other :=
  fold_eq_iff_eqvGen (fun _ _ respelled => respelled.foldPath_eq) eqvGen_foldPath

/-! ### Lookups -/

/-- Paths that fold alike open the same keys, and others are told apart by a registry that
has a key at one of them alone. -/
theorem forall_openKey_eq_iff {path other : String} :
    (∀ (registry : Registry) (hive : Hive),
      registry.openKey hive path = registry.openKey hive other) ↔
      foldPath path = foldPath other := by
  constructor
  · intro alike
    by_contra differs
    have opens := alike (Registry.empty.addKey .localMachine path) .localMachine
    simp only [Registry.openKey, Registry.addKey, Registry.find?_modifyKey, true_and,
      if_neg (Ne.symm differs)] at opens
    cases opens
  · intro same registry hive
    rw [Registry.openKey, Registry.openKey, registry.find?_congr hive same]

theorem forall_queryValue_eq_iff {name other : String} :
    (∀ (values : NameMap Value) (maxBytes : UInt32),
      queryValue values name maxBytes = queryValue values other maxBytes) ↔
      foldName name = foldName other := by
  constructor
  · intro alike
    by_contra differs
    have alone : (NameMap.empty : NameMap Value).Alone foldName name := by
      intro e mem
      cases mem
    have answers := alike (NameMap.empty.insert name (.dword 0)) 4
    simp only [queryValue_eq, NameMap.folded_insert NameMap.distinct_empty alone,
      if_neg (Ne.symm differs)] at answers
    cases answers
  · intro same values maxBytes
    rw [queryValue_eq, queryValue_eq, same]

/-- **Lookups do not tell spellings apart.** Two paths open the same key of every registry,
with the same values or the same failure, exactly where one comes of the other by other case and
by backslashes at its ends; and two names are answered alike by every key, within every number
of bytes, exactly where one comes of the other by other case. -/
theorem lookups_ignore_spelling :
    (∀ path other : String, EqvGen Respelled path other ↔
      ∀ (registry : Registry) (hive : Hive),
        registry.openKey hive path = registry.openKey hive other) ∧
    ∀ name other : String, EqvGen Recased name other ↔
      ∀ (values : NameMap Value) (maxBytes : UInt32),
        queryValue values name maxBytes = queryValue values other maxBytes :=
  ⟨fun _ _ => foldPath_eq_iff.symm.trans forall_openKey_eq_iff.symm,
    fun _ _ => foldName_eq_iff.symm.trans forall_queryValue_eq_iff.symm⟩

end RuntimeLocator
