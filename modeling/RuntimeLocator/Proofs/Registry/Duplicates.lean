/-
Spellings that come and go when a registry is changed.

A map keeps every spelling that it is given, so nothing in it holds two spellings of one folded
name apart. The changes do: a key is put under the spelling that is there already, and a value
takes the place of one of its spellings before it is put in (`length_spellings_replace_le`). So no
change makes a duplicate where there was none, and none adds to those that a snapshot brought
along (`NoNewDuplicate`). That is a preorder on registries, and what holds of one change
(`noNewDuplicate_apply`) holds of any number of them.
-/

import Mathlib.Data.List.Sort
import RuntimeLocator.Proofs.Registry.Commuting

namespace RuntimeLocator

open Session (Change)

/-! ### Spellings of a name map -/

namespace NameMap

variable {α : Type} {fold : String → String} {m : NameMap α} {name other key gone : String}
  {value : α}

/-- The names that fold to `key`, in order. -/
def spellings (fold : String → String) (m : NameMap α) (key : String) : List String :=
  m.names.filter (fold · == key)

theorem spellings_eq_map_alike (fold : String → String) (m : NameMap α) (key : String) :
    m.spellings fold key = (m.alike fold key).map (·.1) := by
  rw [spellings, names, List.filter_map]
  rfl

theorem mem_names_insert :
    other ∈ (m.insert name value).names ↔ other = name ∨ other ∈ m.names := by
  simp only [names, List.mem_map, mem_insert]
  constructor
  · rintro ⟨e, rfl | ⟨mem, -⟩, rfl⟩
    · exact .inl rfl
    · exact .inr ⟨e, mem, rfl⟩
  · rintro (rfl | ⟨e, mem, rfl⟩)
    · exact ⟨_, .inl rfl, rfl⟩
    · by_cases here : e.1 = name
      · exact ⟨_, .inl rfl, here.symm⟩
      · exact ⟨e, .inr ⟨mem, here⟩, rfl⟩

/-- A value for a name that is there changes no name. -/
theorem names_insert_of_mem (mem : name ∈ m.names) : (m.insert name value).names = m.names := by
  have ascending (m : NameMap α) : m.names.Pairwise (· < ·) := List.pairwise_map.mpr m.ascending
  refine (ascending _).eq_of_mem_iff (ascending m) fun other => ?_
  rw [mem_names_insert]
  exact or_iff_right_of_imp fun here => here ▸ mem

theorem get?_insert :
    (m.insert name value).get? other = if other = name then some value else m.get? other := by
  ext found
  rw [get?_eq_some_iff, mem_insert]
  split
  · rename_i here
    subst here
    simp [eq_comm]
  · rename_i elsewhere
    simp [elsewhere, get?_eq_some_iff]

theorem length_insertEntry_le (name : String) (value : α) (entries : List (String × α)) :
    (insertEntry name value entries).length ≤ entries.length + 1 := by
  induction entries with
  | nil => exact Nat.le_refl 1
  | cons entry rest ih =>
    rw [insertEntry]
    split
    · exact Nat.le_refl _
    · split
      · exact Nat.le_succ _
      · exact Nat.succ_le_succ ih

theorem spellings_insert_of_ne (differ : key ≠ fold name) :
    (m.insert name value).spellings fold key = m.spellings fold key := by
  rw [spellings_eq_map_alike, spellings_eq_map_alike, alike_insert_of_ne differ]

theorem length_spellings_insert_le (fold : String → String) (m : NameMap α) (name : String)
    (value : α) (key : String) :
    ((m.insert name value).spellings fold key).length ≤ (m.spellings fold key).length + 1 := by
  by_cases here : key = fold name
  · subst here
    simp only [spellings_eq_map_alike, List.length_map, alike_insert]
    exact length_insertEntry_le name value _
  · rw [spellings_insert_of_ne here]
    exact Nat.le_succ _

theorem spellings_eraseFolded (fold : String → String) (m : NameMap α) (key : String) :
    (m.eraseFolded fold key).spellings fold key = (m.spellings fold key).tail := by
  rw [spellings_eq_map_alike, spellings_eq_map_alike, alike_eraseFolded, List.map_tail]

theorem spellings_eraseFolded_of_ne (differ : key ≠ gone) :
    (m.eraseFolded fold gone).spellings fold key = m.spellings fold key := by
  rw [spellings_eq_map_alike, spellings_eq_map_alike, alike_eraseFolded_of_ne differ]

/-- One spelling gives way before the new one comes, so there are no more of them than before,
unless there were none. -/
theorem length_spellings_replace_le (fold : String → String) (m : NameMap α) (name : String)
    (value : α) (key : String) :
    (((m.eraseFolded fold (fold name)).insert name value).spellings fold key).length ≤
      max 1 (m.spellings fold key).length := by
  by_cases here : key = fold name
  · subst here
    calc _
      _ ≤ ((m.eraseFolded fold (fold name)).spellings fold (fold name)).length + 1 :=
        length_spellings_insert_le ..
      _ = (m.spellings fold (fold name)).length - 1 + 1 := by
        rw [spellings_eraseFolded, List.length_tail]
      _ ≤ max 1 (m.spellings fold (fold name)).length := by omega
  · rw [spellings_insert_of_ne here, spellings_eraseFolded_of_ne here]
    exact Nat.le_max_right _ _

/-- A name that is there, or that folds like none, adds no spelling to those of its folding. -/
theorem length_spellings_insert_le_max
    (apart : name ∈ m.names ∨ ∀ other ∈ m.names, fold other ≠ fold name) (key : String) :
    ((m.insert name value).spellings fold key).length ≤ max 1 (m.spellings fold key).length := by
  rcases apart with present | absent
  · rw [spellings, spellings, names_insert_of_mem present]
    exact Nat.le_max_right _ _
  · by_cases here : key = fold name
    · subst here
      have none : m.spellings fold (fold name) = [] := by
        rw [spellings, List.filter_eq_nil_iff]
        intro other mem
        simpa using absent other mem
      have one := length_spellings_insert_le fold m name value (fold name)
      rw [none, List.length_nil] at one
      exact Nat.le_trans one (Nat.le_max_left _ _)
    · rw [spellings_insert_of_ne here]
      exact Nat.le_max_right _ _

end NameMap

/-! ### Spellings of a registry -/

namespace Registry

variable {registry before after later : Registry} {hive changed : Hive} {path name : String}
  {change : Key → Key}

/-- The values of the key that is stored under a path in exactly this spelling; a key that is not
there has none. -/
def storedValues (registry : Registry) (hive : Hive) (name : String) : NameMap Value :=
  (((registry.keys hive).get? name).getD .empty).values

/-- A registry holds all keys of another under their spellings, and no duplicate that the other
does not hold: a folded path or name has no more spellings than before, unless it had none. -/
structure NoNewDuplicate (before after : Registry) : Prop where
  kept : ∀ hive, ∀ name ∈ (before.keys hive).names, name ∈ (after.keys hive).names
  added : ∀ hive, ∀ name ∈ (after.keys hive).names, name ∉ (before.keys hive).names →
    ∀ other ∈ (before.keys hive).names, foldPath other ≠ foldPath name
  paths : ∀ hive folded, ((after.keys hive).spellings foldPath folded).length ≤
    max 1 ((before.keys hive).spellings foldPath folded).length
  names : ∀ hive name folded, ((after.storedValues hive name).spellings foldName folded).length ≤
    max 1 ((before.storedValues hive name).spellings foldName folded).length

namespace NoNewDuplicate

theorem refl (registry : Registry) : registry.NoNewDuplicate registry where
  kept _ _ mem := mem
  added _ _ mem absent := absurd mem absent
  paths _ _ := Nat.le_max_right _ _
  names _ _ _ := Nat.le_max_right _ _

theorem trans (first : before.NoNewDuplicate after) (second : after.NoNewDuplicate later) :
    before.NoNewDuplicate later where
  kept hive name mem := second.kept hive name (first.kept hive name mem)
  added hive name mem absent other present := by
    -- A key that came later came where none of those in between was, the first ones among them.
    by_cases between : name ∈ (after.keys hive).names
    · exact first.added hive name between absent other present
    · exact second.added hive name mem between other (first.kept hive other present)
  paths hive folded := by
    have one := first.paths hive folded
    have two := second.paths hive folded
    omega
  names hive name folded := by
    have one := first.names hive name folded
    have two := second.names hive name folded
    omega

end NoNewDuplicate

/-- A change is about a path that is stored, or about one that folds like none that is. -/
theorem spelling_apart (registry : Registry) (hive : Hive) (path : String) :
    registry.spelling hive path ∈ (registry.keys hive).names ∨
      ∀ other ∈ (registry.keys hive).names,
        foldPath other ≠ foldPath (registry.spelling hive path) := by
  rw [foldPath_spelling, spelling]
  cases first : (registry.keys hive).firstName? (foldPath · == foldPath path) with
  | none =>
    right
    intro other mem
    obtain ⟨e, present, rfl⟩ := List.mem_map.mp mem
    exact NameMap.firstName?_eq_none first e present
  | some name =>
    obtain ⟨-, key, present⟩ := NameMap.firstName?_eq_some first
    exact .inl (List.mem_map.mpr ⟨_, present, rfl⟩)

theorem storedValues_modifyKey :
    (registry.modifyKey hive path change).storedValues changed name =
      if changed = hive ∧ name = registry.spelling hive path then
        (change (registry.keyAt hive path)).values
      else registry.storedValues changed name := by
  rw [storedValues, modifyKey_eq, keys_setKeys]
  by_cases here : changed = hive
  · subst here
    rw [if_pos rfl, NameMap.get?_insert]
    by_cases spelled : name = registry.spelling changed path
    · rw [if_pos spelled, if_pos ⟨rfl, spelled⟩, Option.getD_some]
    · rw [if_neg spelled, if_neg fun both => spelled both.2]
      rfl
  · rw [if_neg here, if_neg fun both => here both.1]
    rfl

/-- Changing a key makes no duplicate if the change makes none among its values. -/
theorem noNewDuplicate_modifyKey (hive : Hive) (path : String)
    (keeps : ∀ (key : Key) (folded : String),
      ((change key).values.spellings foldName folded).length ≤
        max 1 (key.values.spellings foldName folded).length) :
    registry.NoNewDuplicate (registry.modifyKey hive path change) where
  kept changed name mem := by
    rw [modifyKey_eq, keys_setKeys]
    split
    · rename_i here
      subst here
      exact NameMap.mem_names_insert.mpr (.inr mem)
    · exact mem
  added changed name mem absent other present := by
    rw [modifyKey_eq, keys_setKeys] at mem
    split at mem
    · rename_i here
      subst here
      rcases NameMap.mem_names_insert.mp mem with rfl | before
      · exact (registry.spelling_apart changed path).resolve_left absent other present
      · exact absurd before absent
    · exact absurd mem absent
  paths changed folded := by
    rw [modifyKey_eq, keys_setKeys]
    split
    · rename_i here
      subst here
      exact NameMap.length_spellings_insert_le_max (registry.spelling_apart changed path) folded
    · exact Nat.le_max_right _ _
  names changed name folded := by
    rw [storedValues_modifyKey]
    split
    · rename_i here
      obtain ⟨rfl, rfl⟩ := here
      exact keeps (registry.keyAt changed path) folded
    · exact Nat.le_max_right _ _

end Registry

/-! ### Changes -/

theorem Session.Change.length_spellings_onKey_le (change : Change) (key : Key) (folded : String) :
    ((change.onKey key).values.spellings foldName folded).length ≤
      max 1 (key.values.spellings foldName folded).length := by
  cases change with
  | addKey hive path => exact Nat.le_max_right _ _
  | setValue hive path name value => exact NameMap.length_spellings_replace_le foldName ..
  | setString hive path name text => exact NameMap.length_spellings_replace_le foldName ..
  | denyAccess hive path => exact Nat.le_max_right _ _

theorem noNewDuplicate_apply (registry : Registry) (change : Change) :
    registry.NoNewDuplicate (change.apply registry) := by
  rw [Change.apply_eq]
  exact Registry.noNewDuplicate_modifyKey _ _ change.length_spellings_onKey_le

theorem noNewDuplicate_foldl (registry : Registry) (changes : List Change) :
    registry.NoNewDuplicate
      (changes.foldl (fun registry change => change.apply registry) registry) := by
  induction changes generalizing registry with
  | nil => exact .refl registry
  | cons change changes ih => exact (noNewDuplicate_apply registry change).trans (ih _)

/-- **No change makes a duplicate.** The empty registry has none, and a registry without any has
none after any changes. Whatever a registry holds, its keys stay under their spellings; a key comes
only where none is stored whose path folds alike; and neither the keys of a hive nor the values of
a key come to have more spellings of one folded path or name than before, unless there were none:
then there is one at most. -/
theorem changes_make_no_duplicate :
    Registry.empty.Unambiguous ∧
    ∀ (registry : Registry) (changes : List Change),
      let after := changes.foldl (fun registry change => change.apply registry) registry
      (registry.Unambiguous → after.Unambiguous) ∧ registry.NoNewDuplicate after := by
  refine ⟨Registry.unambiguous_empty, fun registry changes => ⟨fun unambiguous => ?_, ?_⟩⟩
  · exact (view_foldl changes unambiguous).1
  · exact noNewDuplicate_foldl registry changes

/-- Three spellings of one name are given in a key that holds two of them. -/
theorem changes_make_no_duplicate_spelledTwice :
    let changes : List Change := [.setString .localMachine "k" "aa" "new",
      .setString .localMachine "K\\" "Aa" "newer", .denyAccess .currentUser "\\k",
      .setValue .localMachine "K" "aA" (.dword 7)]
    let after (registry : Registry) :=
      changes.foldl (fun registry change => change.apply registry) registry
    Registry.empty.Unambiguous ∧ (after .empty).Unambiguous ∧
      "K" ∈ (spelledTwice.keys .localMachine).names ∧
      "K" ∈ ((after spelledTwice).keys .localMachine).names ∧
      (spelledTwice.storedValues .localMachine "K").spellings foldName "aa" = ["AA", "Aa"] ∧
      (((after spelledTwice).storedValues .localMachine "K").spellings foldName "aa").length ≤
        2 := by
  intro changes after
  obtain ⟨none, keeps⟩ := changes_make_no_duplicate
  have stored : "K" ∈ (spelledTwice.keys .localMachine).names := List.mem_singleton.mpr rfl
  have twice : (spelledTwice.storedValues .localMachine "K").spellings foldName "aa" =
      ["AA", "Aa"] := by decide +kernel
  obtain ⟨-, noMore⟩ := keeps spelledTwice changes
  have count := noMore.names .localMachine "K" "aa"
  rw [twice] at count
  exact ⟨none, (keeps .empty changes).1 none, stored, noMore.kept _ _ stored, twice, count⟩

end RuntimeLocator
