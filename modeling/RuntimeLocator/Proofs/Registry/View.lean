/-
Registries as maps of folded paths and names.

A `RegistryView` has no spellings: it is a function from a hive and a folded path to a
key, and a key is a function from folded names to values. A registry in which no two
paths of a hive and no two names of a key fold alike is such a view (`Registry.view`),
and every change acts on the view alone (`view_apply`). Registries that are made from the
empty one by changes never have two spellings and have the view that the changes make
(`view_registryAfter`), so they answer as it does (`registry_refines_view`).
-/

import RuntimeLocator.Lookup.Store
import RuntimeLocator.Proofs.Registry.NameMap
import RuntimeLocator.Proofs.Registry.Spelling
import RuntimeLocator.Session

namespace RuntimeLocator

open Session (Change)

/-! ### Views -/

/-- A value that is read into so many bytes. A size beyond 32 bits is reported as the
largest number of 32 bits. -/
def Value.within (value : Value) (maxBytes : UInt32) : Except StoreFailure Value :=
  if value.storedSize ≤ maxBytes.toNat then .ok value
  else .error (.moreData (UInt32.ofNatClamp value.storedSize) maxBytes)

/-- A key without spellings. -/
structure KeyView where
  denied : Bool
  values : String → Option Value

namespace KeyView

def empty : KeyView := ⟨false, fun _ => none⟩

def setValue (key : KeyView) (folded : String) (value : Value) : KeyView :=
  { key with values := fun name => if name = folded then some value else key.values name }

def deny (key : KeyView) : KeyView :=
  { key with denied := true }

/-- What an open key answers for a name in any spelling. -/
def query (key : KeyView) (name : String) (maxBytes : UInt32) : Except StoreFailure Value :=
  match key.values (foldName name) with
  | none => .error .notFound
  | some value => value.within maxBytes

end KeyView

/-- A registry without spellings: keys by hive and folded path. -/
abbrev RegistryView := Hive → String → Option KeyView

namespace RegistryView

def empty : RegistryView := fun _ _ => none

/-- Changes one key, which is empty before if it is not there. -/
def modify (view : RegistryView) (hive : Hive) (folded : String) (change : KeyView → KeyView) :
    RegistryView :=
  fun other path =>
    if other = hive ∧ path = folded then some (change ((view other path).getD .empty))
    else view other path

/-- What a change does to the folded path and name that it is about. -/
def apply (view : RegistryView) : Change → RegistryView
  | .addKey hive path => view.modify hive (foldPath path) id
  | .setValue hive path name value =>
    view.modify hive (foldPath path) (·.setValue (foldName name) value)
  | .setString hive path name text =>
    view.modify hive (foldPath path) (·.setValue (foldName name) (.string text))
  | .denyAccess hive path => view.modify hive (foldPath path) KeyView.deny

/-- Opens a key by a path in any spelling. -/
def openKey (view : RegistryView) (hive : Hive) (path : String) : Except StoreFailure OpenKey :=
  match view hive (foldPath path) with
  | none => .error .notFound
  | some key => if key.denied then .error .accessDenied else .ok key.query

end RegistryView

/-- The view that some changes make, in order, of an empty one. -/
def viewAfter (changes : List Change) : RegistryView :=
  changes.foldl RegistryView.apply .empty

/-- The registry that some changes make, in order, of an empty one. -/
def registryAfter (changes : List Change) : Registry :=
  changes.foldl (fun registry change => change.apply registry) .empty

/-! ### The view of a registry -/

theorem ofNat_min_eq_ofNatClamp (n : Nat) :
    UInt32.ofNat (min n (UInt32.size - 1)) = UInt32.ofNatClamp n := by
  apply UInt32.toNat_inj.mp
  unfold UInt32.ofNatClamp
  split
  · rename_i fits
    rw [Nat.min_eq_left (Nat.le_sub_one_of_lt fits), UInt32.toNat_ofNat_of_lt' fits]
    rfl
  · rename_i large
    rw [Nat.min_eq_right (Nat.le_trans (Nat.sub_le _ _) (Nat.not_lt.mp large))]
    rfl

theorem toNat_ofNatClamp (n : Nat) : (UInt32.ofNatClamp n).toNat = min n 4294967295 := by
  rw [← ofNat_min_eq_ofNatClamp, UInt32.toNat_ofNat_of_lt']
  · rfl
  · exact Nat.lt_of_le_of_lt (Nat.min_le_right _ _) (by decide)

/-- A query finds a value by its folded name, and gives it within the bytes offered. -/
theorem queryValue_eq (values : NameMap Value) (name : String) (maxBytes : UInt32) :
    queryValue values name maxBytes =
      match values.folded foldName (foldName name) with
      | none => .error .notFound
      | some value => value.within maxBytes := by
  have found : values.firstValue? (sameName · name) = values.folded foldName (foldName name) := rfl
  rw [queryValue, found]
  cases values.folded foldName (foldName name) with
  | none => rfl
  | some value =>
    simp only [Value.within, ← ofNat_min_eq_ofNatClamp]
    by_cases fits : value.storedSize ≤ maxBytes.toNat
    · rw [if_pos fits, if_neg (Nat.not_lt.mpr fits)]
    · rw [if_neg fits, if_pos (Nat.not_le.mp fits)]

def Key.view (key : Key) : KeyView :=
  ⟨key.accessDenied, key.values.folded foldName⟩

namespace Registry

/-- The keys of a hive; there are none in a hive that was never mentioned. -/
def keys (registry : Registry) (hive : Hive) : NameMap Key :=
  (registry.keys? hive).getD .empty

def view (registry : Registry) : RegistryView :=
  fun hive path => ((registry.keys hive).folded foldPath path).map Key.view

theorem view_empty : Registry.empty.view = RegistryView.empty := by
  funext hive path
  cases hive <;> rfl

theorem find?_eq (registry : Registry) (hive : Hive) (path : String) :
    registry.find? hive path = (registry.keys hive).folded foldPath (foldPath path) := by
  unfold find? keys
  cases registry.keys? hive <;> rfl

/-- The same key is found under every spelling of a path. -/
theorem find?_congr (registry : Registry) (hive : Hive) {path other : String}
    (same : foldPath other = foldPath path) :
    registry.find? hive other = registry.find? hive path := by
  rw [find?_eq, find?_eq, same]

/-- A registry answers as its view does. -/
theorem openKey_ofRegistry (registry : Registry) (hive : Hive) (path : String) :
    (Store.ofRegistry registry).openKey hive path = registry.view.openKey hive path := by
  simp only [Store.ofRegistry, Registry.openKey, RegistryView.openKey, view, find?_eq]
  cases (registry.keys hive).folded foldPath (foldPath path) with
  | none => rfl
  | some key =>
    have answers : queryValue key.values = key.view.query := by
      funext name maxBytes
      exact queryValue_eq key.values name maxBytes
    have access : key.view.denied = key.accessDenied := rfl
    cases denied : key.accessDenied with
    | true => simp [access, denied, Except.map]
    | false => simp [access, denied, answers, Except.map]

/-! ### Changes keep spellings apart -/

/-- No two paths of a hive fold alike, and no two names of a key. -/
structure Unambiguous (registry : Registry) : Prop where
  paths : ∀ hive, (registry.keys hive).Distinct foldPath
  names : ∀ hive, ∀ e ∈ (registry.keys hive).entries, e.2.values.Distinct foldName

theorem unambiguous_empty : Registry.empty.Unambiguous where
  paths hive := by cases hive <;> exact NameMap.distinct_empty
  names hive e mem := by cases hive <;> cases mem

theorem keys_setKeys (registry : Registry) (hive other : Hive) (keys : NameMap Key) :
    (registry.setKeys hive keys).keys other =
      if other = hive then keys else registry.keys other := by
  cases hive <;> cases other <;> rfl

/-- The name of the key at a path: the one that is there, or else the trimmed path. -/
def spelling (registry : Registry) (hive : Hive) (path : String) : String :=
  ((registry.keys hive).firstName? (foldPath · == foldPath path)).getD (trimPath path)

/-- The key at a path, or else an empty one. -/
def keyAt (registry : Registry) (hive : Hive) (path : String) : Key :=
  ((registry.keys hive).get? (registry.spelling hive path)).getD .empty

theorem modifyKey_eq (registry : Registry) (hive : Hive) (path : String) (change : Key → Key) :
    registry.modifyKey hive path change =
      registry.setKeys hive ((registry.keys hive).insert (registry.spelling hive path)
        (change (registry.keyAt hive path))) := rfl

@[simp] theorem foldPath_spelling (registry : Registry) (hive : Hive) (path : String) :
    foldPath (registry.spelling hive path) = foldPath path := by
  unfold spelling
  cases first : (registry.keys hive).firstName? (foldPath · == foldPath path) with
  | none => exact foldPath_trimPath path
  | some name => exact (NameMap.firstName?_eq_some first).1

section Modify

variable {registry : Registry}

theorem alone_spelling (unambiguous : registry.Unambiguous) (hive : Hive) (path : String) :
    (registry.keys hive).Alone foldPath (registry.spelling hive path) := by
  intro e mem same
  rw [foldPath_spelling] at same
  unfold spelling
  cases first : (registry.keys hive).firstName? (foldPath · == foldPath path) with
  | none => exact absurd same (NameMap.firstName?_eq_none first e mem)
  | some name =>
    obtain ⟨folds, key, present⟩ := NameMap.firstName?_eq_some first
    exact unambiguous.paths hive e mem _ present (same.trans folds.symm)

theorem get?_spelling (unambiguous : registry.Unambiguous) (hive : Hive) (path : String) :
    (registry.keys hive).get? (registry.spelling hive path) =
      (registry.keys hive).folded foldPath (foldPath path) := by
  rw [NameMap.get?_eq_folded (unambiguous.paths hive) (alone_spelling unambiguous hive path),
    foldPath_spelling]

/-- The key that a change is about is what the view holds at the folded path. -/
theorem view_keyAt (unambiguous : registry.Unambiguous) (hive : Hive) (path : String) :
    (registry.keyAt hive path).view = (registry.view hive (foldPath path)).getD .empty := by
  rw [keyAt, view, get?_spelling unambiguous]
  cases (registry.keys hive).folded foldPath (foldPath path) <;> rfl

theorem distinct_keyAt (unambiguous : registry.Unambiguous) (hive : Hive) (path : String) :
    (registry.keyAt hive path).values.Distinct foldName := by
  unfold keyAt
  cases found : (registry.keys hive).get? (registry.spelling hive path) with
  | none => exact NameMap.distinct_empty
  | some key => exact unambiguous.names hive _ (NameMap.get?_eq_some_iff.mp found)

/-- Changing a key changes the view at its folded path alone. -/
theorem view_modifyKey (unambiguous : registry.Unambiguous) (hive : Hive) (path : String)
    {change : Key → Key} {changeView : KeyView → KeyView}
    (agree : ∀ key : Key, key.values.Distinct foldName →
      (change key).view = changeView key.view) :
    (registry.modifyKey hive path change).view =
      registry.view.modify hive (foldPath path) changeView := by
  funext other folded
  simp only [view, modifyKey_eq, keys_setKeys, RegistryView.modify]
  by_cases here : other = hive
  · subst here
    rw [if_pos rfl, NameMap.folded_insert (unambiguous.paths other)
      (alone_spelling unambiguous other path), foldPath_spelling]
    by_cases same : folded = foldPath path
    · subst same
      rw [if_pos rfl, if_pos ⟨rfl, rfl⟩, Option.map_some,
        agree _ (distinct_keyAt unambiguous other path), view_keyAt unambiguous]
      rfl
    · rw [if_neg same, if_neg fun both => same both.2]
  · rw [if_neg here, if_neg fun both => here both.1]

theorem unambiguous_modifyKey (unambiguous : registry.Unambiguous) (hive : Hive)
    (path : String) {change : Key → Key}
    (keeps : ∀ key : Key, key.values.Distinct foldName → (change key).values.Distinct foldName) :
    (registry.modifyKey hive path change).Unambiguous where
  paths other := by
    rw [modifyKey_eq, keys_setKeys]
    split
    · exact NameMap.distinct_insert (unambiguous.paths hive)
        (alone_spelling unambiguous hive path)
    · exact unambiguous.paths other
  names other e mem := by
    rw [modifyKey_eq, keys_setKeys] at mem
    split at mem
    · rcases NameMap.mem_insert.mp mem with rfl | ⟨mem, -⟩
      · exact keeps _ (distinct_keyAt unambiguous hive path)
      · exact unambiguous.names hive e mem
    · exact unambiguous.names other e mem

end Modify

end Registry

/-! ### Values of a key -/

theorem Key.values_setValue (key : Key) (name : String) (value : Value) :
    (key.setValue name value).values =
      (key.values.eraseFolded foldName (foldName name)).insert name value := rfl

theorem Key.distinct_setValue {key : Key} (distinct : key.values.Distinct foldName)
    (name : String) (value : Value) : (key.setValue name value).values.Distinct foldName := by
  rw [values_setValue]
  exact NameMap.distinct_insert (NameMap.distinct_eraseFolded distinct)
    (NameMap.alone_eraseFolded distinct)

theorem Key.view_setValue {key : Key} (distinct : key.values.Distinct foldName)
    (name : String) (value : Value) :
    (key.setValue name value).view = key.view.setValue (foldName name) value := by
  have values : (key.setValue name value).values.folded foldName =
      fun folded =>
        if folded = foldName name then some value else key.values.folded foldName folded := by
    funext folded
    rw [values_setValue, NameMap.folded_replace distinct]
  exact congrArg (KeyView.mk key.accessDenied) values

theorem Registry.unambiguous_setValue {registry : Registry}
    (unambiguous : registry.Unambiguous) (hive : Hive) (path name : String) (value : Value) :
    (registry.setValue hive path name value).Unambiguous := by
  refine unambiguous_modifyKey unambiguous hive path ?_
  intro key distinct
  exact Key.distinct_setValue distinct name value

theorem Registry.view_setValue {registry : Registry} (unambiguous : registry.Unambiguous)
    (hive : Hive) (path name : String) (value : Value) :
    (registry.setValue hive path name value).view =
      registry.view.modify hive (foldPath path) (·.setValue (foldName name) value) := by
  refine view_modifyKey unambiguous hive path ?_
  intro key distinct
  exact Key.view_setValue distinct name value

/-! ### Steps and runs -/

/-- One change keeps spellings apart. -/
theorem unambiguous_apply {registry : Registry} (unambiguous : registry.Unambiguous)
    (change : Change) : (change.apply registry).Unambiguous := by
  cases change with
  | addKey hive path =>
    exact Registry.unambiguous_modifyKey unambiguous hive path fun _ distinct => distinct
  | setValue hive path name value =>
    exact Registry.unambiguous_setValue unambiguous hive path name value
  | setString hive path name text =>
    exact Registry.unambiguous_setValue unambiguous hive path name (.string text)
  | denyAccess hive path =>
    simp only [Change.apply, Registry.denyAccess]
    refine Registry.unambiguous_modifyKey unambiguous hive path ?_
    exact fun key distinct => distinct

/-- One change acts on the view alone. -/
theorem view_apply {registry : Registry} (unambiguous : registry.Unambiguous)
    (change : Change) : (change.apply registry).view = registry.view.apply change := by
  cases change with
  | addKey hive path => exact Registry.view_modifyKey unambiguous hive path fun _ _ => rfl
  | setValue hive path name value =>
    exact Registry.view_setValue unambiguous hive path name value
  | setString hive path name text =>
    exact Registry.view_setValue unambiguous hive path name (.string text)
  | denyAccess hive path => exact Registry.view_modifyKey unambiguous hive path fun _ _ => rfl

theorem view_foldl (changes : List Change) {registry : Registry}
    (unambiguous : registry.Unambiguous) :
    (changes.foldl (fun registry change => change.apply registry) registry).Unambiguous ∧
      (changes.foldl (fun registry change => change.apply registry) registry).view =
        changes.foldl RegistryView.apply registry.view := by
  induction changes generalizing registry with
  | nil => exact ⟨unambiguous, rfl⟩
  | cons change changes ih =>
    rw [List.foldl_cons, List.foldl_cons, ← view_apply unambiguous change]
    exact ih (unambiguous_apply unambiguous change)

/-- A registry that changes made of the empty one has the view that they make. -/
theorem view_registryAfter (changes : List Change) :
    (registryAfter changes).Unambiguous ∧ (registryAfter changes).view = viewAfter changes := by
  have run := view_foldl changes Registry.unambiguous_empty
  rwa [Registry.view_empty] at run

/-! ### Answers of a registry -/

/-- What a store answers to one who opens a key and asks it for a value. -/
def Store.ask (store : Store) (hive : Hive) (path name : String) (maxBytes : UInt32) :
    Except StoreFailure Value :=
  (store.openKey hive path).bind fun key => key name maxBytes

theorem ask_ofRegistry (registry : Registry) (hive : Hive) (path name : String)
    (maxBytes : UInt32) :
    (Store.ofRegistry registry).ask hive path name maxBytes =
      match registry.view hive (foldPath path) with
      | none => .error .notFound
      | some key => if key.denied then .error .accessDenied else key.query name maxBytes := by
  rw [Store.ask, Registry.openKey_ofRegistry, RegistryView.openKey]
  cases registry.view hive (foldPath path) with
  | none => rfl
  | some key => cases denied : key.denied <;> simp [denied, Except.bind]

/-- A value that was just given is the answer under every spelling, unless the key is
denied, and it changes no other answer. -/
theorem ask_setValue {registry : Registry} (unambiguous : registry.Unambiguous)
    (hive asked : Hive) (path name other title : String) (value : Value) (maxBytes : UInt32) :
    (Store.ofRegistry (registry.setValue hive path name value)).ask asked other title maxBytes =
      if asked = hive ∧ foldPath other = foldPath path ∧ foldName title = foldName name then
        if (registry.view hive (foldPath path)).any KeyView.denied then .error .accessDenied
        else value.within maxBytes
      else (Store.ofRegistry registry).ask asked other title maxBytes := by
  rw [ask_ofRegistry, ask_ofRegistry, Registry.view_setValue unambiguous, RegistryView.modify]
  by_cases place : asked = hive ∧ foldPath other = foldPath path
  · obtain ⟨rfl, same⟩ := place
    rw [if_pos ⟨rfl, same⟩, same]
    by_cases named : foldName title = foldName name
    · rw [if_pos ⟨rfl, rfl, named⟩]
      cases registry.view asked (foldPath path) with
      | none => simp [KeyView.setValue, KeyView.query, KeyView.empty, named]
      | some key => simp [KeyView.setValue, KeyView.query, named]
    · rw [if_neg fun all => named all.2.2]
      cases registry.view asked (foldPath path) with
      | none => simp [KeyView.setValue, KeyView.query, KeyView.empty, named]
      | some key => simp [KeyView.setValue, KeyView.query, named]
  · rw [if_neg place, if_neg fun all => place ⟨all.1, all.2.1⟩]

/-- **A registry in memory is a map of folded paths and names.** However it was made of the
empty one, it opens keys and answers queries as the map that the same changes make, under
every spelling. So a value is the answer from when it is given until another is given to
the same folded name, and no other answer changes with it. -/
theorem registry_refines_view (changes : List Change) (hive : Hive) (path : String) :
    (Store.ofRegistry (registryAfter changes)).openKey hive path =
      (viewAfter changes).openKey hive path ∧
    ∀ (asked : Hive) (name other title : String) (value : Value) (maxBytes : UInt32),
      (Store.ofRegistry (registryAfter (changes ++ [.setValue hive path name value]))).ask
          asked other title maxBytes =
        if asked = hive ∧ foldPath other = foldPath path ∧ foldName title = foldName name then
          if (viewAfter changes hive (foldPath path)).any KeyView.denied then .error .accessDenied
          else value.within maxBytes
        else (Store.ofRegistry (registryAfter changes)).ask asked other title maxBytes := by
  obtain ⟨unambiguous, view⟩ := view_registryAfter changes
  constructor
  · rw [Registry.openKey_ofRegistry, view]
  · intro asked name other title value maxBytes
    have last : registryAfter (changes ++ [.setValue hive path name value]) =
        (registryAfter changes).setValue hive path name value := by
      rw [registryAfter, List.foldl_append]
      rfl
    rw [last, ask_setValue unambiguous, view]

end RuntimeLocator
