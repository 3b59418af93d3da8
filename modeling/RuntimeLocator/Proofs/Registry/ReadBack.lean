/-
Reading a value back after it was given, in any registry.

A snapshot may hold several paths of a hive, and several names of a key, that fold alike.
A change is then about the first path of them, which is also the one that is found
(`find?_modifyKey`). A value takes the place of the first name only: when a second one
stands before the new spelling, the value of that one is the answer (`ask_setValue_eq`). So
a value is read back exactly where no other value stays ahead of it
(`ask_setValue_eq_ok_iff`), and there are snapshots in which it is not
(`ask_setValue_older_spelling`).
-/

import RuntimeLocator.Proofs.Registry.Alike
import RuntimeLocator.Proofs.Registry.Snapshot
import RuntimeLocator.Proofs.Registry.View

namespace RuntimeLocator

/-! ### The key that a change is about -/

namespace Registry

variable (registry : Registry) (hive : Hive) (path : String)

/-- The key that is found at a path, or else an empty one. -/
def foundKey : Key :=
  (registry.find? hive path).getD .empty

/-- The name under which a change stores its key is the first that folds like its path. -/
theorem first_spelling :
    ∀ e ∈ ((registry.keys hive).alike foldPath (foldPath path)).head?,
      e.1 = registry.spelling hive path := by
  intro e first
  rw [spelling, NameMap.firstName?_eq_head?, first]
  rfl

/-- A change starts from the key that is found at its path. -/
theorem keyAt_eq : registry.keyAt hive path = registry.foundKey hive path := by
  rw [foundKey, find?_eq, NameMap.folded_eq_head?, keyAt]
  have first := first_spelling registry hive path
  cases spelled : (registry.keys hive).alike foldPath (foldPath path) with
  | nil =>
    have absent : (registry.keys hive).get? (registry.spelling hive path) = none := by
      refine Option.eq_none_iff_forall_ne_some.mpr fun key present => ?_
      have among := NameMap.mem_alike.mpr
        ⟨NameMap.get?_eq_some_iff.mp present, foldPath_spelling registry hive path⟩
      rw [spelled] at among
      cases among
    rw [absent]
    rfl
  | cons e rest =>
    have among : e ∈ (registry.keys hive).alike foldPath (foldPath path) :=
      spelled ▸ List.mem_cons_self
    have same : e.1 = registry.spelling hive path := first e (by rw [spelled]; rfl)
    have present : (registry.keys hive).get? (registry.spelling hive path) = some e.2 :=
      NameMap.get?_eq_some_iff.mpr (same ▸ (NameMap.mem_alike.mp among).1)
    rw [present]
    rfl

/-- A change is seen at every path that folds like its own, and nowhere else. -/
theorem find?_modifyKey (change : Key → Key) (asked : Hive) (other : String) :
    (registry.modifyKey hive path change).find? asked other =
      if asked = hive ∧ foldPath other = foldPath path then
        some (change (registry.foundKey hive path))
      else registry.find? asked other := by
  have first : ∀ e ∈ ((registry.keys hive).alike foldPath
      (foldPath (registry.spelling hive path))).head?, e.1 = registry.spelling hive path := by
    rw [foldPath_spelling]
    exact first_spelling registry hive path
  rw [find?_eq, find?_eq registry asked, modifyKey_eq, keys_setKeys, keyAt_eq]
  by_cases here : asked = hive
  · subst here
    rw [if_pos rfl, NameMap.folded_insert_first first, foldPath_spelling]
    simp only [true_and]
  · rw [if_neg here, if_neg fun both => here both.1]

end Registry

/-! ### The value that is found -/

/-- What a registry answers to one who opens a key and asks it for a value. -/
theorem ask_ofRegistry_eq (registry : Registry) (hive : Hive) (path name : String)
    (maxBytes : UInt32) :
    (Store.ofRegistry registry).ask hive path name maxBytes =
      match registry.find? hive path with
      | none => .error .notFound
      | some key =>
        if key.accessDenied then .error .accessDenied else queryValue key.values name maxBytes := by
  simp only [Store.ask, Store.ofRegistry, Registry.openKey]
  cases registry.find? hive path with
  | none => rfl
  | some key => cases denied : key.accessDenied <;> simp [denied, Except.map, Except.bind]

theorem queryValue_setValue (key : Key) (name title : String) (value : Value)
    (maxBytes : UInt32) :
    queryValue (key.setValue name value).values title maxBytes =
      if foldName title = foldName name then
        ((key.values.ahead? foldName name).getD value).within maxBytes
      else queryValue key.values title maxBytes := by
  rw [queryValue_eq, queryValue_eq, Key.values_setValue, NameMap.folded_replace_eq]
  by_cases named : foldName title = foldName name
  · rw [if_pos named, if_pos named]
  · rw [if_neg named, if_neg named]

/-- A value that was just given is the answer under every spelling, but for what stays
ahead of it and unless the key is denied, and it changes no other answer. -/
theorem ask_setValue_eq (registry : Registry) (hive asked : Hive)
    (path name other title : String) (value : Value) (maxBytes : UInt32) :
    (Store.ofRegistry (registry.setValue hive path name value)).ask asked other title maxBytes =
      if asked = hive ∧ foldPath other = foldPath path ∧ foldName title = foldName name then
        if (registry.foundKey hive path).accessDenied then .error .accessDenied
        else (((registry.foundKey hive path).values.ahead? foldName name).getD value).within
          maxBytes
      else (Store.ofRegistry registry).ask asked other title maxBytes := by
  rw [ask_ofRegistry_eq, ask_ofRegistry_eq, Registry.setValue, Registry.find?_modifyKey]
  by_cases place : asked = hive ∧ foldPath other = foldPath path
  · obtain ⟨rfl, same⟩ := place
    have elsewhere := registry.find?_congr asked same
    have denial : ((registry.foundKey asked path).setValue name value).accessDenied =
        (registry.foundKey asked path).accessDenied := rfl
    rw [if_pos ⟨rfl, same⟩, elsewhere]
    simp only [denial, queryValue_setValue, same, true_and]
    by_cases named : foldName title = foldName name
    · rw [if_pos named, if_pos named]
    · -- A key that was made for the value answers for other names as if it were not there.
      rw [if_neg named, if_neg named, Registry.foundKey]
      cases registry.find? asked path with
      | none => rfl
      | some key => rfl
  · rw [if_neg place, if_neg fun all => place ⟨all.1, all.2.1⟩]

/-- **A value is read back exactly where no other value stays ahead of it.** In a key that
may be read, or that is made for the value, the value is the answer under every spelling
and within enough bytes, unless a second name that folds alike stands before its own; then
it has to be the value of that one. -/
theorem ask_setValue_eq_ok_iff (registry : Registry) (hive : Hive) {path other : String}
    (samePath : foldPath other = foldPath path) {name title : String}
    (sameName : foldName title = foldName name) {value : Value} {maxBytes : UInt32}
    (fits : value.storedSize ≤ maxBytes.toNat)
    (readable : (registry.foundKey hive path).accessDenied = false) :
    (Store.ofRegistry (registry.setValue hive path name value)).ask hive other title maxBytes =
        .ok value ↔
      ∀ older ∈ (registry.foundKey hive path).values.ahead? foldName name, older = value := by
  rw [ask_setValue_eq, if_pos ⟨rfl, samePath, sameName⟩, readable, if_neg Bool.false_ne_true]
  cases (registry.foundKey hive path).values.ahead? foldName name with
  | none => simp [Value.within, fits]
  | some older =>
    simp only [Option.getD_some, Option.mem_some_iff, forall_eq', Value.within]
    constructor
    · intro read
      split at read
      · exact Except.ok.inj read
      · cases read
    · rintro rfl
      rw [if_pos fits]

/-- A key with two spellings of one name. -/
def spelledTwice : Registry where
  machine := some
    ⟨[("K", ⟨⟨[("AA", .string "1"), ("Aa", .string "2")], by decide⟩, false⟩)], by simp⟩
  user := none

def spelledTwiceJson : String :=
  "\x7b\"LocalMachine\":\x7b\"K\":\x7b\"values\":\x7b" ++
    "\"AA\":\x7b\"String\":\"1\"\x7d,\"Aa\":\x7b\"String\":\"2\"\x7d" ++
    "\x7d,\"access_denied\":false\x7d\x7d\x7d"

/-- A new spelling that stands before all others is read back. -/
theorem ask_setValue_first_spelling :
    foldPath "k\\" = foldPath "K" ∧ foldName "aA" = foldName "AA" ∧
      (Value.string "new").storedSize ≤ (8 : UInt32).toNat ∧
      (spelledTwice.foundKey .localMachine "K").accessDenied = false ∧
      (Store.ofRegistry (spelledTwice.setValue .localMachine "K" "AA" (.string "new"))).ask
        .localMachine "k\\" "aA" 8 = .ok (.string "new") := by
  have samePath : foldPath "k\\" = foldPath "K" := by decide +kernel
  have sameName : foldName "aA" = foldName "AA" := by decide +kernel
  have fits : (Value.string "new").storedSize ≤ (8 : UInt32).toNat := by decide
  have readable : (spelledTwice.foundKey .localMachine "K").accessDenied = false := by
    decide +kernel
  have alone : (spelledTwice.foundKey .localMachine "K").values.ahead? foldName "AA" = none := by
    decide +kernel
  refine ⟨samePath, sameName, fits, readable, ?_⟩
  refine (ask_setValue_eq_ok_iff spelledTwice .localMachine samePath sameName fits readable).mpr ?_
  rw [alone]
  exact fun _ ahead => nomatch ahead

/-- A snapshot in which a value is given under "aa" and another is read: "AA" gives way, and
"Aa" still stands before it. -/
theorem ask_setValue_older_spelling :
    Registry.ofJson spelledTwiceJson = .ok spelledTwice ∧
      (spelledTwice.foundKey .localMachine "K").accessDenied = false ∧
      (Value.string "new").storedSize ≤ (8 : UInt32).toNat ∧
      (Store.ofRegistry (spelledTwice.setValue .localMachine "K" "aa" (.string "new"))).ask
        .localMachine "K" "aa" 8 = .ok (.string "2") := by
  have written : spelledTwice.toJson = spelledTwiceJson := by decide +kernel
  refine ⟨?_, by decide +kernel, by decide, by decide +kernel⟩
  rw [← written]
  exact spelledTwice.ofJson_toJson

end RuntimeLocator
