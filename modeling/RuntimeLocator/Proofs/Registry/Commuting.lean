/-
Changes that may be made in either order.

A change is about the key at one place, and about one name of it at most. The first of several
spellings that fold alike stands for all of them, and no change moves the first spelling of another
place or of another folded name (`firstName?_insert_of_ne`, `firstName?_eraseFolded_of_ne`). So
changes to different places commute (`modifyKey_comm`), and those to one key commute where what
they do to the key does (`onKey_comm`), as long as the key is there: it is the change that makes a
key that gives it its spelling. No change makes others depend on one another, so what holds of two
changes in either order holds of any number in every order (`foldl_apply_of_perm`).
-/

import RuntimeLocator.Proofs.Registry.ReadBack

namespace RuntimeLocator

open Session (Change)

/-! ### Name maps -/

namespace NameMap

variable {α : Type} {m n : NameMap α} {name other key gone : String} {a b : α} {e : String × α}

/-- Entries stand in their order, so maps with the same entries are equal. -/
theorem eq_of_mem_iff (same : ∀ e, e ∈ m.entries ↔ e ∈ n.entries) : m = n := by
  have entries : m.entries = n.entries := by
    have perm : m.entries.Perm n.entries :=
      (List.perm_ext_iff_of_nodup m.nodup_names.of_map n.nodup_names.of_map).mpr same
    refine List.Perm.eq_of_pairwise (fun a b _ _ before after => ?_) m.ascending n.ascending perm
    exact absurd (String.lt_trans before after) Std.lt_irrefl
  cases m
  cases n
  simpa using entries

theorem insert_comm (differ : name ≠ other) :
    (m.insert name a).insert other b = (m.insert other b).insert name a := by
  refine eq_of_mem_iff fun e => ?_
  simp only [mem_insert]
  constructor
  · rintro (rfl | ⟨rfl | ⟨mem, notName⟩, notOther⟩)
    · exact .inr ⟨.inl rfl, differ.symm⟩
    · exact .inl rfl
    · exact .inr ⟨.inr ⟨mem, notOther⟩, notName⟩
  · rintro (rfl | ⟨rfl | ⟨mem, notOther⟩, notName⟩)
    · exact .inr ⟨.inl rfl, differ⟩
    · exact .inl rfl
    · exact .inr ⟨.inr ⟨mem, notName⟩, notOther⟩

theorem insert_insert : (m.insert name a).insert name b = m.insert name b := by
  refine eq_of_mem_iff fun e => ?_
  simp only [mem_insert]
  constructor
  · rintro (rfl | ⟨rfl | ⟨mem, -⟩, notName⟩)
    · exact .inl rfl
    · exact absurd rfl notName
    · exact .inr ⟨mem, notName⟩
  · rintro (rfl | ⟨mem, notName⟩)
    · exact .inl rfl
    · exact .inr ⟨.inr ⟨mem, notName⟩, notName⟩

/-! ### First spellings -/

variable {fold : String → String}

theorem firstName?_insert_of_ne (differ : key ≠ fold name) :
    (m.insert name a).firstName? (fold · == key) = m.firstName? (fold · == key) := by
  rw [firstName?_eq_head?, firstName?_eq_head?, alike_insert_of_ne differ]

theorem firstName?_eraseFolded_of_ne (differ : key ≠ gone) :
    (m.eraseFolded fold gone).firstName? (fold · == key) = m.firstName? (fold · == key) := by
  rw [firstName?_eq_head?, firstName?_eq_head?, alike_eraseFolded_of_ne differ]

/-- A new value for the first of the spellings that fold alike leaves it the first. -/
theorem firstName?_insert_first (first : ∀ e ∈ (m.alike fold (fold name)).head?, e.1 = name) :
    (m.insert name a).firstName? (fold · == fold name) = some name := by
  have notAhead : (m.alike fold (fold name)).head?.filter (·.1 < name) = none := by
    cases spelled : (m.alike fold (fold name)).head? with
    | none => rfl
    | some e => rw [Option.filter_some, if_neg (by simp [first e spelled])]
  rw [firstName?_eq_head?, alike_insert, head?_insertEntry, notAhead]
  rfl

theorem mem_eraseFolded_iff :
    e ∈ (m.eraseFolded fold key).entries ↔
      e ∈ m.entries ∧ m.firstName? (fold · == key) ≠ some e.1 := by
  unfold eraseFolded
  cases m.firstName? (fold · == key) with
  | none => simp
  | some old => simp [eq_comm]

/-- Giving way to a new spelling leaves the entries of other folded names. -/
theorem eraseFolded_insert (differ : fold name ≠ key) :
    (m.insert name a).eraseFolded fold key = (m.eraseFolded fold key).insert name a := by
  refine eq_of_mem_iff fun e => ?_
  rw [mem_eraseFolded_iff, mem_insert, mem_insert, mem_eraseFolded_iff,
    firstName?_insert_of_ne differ.symm]
  constructor
  · rintro ⟨rfl | ⟨mem, notName⟩, stays⟩
    · exact .inl rfl
    · exact .inr ⟨⟨mem, stays⟩, notName⟩
  · rintro (rfl | ⟨⟨mem, stays⟩, notName⟩)
    · exact ⟨.inl rfl, fun first => differ (firstName?_eq_some first).1⟩
    · exact ⟨.inr ⟨mem, notName⟩, stays⟩

theorem eraseFolded_comm (differ : key ≠ gone) :
    (m.eraseFolded fold gone).eraseFolded fold key =
      (m.eraseFolded fold key).eraseFolded fold gone := by
  refine eq_of_mem_iff fun e => ?_
  simp only [mem_eraseFolded_iff, firstName?_eraseFolded_of_ne differ,
    firstName?_eraseFolded_of_ne differ.symm]
  exact and_right_comm

end NameMap

/-! ### Changes to one key -/

theorem Key.setValue_comm (key : Key) {name other : String}
    (differ : foldName name ≠ foldName other) (a b : Value) :
    (key.setValue name a).setValue other b = (key.setValue other b).setValue name a := by
  have spelled : name ≠ other := fun same => differ (congrArg foldName same)
  have values : ((key.setValue name a).setValue other b).values =
      ((key.setValue other b).setValue name a).values := by
    simp only [Key.values_setValue, NameMap.eraseFolded_insert differ,
      NameMap.eraseFolded_insert differ.symm, NameMap.eraseFolded_comm differ]
    exact NameMap.insert_comm spelled
  exact congrArg (Key.mk · key.accessDenied) values

/-! ### Changes to two keys -/

namespace Registry

section Places

variable {registry : Registry} {hive changed : Hive} {path other : String}
  {change later : Key → Key}

theorem setKeys_setKeys (registry : Registry) (hive : Hive) (keys others : NameMap Key) :
    (registry.setKeys hive keys).setKeys hive others = registry.setKeys hive others := by
  cases hive <;> rfl

theorem setKeys_comm (registry : Registry) (differ : hive ≠ changed) (keys others : NameMap Key) :
    (registry.setKeys hive keys).setKeys changed others =
      (registry.setKeys changed others).setKeys hive keys := by
  cases hive <;> cases changed <;> first | rfl | exact absurd rfl differ

/-- A change leaves the spelling of a key at another place. -/
theorem spelling_modifyKey_of_ne (elsewhere : (changed, foldPath other) ≠ (hive, foldPath path)) :
    (registry.modifyKey hive path change).spelling changed other =
      registry.spelling changed other := by
  rw [spelling, spelling, modifyKey_eq, keys_setKeys]
  split
  case isTrue here =>
    subst here
    have differ : foldPath other ≠ foldPath (registry.spelling changed path) := by
      rw [foldPath_spelling]
      exact fun same => elsewhere (Prod.ext rfl same)
    rw [NameMap.firstName?_insert_of_ne differ]
  case isFalse => rfl

/-- A key is at its place under the spelling that a change of it gave or found. -/
theorem spelling_modifyKey (same : foldPath other = foldPath path) :
    (registry.modifyKey hive path change).spelling hive other = registry.spelling hive path := by
  have first := first_spelling registry hive path
  rw [← foldPath_spelling registry hive path] at first
  rw [spelling, modifyKey_eq, keys_setKeys, if_pos rfl, same,
    ← foldPath_spelling registry hive path, NameMap.firstName?_insert_first first,
    Option.getD_some]

/-- The spelling of a key that is there does not depend on how it is asked for. -/
theorem spelling_congr (present : registry.find? hive path ≠ none)
    (same : foldPath other = foldPath path) :
    registry.spelling hive other = registry.spelling hive path := by
  rw [spelling, spelling, same, NameMap.firstName?_eq_head?]
  rw [find?_eq, NameMap.folded_eq_head?] at present
  cases spelled : ((registry.keys hive).alike foldPath (foldPath path)).head? with
  | none => exact absurd (congrArg (Option.map _) spelled) present
  | some e => rfl

theorem foundKey_modifyKey (change : Key → Key) :
    (registry.modifyKey hive path change).foundKey changed other =
      if changed = hive ∧ foldPath other = foldPath path then
        change (registry.foundKey hive path)
      else registry.foundKey changed other := by
  rw [foundKey, find?_modifyKey]
  split <;> rfl

/-- Two changes to one key are one change to it. -/
theorem modifyKey_modifyKey (same : foldPath other = foldPath path) :
    (registry.modifyKey hive path change).modifyKey hive other later =
      registry.modifyKey hive path (later ∘ change) := by
  rw [modifyKey_eq, spelling_modifyKey same, keyAt_eq, foundKey_modifyKey, if_pos ⟨rfl, same⟩,
    modifyKey_eq, modifyKey_eq, keys_setKeys, if_pos rfl, setKeys_setKeys, NameMap.insert_insert,
    keyAt_eq, Function.comp_apply]

theorem modifyKey_congr (present : registry.find? hive path ≠ none)
    (same : foldPath other = foldPath path) :
    registry.modifyKey hive other change = registry.modifyKey hive path change := by
  rw [modifyKey_eq, modifyKey_eq, spelling_congr present same, keyAt_eq, keyAt_eq, foundKey,
    registry.find?_congr hive same, foundKey]

/-- A change finds its key as it was before a change to another. -/
theorem modifyKey_modifyKey_of_ne (apart : (hive, foldPath path) ≠ (changed, foldPath other)) :
    (registry.modifyKey hive path change).modifyKey changed other later =
      (registry.modifyKey hive path change).setKeys changed
        (((registry.modifyKey hive path change).keys changed).insert
          (registry.spelling changed other) (later (registry.foundKey changed other))) := by
  have away : ¬ (changed = hive ∧ foldPath other = foldPath path) :=
    fun both => apart (Prod.ext both.1.symm both.2.symm)
  rw [modifyKey_eq (registry.modifyKey hive path change), spelling_modifyKey_of_ne apart.symm,
    keyAt_eq, foundKey_modifyKey, if_neg away]

/-- Changes to keys at two places commute. -/
theorem modifyKey_comm (apart : (hive, foldPath path) ≠ (changed, foldPath other)) :
    (registry.modifyKey hive path change).modifyKey changed other later =
      (registry.modifyKey changed other later).modifyKey hive path change := by
  rw [modifyKey_modifyKey_of_ne apart, modifyKey_modifyKey_of_ne apart.symm]
  simp only [modifyKey_eq, keyAt_eq, keys_setKeys]
  by_cases here : changed = hive
  case pos =>
    subst here
    have differ : registry.spelling changed path ≠ registry.spelling changed other := by
      intro spelled
      have folded := congrArg foldPath spelled
      rw [foldPath_spelling, foldPath_spelling] at folded
      exact apart (Prod.ext rfl folded)
    simp only [if_pos, setKeys_setKeys, NameMap.insert_comm differ]
  case neg =>
    rw [if_neg here, if_neg (Ne.symm here), setKeys_comm registry (Ne.symm here)]

end Places

end Registry

/-! ### Changes in either order -/

namespace Session.Change

def hive : Change → Hive
  | .addKey hive _ | .setValue hive _ _ _ | .setString hive _ _ _ | .denyAccess hive _ => hive

def path : Change → String
  | .addKey _ path | .setValue _ path _ _ | .setString _ path _ _ | .denyAccess _ path => path

/-- The name whose value a change gives, if it gives one. -/
def title? : Change → Option String
  | .setValue _ _ name _ | .setString _ _ name _ => some name
  | .addKey _ _ | .denyAccess _ _ => none

/-- What a change does to its key. -/
def onKey : Change → Key → Key
  | .addKey _ _ => id
  | .setValue _ _ name value => (·.setValue name value)
  | .setString _ _ name text => (·.setValue name (.string text))
  | .denyAccess _ _ => fun key => { key with accessDenied := true }

/-- The place that a change is about: a hive, and a path in it in any spelling. -/
def place (change : Change) : Hive × String :=
  (change.hive, foldPath change.path)

/-- Two changes of a registry do not bear on one another: they are about different places, or
about one key that is there and not both about the value of one name in any spelling. -/
inductive Independent (registry : Registry) (first second : Change) : Prop where
  | apart (places : first.place ≠ second.place)
  | together (place : first.place = second.place)
      (present : registry.find? first.hive first.path ≠ none)
      (names : ∀ name ∈ first.title?, ∀ other ∈ second.title?, foldName name ≠ foldName other)

theorem apply_eq (change : Change) (registry : Registry) :
    change.apply registry = registry.modifyKey change.hive change.path change.onKey := by
  cases change <;> rfl

theorem onKey_comm {first second : Change}
    (names : ∀ name ∈ first.title?, ∀ other ∈ second.title?, foldName name ≠ foldName other) :
    second.onKey ∘ first.onKey = first.onKey ∘ second.onKey := by
  funext key
  cases first <;> cases second <;>
    first
    | exact key.setValue_comm (names _ rfl _ rfl) _ _
    | rfl

section Independence

variable {registry : Registry} {first second change : Change}

theorem Independent.symm (independent : first.Independent registry second) :
    second.Independent registry first := by
  cases independent with
  | apart places => exact .apart places.symm
  | together place present names =>
    refine .together place.symm ?_ fun name gives other givesToo same =>
      names other givesToo name gives same.symm
    obtain ⟨sameHive, samePath⟩ := Prod.mk.inj place
    rwa [← sameHive, registry.find?_congr _ samePath.symm]

/-- A key that is there stays there, so no change makes others depend on one another. -/
theorem Independent.apply (independent : first.Independent registry second) (change : Change) :
    first.Independent (change.apply registry) second := by
  cases independent with
  | apart places => exact .apart places
  | together place present names =>
    refine .together place ?_ names
    rw [apply_eq, Registry.find?_modifyKey]
    split
    · exact Option.some_ne_none _
    · exact present

theorem apply_comm (independent : first.Independent registry second) :
    second.apply (first.apply registry) = first.apply (second.apply registry) := by
  simp only [apply_eq]
  cases independent with
  | apart places => exact Registry.modifyKey_comm places
  | together place present names =>
    obtain ⟨sameHive, samePath⟩ := Prod.mk.inj place
    rw [← sameHive, Registry.modifyKey_modifyKey samePath.symm,
      Registry.modifyKey_modifyKey samePath, onKey_comm names]
    exact (Registry.modifyKey_congr present samePath.symm).symm

/-- Runs of the same changes, each two of which are independent, end alike. -/
theorem foldl_apply_of_perm {changes others : List Change} (perm : changes.Perm others)
    (independent : changes.Pairwise (Independent registry)) :
    changes.foldl (fun registry change => change.apply registry) registry =
      others.foldl (fun registry change => change.apply registry) registry := by
  induction perm generalizing registry with
  | nil => rfl
  | cons change _ ih =>
    have later := (List.pairwise_cons.mp independent).2.imp fun pair => pair.apply change
    simp only [List.foldl_cons, ih later]
  | swap first second changes =>
    have pair := (List.pairwise_cons.mp independent).1 first List.mem_cons_self
    simp only [List.foldl_cons, apply_comm pair]
  | trans perm _ ih ihLater =>
    have independentToo := (perm.pairwise_iff fun pair => pair.symm).mp independent
    rw [ih independent, ihLater independentToo]

end Independence

end Session.Change

/-- **Independent changes may be made in either order.** In any registry, however many of its
spellings fold alike, two changes that do not bear on one another leave the same registry in both
orders, and so the same snapshot. Any number of changes, each two of which are independent at the
start, leave the same registry in every order. -/
theorem independent_changes_commute (registry : Registry) :
    (∀ first second : Change, first.Independent registry second →
      second.apply (first.apply registry) = first.apply (second.apply registry) ∧
      (second.apply (first.apply registry)).toJson =
        (first.apply (second.apply registry)).toJson) ∧
    ∀ changes others : List Change, changes.Pairwise (Change.Independent registry) →
      changes.Perm others →
      changes.foldl (fun registry change => change.apply registry) registry =
        others.foldl (fun registry change => change.apply registry) registry := by
  refine ⟨fun first second independent => ?_, fun changes others independent perm => ?_⟩
  · have same := Change.apply_comm independent
    exact ⟨same, congrArg Registry.toJson same⟩
  · exact Change.foldl_apply_of_perm perm independent

/-- In a key with two spellings of one name: a third spelling, a value under another name, a
denial, and a key of the other hive that is made. -/
theorem independent_changes_commute_spelledTwice :
    let respells : Change := .setString .localMachine "K" "aa" "new"
    let gives : Change := .setValue .localMachine "k" "B" (.dword 7)
    let denies : Change := .denyAccess .localMachine "\\K"
    let makes : Change := .addKey .currentUser "K"
    (respells.Independent spelledTwice gives ∧
      gives.apply (respells.apply spelledTwice) = respells.apply (gives.apply spelledTwice) ∧
      (gives.apply (respells.apply spelledTwice)).toJson =
        (respells.apply (gives.apply spelledTwice)).toJson) ∧
    [respells, gives, denies, makes].Pairwise (Change.Independent spelledTwice) ∧
    [respells, gives, denies, makes].Perm [makes, denies, gives, respells] ∧
    makes.apply (denies.apply (gives.apply (respells.apply spelledTwice))) =
      respells.apply (gives.apply (denies.apply (makes.apply spelledTwice))) := by
  intro respells gives denies makes
  have present : spelledTwice.find? .localMachine "K" ≠ none := by decide +kernel
  have presentToo : spelledTwice.find? .localMachine "k" ≠ none := by decide +kernel
  have spelled : foldPath "K" = foldPath "k" := by decide +kernel
  have trimmed : foldPath "k" = foldPath "\\K" := by decide +kernel
  have named : foldName "aa" ≠ foldName "B" := by decide +kernel
  have pair : respells.Independent spelledTwice gives :=
    .together (Prod.ext rfl spelled) present fun _ one _ two => by
      cases one
      cases two
      exact named
  have respellsDenied : respells.Independent spelledTwice denies :=
    .together (Prod.ext rfl (spelled.trans trimmed)) present fun _ _ _ two => nomatch two
  have givesDenied : gives.Independent spelledTwice denies :=
    .together (Prod.ext rfl trimmed) presentToo fun _ _ _ two => nomatch two
  have away (change : Change) (here : change.hive = .localMachine) :
      change.Independent spelledTwice makes :=
    .apart fun same => by cases here.symm.trans (congrArg Prod.fst same)
  have independent :
      [respells, gives, denies, makes].Pairwise (Change.Independent spelledTwice) := by
    simp only [List.pairwise_cons, List.mem_cons, List.not_mem_nil, or_false, forall_eq_or_imp,
      forall_eq, IsEmpty.forall_iff, implies_true, List.Pairwise.nil, and_true]
    exact ⟨⟨pair, respellsDenied, away respells rfl⟩, ⟨givesDenied, away gives rfl⟩,
      away denies rfl⟩
  have perm : [respells, gives, denies, makes].Perm [makes, denies, gives, respells] :=
    List.reverse_perm [makes, denies, gives, respells]
  obtain ⟨commute, reorder⟩ := independent_changes_commute spelledTwice
  exact ⟨⟨pair, commute respells gives pair⟩, independent, perm,
    reorder _ _ independent perm⟩

end RuntimeLocator
