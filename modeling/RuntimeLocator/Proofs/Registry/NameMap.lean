/-
Name maps searched by a folding of their names.

A map in which no two names fold alike is a function of folded names
(`folded_eq_some_iff`), and replacing the value of a folded name changes that function
at one place (`folded_insert`, `folded_replace`). What a change does to the entries is
said by membership (`mem_insert`, `mem_erase`), so nothing here looks at their order but
the two lemmas on insertion.
-/

import Mathlib.Data.List.Nodup
import RuntimeLocator.Registry.NameMap

namespace RuntimeLocator.NameMap

variable {α : Type} {m : NameMap α} {name : String} {value : α} {e : String × α}

/-! ### Entries -/

/-- An insertion leaves the new entry and the entries of all other names. -/
theorem mem_insertEntry_iff {entries : List (String × α)}
    (ascending : entries.Pairwise fun a b => a.1 < b.1) :
    e ∈ insertEntry name value entries ↔ e = (name, value) ∨ (e ∈ entries ∧ e.1 ≠ name) := by
  fun_induction insertEntry name value entries with
  | case1 => simp
  | case2 entry rest before =>
    have later : ∀ e ∈ entry :: rest, e.1 ≠ name := by
      intro e mem same
      rcases List.mem_cons.mp mem with rfl | mem
      · exact Std.lt_irrefl (same ▸ before)
      · have after := (List.pairwise_cons.mp ascending).1 e mem
        exact Std.lt_irrefl (same ▸ String.lt_trans before after)
    rw [List.mem_cons]
    exact or_congr_right ⟨fun mem => ⟨mem, later e mem⟩, And.left⟩
  | case3 entry rest before same =>
    have later : ∀ e ∈ rest, e.1 ≠ name := by
      intro e mem again
      exact Std.lt_irrefl (again.trans same ▸ (List.pairwise_cons.mp ascending).1 e mem)
    rw [List.mem_cons, List.mem_cons]
    constructor
    · rintro (rfl | mem)
      · exact .inl rfl
      · exact .inr ⟨.inr mem, later e mem⟩
    · rintro (rfl | ⟨rfl | mem, other⟩)
      · exact .inl rfl
      · exact absurd same.symm other
      · exact .inr mem
  | case4 entry rest before differs ih =>
    rw [List.mem_cons, List.mem_cons, ih (List.pairwise_cons.mp ascending).2]
    constructor
    · rintro (rfl | rfl | ⟨mem, other⟩)
      · exact .inr ⟨.inl rfl, Ne.symm differs⟩
      · exact .inl rfl
      · exact .inr ⟨.inr mem, other⟩
    · rintro (rfl | ⟨rfl | mem, other⟩)
      · exact .inr (.inl rfl)
      · exact .inl rfl
      · exact .inr (.inr ⟨mem, other⟩)

theorem mem_insert :
    e ∈ (m.insert name value).entries ↔ e = (name, value) ∨ (e ∈ m.entries ∧ e.1 ≠ name) :=
  mem_insertEntry_iff m.ascending

@[simp] theorem mem_erase : e ∈ (m.erase name).entries ↔ e ∈ m.entries ∧ e.1 ≠ name := by
  simp [erase]

theorem nodup_names (m : NameMap α) : m.names.Nodup := by
  refine List.pairwise_map.mpr (m.ascending.imp ?_)
  intro a b before same
  rw [same] at before
  exact Std.lt_irrefl before

/-- A name has one entry. -/
theorem eq_of_name_eq {a b : String × α} (memA : a ∈ m.entries) (memB : b ∈ m.entries)
    (same : a.1 = b.1) : a = b :=
  List.inj_on_of_nodup_map m.nodup_names memA memB same

theorem get?_eq_some_iff : m.get? name = some value ↔ (name, value) ∈ m.entries := by
  simp only [get?, Option.map_eq_some_iff]
  constructor
  · rintro ⟨⟨other, found⟩, finds, rfl⟩
    have same : other = name := by simpa using List.find?_some finds
    exact same ▸ List.mem_of_find?_eq_some finds
  · intro mem
    obtain ⟨entry, finds⟩ : ∃ entry, m.entries.find? (·.1 == name) = some entry :=
      Option.isSome_iff_exists.mp (List.find?_isSome.mpr ⟨_, mem, by simp⟩)
    have same : entry.1 = name := by simpa using List.find?_some finds
    exact ⟨entry, finds, by rw [eq_of_name_eq (List.mem_of_find?_eq_some finds) mem same]⟩

/-! ### Folded names -/

/-- No two names of the map fold alike. -/
def Distinct (fold : String → String) (m : NameMap α) : Prop :=
  ∀ a ∈ m.entries, ∀ b ∈ m.entries, fold a.1 = fold b.1 → a.1 = b.1

/-- The value of the first name that folds to `key`. -/
def folded (fold : String → String) (m : NameMap α) (key : String) : Option α :=
  m.firstValue? (fold · == key)

variable {fold : String → String} {key : String}

theorem distinct_empty : Distinct fold (empty : NameMap α) := by
  intro a mem
  cases mem

theorem firstName?_eq_some (first : m.firstName? (fold · == key) = some name) :
    fold name = key ∧ ∃ value, (name, value) ∈ m.entries := by
  obtain ⟨⟨found, value⟩, finds, rfl⟩ := Option.map_eq_some_iff.mp first
  exact ⟨by simpa using List.find?_some finds, value, List.mem_of_find?_eq_some finds⟩

theorem firstName?_eq_none (none : m.firstName? (fold · == key) = none) :
    ∀ e ∈ m.entries, fold e.1 ≠ key := by
  intro e mem same
  have absent := List.find?_eq_none.mp (Option.map_eq_none_iff.mp none) e mem
  exact absent (by simpa using same)

/-- Where no two names fold alike, every entry is found by the folding of its name. -/
theorem folded_eq_some_iff (distinct : m.Distinct fold) :
    m.folded fold key = some value ↔ ∃ name, fold name = key ∧ (name, value) ∈ m.entries := by
  simp only [folded, firstValue?, Option.map_eq_some_iff]
  constructor
  · rintro ⟨⟨found, value⟩, finds, rfl⟩
    exact ⟨found, by simpa using List.find?_some finds, List.mem_of_find?_eq_some finds⟩
  · rintro ⟨name, same, mem⟩
    obtain ⟨entry, finds⟩ : ∃ entry, m.entries.find? (fold ·.1 == key) = some entry :=
      Option.isSome_iff_exists.mp (List.find?_isSome.mpr ⟨_, mem, by simpa using same⟩)
    have folds : fold entry.1 = key := by simpa using List.find?_some finds
    have spelled : entry.1 = name :=
      distinct _ (List.mem_of_find?_eq_some finds) _ mem (folds.trans same.symm)
    exact ⟨entry, finds, by rw [eq_of_name_eq (List.mem_of_find?_eq_some finds) mem spelled]⟩

/-- A name is the only spelling of its folding in a map. -/
def Alone (fold : String → String) (m : NameMap α) (name : String) : Prop :=
  ∀ e ∈ m.entries, fold e.1 = fold name → e.1 = name

theorem distinct_insert (distinct : m.Distinct fold) (alone : m.Alone fold name) :
    (m.insert name value).Distinct fold := by
  intro a memA b memB same
  rcases mem_insert.mp memA with rfl | ⟨memA, -⟩
  · rcases mem_insert.mp memB with rfl | ⟨memB, -⟩
    · rfl
    · exact (alone b memB same.symm).symm
  · rcases mem_insert.mp memB with rfl | ⟨memB, -⟩
    · exact alone a memA same
    · exact distinct a memA b memB same

/-- Giving a value to the only spelling of a folded name changes what is found under that
folded name and nothing else. -/
theorem folded_insert (distinct : m.Distinct fold) (alone : m.Alone fold name) (key : String) :
    (m.insert name value).folded fold key =
      if key = fold name then some value else m.folded fold key := by
  ext found
  rw [folded_eq_some_iff (distinct_insert distinct alone)]
  split
  · rename_i here
    constructor
    · rintro ⟨other, same, mem⟩
      rcases mem_insert.mp mem with eq | ⟨mem, differs⟩
      · rw [(Prod.mk.inj eq).2]
      · exact absurd (alone _ mem (same.trans here)) differs
    · intro eq
      exact ⟨name, here.symm, mem_insert.mpr (.inl (by rw [Option.some.inj eq]))⟩
  · rename_i elsewhere
    rw [folded_eq_some_iff distinct]
    constructor
    · rintro ⟨other, same, mem⟩
      rcases mem_insert.mp mem with eq | ⟨mem, -⟩
      · exact absurd (same.symm.trans (congrArg fold (Prod.mk.inj eq).1)) elsewhere
      · exact ⟨other, same, mem⟩
    · rintro ⟨other, same, mem⟩
      refine ⟨other, same, mem_insert.mpr (.inr ⟨mem, ?_⟩)⟩
      rintro rfl
      exact elsewhere same.symm

theorem get?_eq_folded (distinct : m.Distinct fold) (alone : m.Alone fold name) :
    m.get? name = m.folded fold (fold name) := by
  ext found
  rw [get?_eq_some_iff, folded_eq_some_iff distinct]
  constructor
  · exact fun mem => ⟨name, rfl, mem⟩
  · rintro ⟨other, same, mem⟩
    exact alone _ mem same ▸ mem

/-! ### Giving way to a new spelling -/

/-- The map without the first name that folds to `key`. -/
def eraseFolded (fold : String → String) (m : NameMap α) (key : String) : NameMap α :=
  match m.firstName? (fold · == key) with
  | some old => m.erase old
  | none => m

theorem mem_eraseFolded (distinct : m.Distinct fold) :
    e ∈ (m.eraseFolded fold key).entries ↔ e ∈ m.entries ∧ fold e.1 ≠ key := by
  unfold eraseFolded
  split
  · rename_i old first
    obtain ⟨same, value, present⟩ := firstName?_eq_some first
    rw [mem_erase]
    refine and_congr_right fun mem => not_congr ⟨fun spelled => spelled ▸ same, fun folds => ?_⟩
    exact distinct e mem _ present (folds.trans same.symm)
  · rename_i none
    exact ⟨fun mem => ⟨mem, firstName?_eq_none none e mem⟩, And.left⟩

theorem distinct_eraseFolded (distinct : m.Distinct fold) :
    (m.eraseFolded fold key).Distinct fold := by
  intro a memA b memB
  exact distinct a ((mem_eraseFolded distinct).mp memA).1 b ((mem_eraseFolded distinct).mp memB).1

theorem alone_eraseFolded (distinct : m.Distinct fold) :
    (m.eraseFolded fold (fold name)).Alone fold name := by
  intro e mem same
  exact absurd same ((mem_eraseFolded distinct).mp mem).2

theorem folded_eraseFolded (distinct : m.Distinct fold) {gone : String} (other : key ≠ gone) :
    (m.eraseFolded fold gone).folded fold key = m.folded fold key := by
  ext found
  rw [folded_eq_some_iff (distinct_eraseFolded distinct), folded_eq_some_iff distinct]
  refine exists_congr fun name => and_congr_right fun same => ?_
  rw [mem_eraseFolded distinct]
  exact and_iff_left fun folds => other (same.symm.trans folds)

/-- A value under a new spelling takes the place of the value under the old one. -/
theorem folded_replace (distinct : m.Distinct fold) (key : String) :
    ((m.eraseFolded fold (fold name)).insert name value).folded fold key =
      if key = fold name then some value else m.folded fold key := by
  rw [folded_insert (distinct_eraseFolded distinct) (alone_eraseFolded distinct)]
  split
  · rfl
  · rename_i elsewhere
    exact folded_eraseFolded distinct elsewhere

end RuntimeLocator.NameMap
