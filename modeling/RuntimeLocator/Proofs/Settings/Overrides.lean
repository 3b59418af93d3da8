/-
Settings files override the standard settings field by field.

A settings file is an object whose members give fields or are none of them (`Written`). It is
decoded as the standard settings with what each of these members gives (`ofJson_of_written`). What a
field of the result holds is settled by the members of that name alone (`Gives.view_foldl_put`), so
neither the order of the members nor those that are no fields matter (`overridden_congr`).
-/

import Mathlib.Data.List.Pairwise
import RuntimeLocator.Proofs.Json.Layout
import RuntimeLocator.Proofs.Registry.Snapshot
import RuntimeLocator.Settings.Json

namespace RuntimeLocator.Settings

open Json

/-! ### Members of a settings file -/

/-- What a member of a settings file says. -/
inductive Entry where
  | text (item : Item) (value : String)
  | hive (value : Hive)
  /-- A member that is no field, with any value. -/
  | other (name : String)
deriving DecidableEq

namespace Entry

def name : Entry → String
  | .text item _ => item.name
  | .hive _ => "hive"
  | .other name => name

def IsField : Entry → Prop
  | .other _ => False
  | _ => True

/-- The ways to write the value of a member. A hive is its name, or an object that holds `null`
under this name. -/
inductive Writes : Entry → List Char → List Char → Prop
  | text {item : Item} {value : String} {s t : List Char} (quotes : Quotes value s t) :
      Writes (.text item value) s t
  | hive {value : Hive} {s t : List Char} (quotes : Quotes value.name s t) :
      Writes (.hive value) s t
  | hiveObject {value : Hive} {s u t : List Char}
      (member : Member value.name (fun s t => s = ['n', 'u', 'l', 'l'] ++ t) s u)
      (closed : Blanks u ('\x7d' :: t)) : Writes (.hive value) ('\x7b' :: s) t
  | other {name : String} {s t : List Char} (derives : Derives .value s t) :
      Writes (.other name) s t

def writing : Writing Entry where
  name := name
  value := Writes

end Entry

/-- The settings with what a member says. -/
def put (settings : Settings) : Entry → Settings
  | .text item value => settings.set item value
  | .hive value => { settings with hive := value }
  | .other _ => settings

/-- The standard settings with what the members say. -/
def overridden (entries : List Entry) : Settings :=
  entries.foldl put .standard

/-- A text is an object of these members: each field is given at most once, and what is no field
does not have the name of one. -/
structure Written (entries : List Entry) (text : String) : Prop where
  document : Document Entry.writing entries text.toList
  once : entries.Pairwise fun entry later =>
    entry.IsField → later.IsField → entry.name ≠ later.name
  foreign : ∀ name, .other name ∈ entries → name ≠ "hive" ∧ ∀ item : Item, name ≠ item.name

/-! ### Reading the members -/

theorem names_distinct : (fields.map (·.name)).Nodup := by
  decide

theorem itemField_mem_fields (item : Item) : itemField item ∈ fields := by
  cases item <;> simp [fields]

theorem hiveField_mem_fields : hiveField ∈ fields := by
  simp [fields]

/-- A name of a field is that of the hive or of an item. -/
theorem name_cases {field : Reader.Field Settings} (among : field ∈ fields) :
    field.name = "hive" ∨ ∃ item : Item, field.name = item.name := by
  simp only [fields, List.mem_cons, List.not_mem_nil, or_false] at among
  rcases among with rfl | rfl | rfl | rfl | rfl | rfl | rfl | rfl
  case inr.inr.inl => exact .inl rfl
  all_goals exact .inr ⟨_, by rw [itemField]⟩

theorem run_hive_of_writes {hive : Hive} {s t : List Char}
    (writes : Entry.Writes (.hive hive) s t) : Hive.reader.run s = .ok (hive, t) := by
  have read (s t : List Char) (written : s = ['n', 'u', 'l', 'l'] ++ t) :
      (do Reader.null; return hive : Reader Hive).run s = .ok (hive, t) := by
    have null : Reader.null.run s = .ok ((), t) := by
      rw [written]
      exact (Reader.run_onValue rfl _).trans (Reader.run_word ['n', 'u', 'l', 'l'] t)
    rw [Reader.run_bind_of_ok null, Reader.run_pure]
  have ignores : (do Reader.null; return hive : Reader Hive).IgnoresBlank :=
    (Reader.ignoresBlank_onValue _).bind _
  cases writes with
  | hive quotes =>
    obtain ⟨v, known, bare⟩ := hive.find?_variants
    exact Reader.run_variant_of_quotes known bare quotes
  | hiveObject member closed =>
    have known : Hive.variants.find? (·.name == hive.name) =
        some ⟨hive.name, .ok hive, do Reader.null; return hive⟩ := by cases hive <;> rfl
    exact Reader.run_variant_of_member known ignores read member closed

theorem fits_of_foreign {entry : Entry}
    (foreign : ∀ name, entry = .other name → name ≠ "hive" ∧ ∀ item : Item, name ≠ item.name) :
    Reader.Fits Entry.writing fields put entry := by
  cases entry with
  | text item value =>
    refine .field (itemField_mem_fields item) (by rfl)
      (fun _ => (Reader.ignoresBlank_onValue _).bind _) fun settings s t writes => ?_
    obtain ⟨quotes⟩ := writes
    exact Reader.run_bind_of_ok (Reader.run_string_of_quotes quotes)
  | hive value =>
    refine .field hiveField_mem_fields (by rfl)
      (fun _ => (Reader.ignoresBlank_onValue _).bind _) fun settings s t writes => ?_
    exact Reader.run_bind_of_ok (run_hive_of_writes writes)
  | other name =>
    obtain ⟨notHive, notItem⟩ := foreign name rfl
    refine .other (fun field among same => ?_) (fun s t writes => ?_) fun _ => rfl
    · have same : field.name = name := same
      rcases name_cases among with hive | ⟨item, named⟩
      · exact notHive (same.symm.trans hive)
      · exact notItem item (same.symm.trans named)
    · cases writes with
      | other derives => exact derives

section Entries

variable {entries : List Entry} {text : String}

/-- Fields come once by their names, whatever else has a name. -/
theorem Written.once_by_name (written : Written entries text) :
    entries.Pairwise fun entry later =>
      entry.name ∈ fields.map (·.name) → entry.name ≠ later.name := by
  have isField {entry : Entry} (among : entry ∈ entries)
      (named : entry.name ∈ fields.map (·.name)) : entry.IsField := by
    obtain ⟨field, known, same⟩ := List.mem_map.mp named
    cases entry with
    | text | hive => trivial
    | other name =>
      obtain ⟨notHive, notItem⟩ := written.foreign name among
      have same : field.name = name := same
      rcases name_cases known with hive | ⟨item, ofItem⟩
      · exact absurd (same.symm.trans hive) notHive
      · exact absurd (same.symm.trans ofItem) (notItem item)
  refine written.once.imp_of_mem fun {entry later} here there differ named same => ?_
  exact differ (isField here named) (isField there (same ▸ named)) same

theorem ofJson_of_written (written : Written entries text) :
    ofJson text = .ok (overridden entries) := by
  refine Reader.decode_of_document written.document (Reader.ignoresBlank_onValue _)
    fun s t object => ?_
  refine Reader.run_record_of_object names_distinct object (fun entry among => ?_)
    written.once_by_name _ _ _
  exact fits_of_foreign fun name same => written.foreign name (same ▸ among)

/-! ### What the fields hold -/

theorem get_set_same (settings : Settings) (item : Item) (value : String) :
    (settings.set item value).get item = value := by
  cases item <;> rfl

theorem get_set_of_ne (settings : Settings) {item other : Item} (differ : other ≠ item)
    (value : String) : (settings.set item value).get other = settings.get other := by
  cases item <;> cases other <;> first | rfl | exact absurd rfl differ

theorem hive_set (settings : Settings) (item : Item) (value : String) :
    (settings.set item value).hive = settings.hive := by
  cases item <;> rfl

theorem eq_of_get {settings settings' : Settings}
    (items : ∀ item, settings.get item = settings'.get item)
    (hives : settings.hive = settings'.hive) : settings = settings' := by
  cases settings
  cases settings'
  rw [mk.injEq]
  exact ⟨items .versionVariable, items .rootVariable, hives, items .installRootKey,
    items .installRootValue, items .installPathKey, items .installPathValue,
    items .productDirectory⟩

/-- Two members that give the same field are the same. -/
theorem Written.eq_of_name (written : Written entries text) {entry other : Entry}
    (here : entry ∈ entries) (there : other ∈ entries) (isField : entry.IsField)
    (isFieldToo : other.IsField) (same : entry.name = other.name) : entry = other := by
  by_contra differ
  have symmetric : Std.Symm fun entry later : Entry =>
      entry.IsField → later.IsField → entry.name ≠ later.name :=
    ⟨fun _ _ differs first second => (differs second first).symm⟩
  exact written.once.forall here there differ isField isFieldToo same

/-- The members for one field, by the contents that they give, and the part of the settings that
they are for. -/
structure Gives {β : Type} (member : β → Entry) (view : Settings → β) : Prop where
  isField : ∀ b, (member b).IsField
  name : ∀ b c, (member b).name = (member c).name
  put_member : ∀ settings b, view (put settings (member b)) = b
  put_other : ∀ settings entry, (∀ b, entry ≠ member b) → view (put settings entry) = view settings

theorem gives_text (item : Item) : Gives (.text item) (·.get item) where
  isField _ := trivial
  name _ _ := rfl
  put_member settings value := get_set_same settings item value
  put_other settings entry other := by
    cases entry with
    | text named value =>
      have differ : item ≠ named := by
        rintro rfl
        exact other value rfl
      exact get_set_of_ne settings differ value
    | hive => cases item <;> rfl
    | other => rfl

theorem gives_hive : Gives .hive (·.hive) where
  isField _ := trivial
  name _ _ := rfl
  put_member _ _ := rfl
  put_other settings entry other := by
    cases entry with
    | text item value => exact hive_set settings item value
    | hive value => exact absurd rfl (other value)
    | other => rfl

namespace Gives

variable {β : Type} {member : β → Entry} {view : Settings → β} {b : β} (gives : Gives member view)

include gives

theorem injective {c : β} (same : member b = member c) : b = c := by
  rw [← gives.put_member .standard b, same, gives.put_member]

/-- A field holds what its members give, where they agree, and what it held before where there is
none. -/
theorem view_foldl_put (agree : ∀ c, member c ∈ entries → c = b) {start : Settings}
    (held : view start = b ∨ member b ∈ entries) : view (entries.foldl put start) = b := by
  induction entries generalizing start with
  | nil => exact held.resolve_right List.not_mem_nil
  | cons entry entries ih =>
    rw [List.foldl_cons]
    refine ih (fun c later => agree c (List.mem_cons_of_mem entry later)) ?_
    by_cases here : ∃ c, entry = member c
    case pos =>
      obtain ⟨c, rfl⟩ := here
      rw [gives.put_member, agree c List.mem_cons_self]
      exact .inl rfl
    case neg =>
      have other (c : β) : entry ≠ member c := fun same => here ⟨c, same⟩
      rw [gives.put_other start entry other]
      exact held.imp_right fun among =>
        (List.mem_cons.mp among).resolve_left fun same => other b same.symm

theorem view_of_mem (written : Written entries text) (among : member b ∈ entries) :
    view (overridden entries) = b := by
  refine gives.view_foldl_put (fun c there => gives.injective ?_) (.inr among)
  exact written.eq_of_name there among (gives.isField c) (gives.isField b) (gives.name c b)

theorem view_of_absent (absent : ∀ b, member b ∉ entries) :
    view (overridden entries) = view standard :=
  gives.view_foldl_put (fun c there => absurd there (absent c)) (.inl rfl)

theorem view_congr {entries' : List Entry} {text' : String} (written : Written entries text)
    (written' : Written entries' text')
    (same : ∀ entry : Entry, entry.IsField → (entry ∈ entries ↔ entry ∈ entries')) :
    view (overridden entries) = view (overridden entries') := by
  by_cases given : ∃ b, member b ∈ entries
  case pos =>
    obtain ⟨b, among⟩ := given
    have amongToo := (same _ (gives.isField b)).mp among
    rw [gives.view_of_mem written among, gives.view_of_mem written' amongToo]
  case neg =>
    have absent (b : β) : member b ∉ entries := fun among => given ⟨b, among⟩
    have absentToo (b : β) : member b ∉ entries' :=
      fun among => absent b ((same _ (gives.isField b)).mpr among)
    rw [gives.view_of_absent absent, gives.view_of_absent absentToo]

end Gives

/-- Neither the order of the members nor those that are no fields matter. -/
theorem overridden_congr {entries' : List Entry} {text' : String} (written : Written entries text)
    (written' : Written entries' text')
    (same : ∀ entry : Entry, entry.IsField → (entry ∈ entries ↔ entry ∈ entries')) :
    overridden entries = overridden entries' :=
  eq_of_get (fun item => (gives_text item).view_congr written written' same)
    (gives_hive.view_congr written written' same)

end Entries

end RuntimeLocator.Settings
