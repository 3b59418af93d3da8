/-
Snapshots that were written are read back.

Each part of a registry is taken from the text that it is printed as: hives and values by
their variants, name maps entry by entry, keys by their fields (`Value.takes`,
`NameMap.takes`, `Key.takes`, `Registry.takes`). The entries of a name map come in the
order of their names, so each new one goes behind those already read
(`insertEntry_of_last`), and the map that is read has the entries of the one that was
written.
-/

import RuntimeLocator.Proofs.Json.Decode
import RuntimeLocator.Registry.Snapshot

namespace RuntimeLocator

open Json

/-! ### Hives and values -/

theorem Hive.find?_variants (hive : Hive) :
    ∃ v : Reader.Variant Hive, Hive.variants.find? (·.name == hive.name) = some v ∧
      v.bare = .ok hive := by
  cases hive <;> exact ⟨_, rfl, rfl⟩

theorem Hive.takes (hive : Hive) : Hive.reader.Takes hive.print hive := by
  obtain ⟨v, known, bare⟩ := hive.find?_variants
  exact Reader.takes_bareVariant known bare

theorem Hive.run_named (hive : Hive) (rest : List Char) :
    (Hive.named hive.name).run rest = .ok (hive, rest) := by
  obtain ⟨v, known, bare⟩ := hive.find?_variants
  exact Reader.run_bareVariant known bare rest

/-- Elements that are all taken from what they are printed as. -/
theorem forall₂_takes {α : Type} {element : Reader α} {print : α → List Char}
    (takes : ∀ a, element.Takes (print a) a) (as : List α) :
    List.Forall₂ element.Takes (as.map print) as := by
  induction as with
  | nil => exact .nil
  | cons a as ih => exact .cons (takes a) ih

theorem takes_bytes (data : List UInt8) :
    (Reader.sequence Reader.uint8).Takes (printBytes data) data :=
  Reader.takes_sequence (forall₂_takes Reader.takes_uint8 data)

theorem takes_strings (items : List String) :
    (Reader.sequence Reader.string).Takes (Print.sequence (items.map Print.string)) items :=
  Reader.takes_sequence (forall₂_takes Reader.takes_string items)

/-- Both fields of raw data are read back. -/
theorem takes_raw (code : UInt32) (data : List UInt8) :
    Value.rawReader.Takes
      (Print.object [("code", Print.natural code.toNat), ("data", printBytes data)])
      (.raw code data) := by
  have fills : Reader.Fills RawFields.fields
      [("code", Print.natural code.toNat), ("data", printBytes data)] ⟨none, none⟩
      ⟨some code, some data⟩ :=
    .next ((Reader.takes_uint32 code).map _) (.next ((takes_bytes data).map _) .done)
  exact (Reader.takes_record (by decide) fills).bind fun _ => rfl

theorem Value.takes (value : Value) : Value.reader.Takes value.print value := by
  cases value with
  | string text => exact Reader.takes_variant rfl ((Reader.takes_string text).map _)
  | expandString text => exact Reader.takes_variant rfl ((Reader.takes_string text).map _)
  | multiString items => exact Reader.takes_variant rfl ((takes_strings items).map _)
  | dword n => exact Reader.takes_variant rfl ((Reader.takes_uint32 n).map _)
  | qword n => exact Reader.takes_variant rfl ((Reader.takes_uint64 n).map _)
  | binary data => exact Reader.takes_variant rfl ((takes_bytes data).map _)
  | raw code data => exact Reader.takes_variant rfl (takes_raw code data)

/-! ### Name maps -/

namespace NameMap

variable {α : Type}

/-- A name beyond all others is put behind them. -/
theorem insertEntry_of_last {entries : List (String × α)} {name : String} {value : α}
    (last : ∀ e ∈ entries, e.1 < name) :
    insertEntry name value entries = entries ++ [(name, value)] := by
  induction entries with
  | nil => rfl
  | cons entry entries ih =>
    obtain ⟨before, last⟩ := List.forall_mem_cons.mp last
    have notBefore : ¬ name < entry.1 := fun after => Std.lt_irrefl (String.lt_trans before after)
    have differs : name ≠ entry.1 := fun same => Std.lt_irrefl (same ▸ before)
    rw [insertEntry, if_neg notBefore, if_neg differs, ih last, List.cons_append]

/-- How the entries of a map enter the map that is read. -/
def enter (value : Reader α) (entered : NameMap α) (name : String) : Reader (NameMap α) := do
  let a ← Reader.member value
  return entered.insert name a

theorem enters_entries {value : Reader α} {print : α → List Char}
    (takes : ∀ a, value.Takes (print a) a) {coming : List (String × α)}
    {entered final : NameMap α} (whole : final.entries = entered.entries ++ coming) :
    Reader.Enters (enter value) entered (coming.map fun e => (e.1, print e.2)) final := by
  induction coming generalizing entered with
  | nil =>
    have same : final = entered := by
      cases final
      cases entered
      simpa using whole
    exact same ▸ .done
  | cons e coming ih =>
    have ascending := final.ascending
    rw [whole, List.pairwise_append] at ascending
    have last : ∀ other ∈ entered.entries, other.1 < e.1 :=
      fun other mem => ascending.2.2 other mem e List.mem_cons_self
    have next : (entered.insert e.1 e.2).entries = entered.entries ++ [e] :=
      insertEntry_of_last last
    have remains : final.entries = (entered.insert e.1 e.2).entries ++ coming := by
      rw [next, whole, List.append_assoc, List.singleton_append]
    refine .next (fun {rest} ends => ?_) (ih remains)
    rw [enter, Reader.run_bind_of_ok (Reader.run_member (takes e.2) ends), Reader.run_pure]

/-- A map is read back entry by entry. -/
theorem takes {value : Reader α} {print : α → List Char}
    (takes : ∀ a, value.Takes (print a) a) (m : NameMap α) :
    (NameMap.reader value).Takes (m.print print) m :=
  Reader.takes_object (enters_entries takes rfl)

end NameMap

/-! ### Keys and registries -/

/-- Both fields of a key are read back. -/
theorem Key.takes (key : Key) : Key.reader.Takes key.print key := by
  have fills : Reader.Fills Key.fields
      [("values", key.values.print Value.print), ("access_denied", Print.boolean key.accessDenied)]
      .empty key :=
    .next ((NameMap.takes Value.takes key.values).map _)
      (.next ((Reader.takes_boolean key.accessDenied).map _) .done)
  exact Reader.takes_record (by decide) fills

namespace Registry

/-- How a hive enters the registry that is read. -/
def enter (registry : Registry) (name : String) : Reader Registry := do
  let hive ← Hive.named name
  let keys ← Reader.member (NameMap.reader Key.reader)
  return registry.setKeys hive keys

theorem run_enter (registry : Registry) (hive : Hive) (keys : NameMap Key) {rest : List Char}
    (ends : EndsNumber rest) :
    (registry.enter hive.name).run (':' :: (keys.print Key.print ++ rest)) =
      .ok (registry.setKeys hive keys, rest) := by
  rw [enter, Reader.run_bind_of_ok (hive.run_named _),
    Reader.run_bind_of_ok (Reader.run_member (NameMap.takes Key.takes keys) ends),
    Reader.run_pure]

theorem enters_hive (entered : Registry) (hive : Hive) (keys : Option (NameMap Key))
    {members : List (String × List Char)} {final : Registry}
    (later : Reader.Enters enter (keys.elim entered (entered.setKeys hive)) members final) :
    Reader.Enters enter entered
      ((keys.map fun keys => (hive.name, keys.print Key.print)).toList ++ members) final := by
  cases keys with
  | none => exact later
  | some keys => exact .next (run_enter entered hive keys) later

/-- A registry is read back hive by hive. -/
theorem takes (registry : Registry) : Registry.reader.Takes registry.print registry := by
  have both : registry.user.elim (registry.machine.elim empty (empty.setKeys .localMachine))
      ((registry.machine.elim empty (empty.setKeys .localMachine)).setKeys .currentUser) =
        registry := by
    obtain ⟨machine, user⟩ := registry
    cases machine <;> cases user <;> rfl
  have members : [Hive.localMachine, .currentUser].filterMap registry.hiveMember =
      (registry.hiveMember .localMachine).toList ++
        ((registry.hiveMember .currentUser).toList ++ []) := by
    cases machine : registry.hiveMember .localMachine <;>
      cases user : registry.hiveMember .currentUser <;> simp [machine, user]
  rw [print, members]
  refine Reader.takes_object (enters_hive empty .localMachine registry.machine ?_)
  refine enters_hive _ .currentUser registry.user ?_
  rw [both]
  exact .done

/-- The registry of a snapshot is the one that it was written of. -/
theorem ofJson_toJson (registry : Registry) : ofJson registry.toJson = .ok registry :=
  Reader.decode_of_takes registry.takes

end Registry

end RuntimeLocator
