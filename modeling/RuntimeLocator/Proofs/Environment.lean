/-
What a look-up in the environment of a process comes upon.

A variable is looked up by the text `name=` at the front of an entry. So the look-up of a name
comes upon the entry of another variable only if the name goes on behind that of the variable with
an equals sign, and everything else it finds stays the same whatever becomes of the variable
(`bytes?_congr`).
-/

import RuntimeLocator.Environment

namespace RuntimeLocator.ProcessBlock

/-- The look-up of a name can come upon the entry of a variable. -/
def Reaches (name key : String) : Prop :=
  name = key ∨ Utf8.bytes key ++ [0x3D] <+: Utf8.bytes name

instance (name key : String) : Decidable (Reaches name key) :=
  inferInstanceAs (Decidable (_ ∨ _))

section LookUps

variable {block block' : ProcessBlock} {name key : String}

theorem prefix_of_after? {start bytes after : List UInt8}
    (found : after? start bytes = some after) : start <+: bytes := by
  unfold after? at found
  split at found
  case isTrue front => exact List.isPrefixOf_iff_prefix.mp front
  case isFalse => cases found

theorem bytes_equals : Utf8.bytes "=" = [0x3D] := by decide +kernel

/-- The name of a variable ends at the equals sign that it is looked up with. -/
theorem reaches_of_after? {value after : List UInt8} (plain : 0x3D ∉ Utf8.bytes key)
    (found : after? (Utf8.bytes name ++ [0x3D]) (entryBytes (key, value)) = some after) :
    Reaches name key := by
  have front := prefix_of_after? found
  have own : Utf8.bytes key ++ [0x3D] <+: entryBytes (key, value) := by
    rw [entryBytes, bytes_equals]
    exact List.prefix_append _ _
  obtain shorter | longer := List.prefix_or_prefix_of_prefix front own
  · obtain same | within := List.prefix_concat_iff.mp shorter
    · exact .inl (Utf8.bytes_inj.mp (List.append_cancel_right same))
    · exact absurd (within.subset (List.mem_append_right _ (List.mem_singleton_self _))) plain
  · obtain same | within := List.prefix_concat_iff.mp longer
    · exact .inl (Utf8.bytes_inj.mp (List.append_cancel_right same.symm))
    · exact .inr within

/-- A variable that a look-up does not come upon may as well not be there. -/
theorem bytes?_filter (plain : 0x3D ∉ Utf8.bytes key) (apart : ¬ Reaches name key)
    (block : ProcessBlock) :
    bytes? (block.filter (·.1 ≠ key)) name = block.bytes? name := by
  unfold bytes?
  split
  case isTrue => rfl
  case isFalse =>
    induction block with
    | nil => rfl
    | cons entry block ih =>
      by_cases other : entry.1 = key
      case neg =>
        rw [List.filter_cons_of_pos (by simpa using other), List.findSome?_cons,
          List.findSome?_cons, ih]
      case pos =>
        obtain ⟨_, value⟩ := entry
        subst other
        rw [List.filter_cons_of_neg (by simp), ih, List.findSome?_cons, bytes_equals]
        cases found : after? (Utf8.bytes name ++ [0x3D]) (entryBytes (_, value)) with
        | none => rfl
        | some after => exact absurd (reaches_of_after? plain found) apart

/-- What becomes of a variable counts for no look-up that does not come upon it. -/
theorem bytes?_congr (plain : 0x3D ∉ Utf8.bytes key) (apart : ¬ Reaches name key)
    (others : block'.filter (·.1 ≠ key) = block.filter (·.1 ≠ key)) :
    block'.bytes? name = block.bytes? name := by
  rw [← bytes?_filter plain apart block', others, bytes?_filter plain apart block]

theorem nonEmpty_congr (plain : 0x3D ∉ Utf8.bytes key) (apart : ¬ Reaches name key)
    (others : block'.filter (·.1 ≠ key) = block.filter (·.1 ≠ key)) :
    block'.environment.nonEmpty name = block.environment.nonEmpty name := by
  simp only [Environment.nonEmpty, environment, bytes?_congr plain apart others]

end LookUps

end RuntimeLocator.ProcessBlock
