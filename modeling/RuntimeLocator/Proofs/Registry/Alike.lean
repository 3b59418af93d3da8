/-
The entries of a name map whose names fold alike.

Any number of names may fold alike. The entries of one folded name (`NameMap.alike`) stand
in the order of their spellings: a search finds the first of them (`folded_eq_head?`), giving
way to a new spelling drops the first (`alike_eraseFolded`), and an insertion puts its entry
in place among them (`alike_insert`). The entries of all other folded names stay as they are.
-/

import RuntimeLocator.Proofs.Registry.NameMap

namespace RuntimeLocator.NameMap

variable {α : Type}

/-! ### Insertions -/

section Entries

variable {name : String} {value : α} {entries : List (String × α)}

/-- A name before all others is put in front of them. -/
theorem insertEntry_of_first (first : ∀ e ∈ entries, name < e.1) :
    insertEntry name value entries = (name, value) :: entries := by
  cases entries with
  | nil => rfl
  | cons entry rest => rw [insertEntry, if_pos (first entry List.mem_cons_self)]

/-- An entry comes first unless another name stands before it. -/
theorem head?_insertEntry (name : String) (value : α) (entries : List (String × α)) :
    (insertEntry name value entries).head? =
      some ((entries.head?.filter (·.1 < name)).getD (name, value)) := by
  cases entries with
  | nil => rfl
  | cons entry rest =>
    rw [insertEntry, List.head?_cons, Option.filter_some]
    rcases Std.lt_trichotomy name entry.1 with before | same | after
    · have notAfter : ¬ entry.1 < name := fun lt => Std.lt_irrefl (String.lt_trans before lt)
      rw [if_pos before, if_neg (by simpa using notAfter)]
      rfl
    · have notBefore : ¬ name < entry.1 := fun lt => Std.lt_irrefl (same ▸ lt)
      have notAfter : ¬ entry.1 < name := fun lt => Std.lt_irrefl (same ▸ lt)
      rw [if_neg notBefore, if_pos same, if_neg (by simpa using notAfter)]
      rfl
    · have notBefore : ¬ name < entry.1 := fun lt => Std.lt_irrefl (String.lt_trans after lt)
      have differs : name ≠ entry.1 := fun same => Std.lt_irrefl (same ▸ after)
      rw [if_neg notBefore, if_neg differs, if_pos (by simpa using after)]
      rfl

/-- Names that are dropped later need not be there when a name that is kept is put in. -/
theorem filter_insertEntry (keep : String → Bool) (kept : keep name = true)
    (ascending : entries.Pairwise fun a b => a.1 < b.1) :
    (insertEntry name value entries).filter (keep ·.1) =
      insertEntry name value (entries.filter (keep ·.1)) := by
  fun_induction insertEntry name value entries with
  | case1 => simp [insertEntry, kept]
  | case2 entry rest before =>
    have first : ∀ e ∈ (entry :: rest).filter (keep ·.1), name < e.1 := by
      intro e mem
      rcases List.mem_cons.mp (List.mem_filter.mp mem).1 with rfl | later
      · exact before
      · exact String.lt_trans before ((List.pairwise_cons.mp ascending).1 e later)
    rw [insertEntry_of_first first]
    exact List.filter_cons_of_pos kept
  | case3 entry rest notBefore same =>
    have keptToo : keep entry.1 = true := same ▸ kept
    simp only [List.filter_cons, kept, keptToo, if_true]
    rw [insertEntry, if_neg notBefore, if_pos same]
  | case4 entry rest notBefore differs ih =>
    have later := ih (List.pairwise_cons.mp ascending).2
    cases keeps : keep entry.1 with
    | true =>
      simp only [List.filter_cons, keeps, if_true]
      rw [later, insertEntry, if_neg notBefore, if_neg differs]
    | false =>
      simp only [List.filter_cons, keeps, Bool.false_eq_true, if_false]
      exact later

/-- A name that is dropped later might as well not be put in. -/
theorem filter_insertEntry_of_not (keep : String → Bool) (dropped : keep name = false) :
    (insertEntry name value entries).filter (keep ·.1) = entries.filter (keep ·.1) := by
  fun_induction insertEntry name value entries with
  | case1 => simp [dropped]
  | case2 entry rest before => exact List.filter_cons_of_neg (by simp [dropped])
  | case3 entry rest notBefore same =>
    have droppedToo : keep entry.1 = false := same ▸ dropped
    simp only [List.filter_cons, dropped, droppedToo, Bool.false_eq_true, if_false]
  | case4 entry rest notBefore differs ih => rw [List.filter_cons, List.filter_cons, ih]

end Entries

/-! ### Entries of one folded name -/

variable {fold : String → String} {m : NameMap α} {name key : String} {value : α}
  {e : String × α}

/-- The entries whose names fold to `key`, in order. -/
def alike (fold : String → String) (m : NameMap α) (key : String) : List (String × α) :=
  m.entries.filter fun e => fold e.1 == key

@[simp] theorem mem_alike : e ∈ m.alike fold key ↔ e ∈ m.entries ∧ fold e.1 = key := by
  simp [alike]

theorem ascending_alike (fold : String → String) (m : NameMap α) (key : String) :
    (m.alike fold key).Pairwise fun a b => a.1 < b.1 :=
  m.ascending.filter _

theorem folded_eq_head? (fold : String → String) (m : NameMap α) (key : String) :
    m.folded fold key = (m.alike fold key).head?.map (·.2) := by
  rw [alike, List.head?_filter]
  rfl

theorem firstName?_eq_head? (fold : String → String) (m : NameMap α) (key : String) :
    m.firstName? (fold · == key) = (m.alike fold key).head?.map (·.1) := by
  rw [alike, List.head?_filter]
  rfl

theorem alike_insert (fold : String → String) (m : NameMap α) (name : String) (value : α) :
    (m.insert name value).alike fold (fold name) =
      insertEntry name value (m.alike fold (fold name)) :=
  filter_insertEntry (fold · == fold name) (beq_self_eq_true _) m.ascending

theorem alike_insert_of_ne (other : key ≠ fold name) :
    (m.insert name value).alike fold key = m.alike fold key :=
  filter_insertEntry_of_not (fold · == key) (by simpa using other.symm)

theorem alike_erase (fold : String → String) (m : NameMap α) (name key : String) :
    (m.erase name).alike fold key = (m.alike fold key).filter (·.1 != name) := by
  simp only [alike, erase, List.filter_filter, Bool.and_comm]

theorem alike_eraseFolded (fold : String → String) (m : NameMap α) (key : String) :
    (m.eraseFolded fold key).alike fold key = (m.alike fold key).tail := by
  have ascending := ascending_alike fold m key
  have first := firstName?_eq_head? fold m key
  unfold eraseFolded
  cases spelled : m.alike fold key with
  | nil =>
    rw [spelled, List.head?_nil, Option.map_none] at first
    rw [first, spelled, List.tail_nil]
  | cons entry rest =>
    rw [spelled] at first ascending
    rw [List.head?_cons, Option.map_some] at first
    have others : ∀ e ∈ rest, e.1 ≠ entry.1 := by
      intro e mem same
      exact Std.lt_irrefl (same ▸ (List.pairwise_cons.mp ascending).1 e mem)
    simp only [first]
    rw [alike_erase, spelled, List.filter_cons_of_neg (by simp), List.tail_cons]
    exact List.filter_eq_self.mpr (by simpa using others)

theorem alike_eraseFolded_of_ne {gone : String} (other : key ≠ gone) :
    (m.eraseFolded fold gone).alike fold key = m.alike fold key := by
  unfold eraseFolded
  split
  · rename_i old first
    rw [alike_erase, List.filter_eq_self]
    intro e mem
    have differs : e.1 ≠ old := by
      rintro rfl
      exact other ((mem_alike.mp mem).2.symm.trans (firstName?_eq_some first).1)
    simpa using differs
  · rfl

/-! ### A new spelling among others -/

/-- What stays ahead of a value that is given to `name`. Only the first of the names that
fold alike gives way, so the second is found from then on if it stands before `name`. -/
def ahead? (fold : String → String) (m : NameMap α) (name : String) : Option α :=
  ((m.alike fold (fold name)).tail.head?.filter (·.1 < name)).map (·.2)

/-- A value under a new spelling is found, but for what stays ahead of it, and nothing
changes under other folded names. -/
theorem folded_replace_eq (fold : String → String) (m : NameMap α) (name : String) (value : α)
    (key : String) :
    ((m.eraseFolded fold (fold name)).insert name value).folded fold key =
      if key = fold name then some ((m.ahead? fold name).getD value)
      else m.folded fold key := by
  rw [folded_eq_head?]
  split
  · rename_i here
    subst here
    rw [alike_insert, alike_eraseFolded, head?_insertEntry, Option.map_some, ahead?]
    cases (m.alike fold (fold name)).tail.head?.filter (·.1 < name) <;> rfl
  · rename_i elsewhere
    rw [alike_insert_of_ne elsewhere, alike_eraseFolded_of_ne elsewhere, folded_eq_head?]

/-- Giving a value to the first of the names that fold alike, or to the only one, makes it
the value that is found. -/
theorem folded_insert_first (first : ∀ e ∈ (m.alike fold (fold name)).head?, e.1 = name)
    (key : String) :
    (m.insert name value).folded fold key =
      if key = fold name then some value else m.folded fold key := by
  rw [folded_eq_head?]
  split
  · rename_i here
    subst here
    have notAhead : (m.alike fold (fold name)).head?.filter (·.1 < name) = none := by
      cases spelled : (m.alike fold (fold name)).head? with
      | none => rfl
      | some e =>
        have same := first e spelled
        rw [Option.filter_some, if_neg (by simp [same])]
    rw [alike_insert, head?_insertEntry, notAhead]
    rfl
  · rename_i elsewhere
    rw [alike_insert_of_ne elsewhere, folded_eq_head?]

end RuntimeLocator.NameMap
