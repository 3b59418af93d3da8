/-
Maps from names to values whose entries stand in the order of their names, code point
by code point. A name is kept as it is spelled, and two spellings are two names: that
names are compared without regard to case is the business of those who search.

Because the entries are in strict order, two maps with the same entries are equal.
-/

namespace RuntimeLocator

/-- Entries in strictly ascending order of their names. -/
structure NameMap (α : Type) where
  entries : List (String × α)
  ascending : entries.Pairwise fun a b => a.1 < b.1
deriving DecidableEq

namespace NameMap

variable {α : Type}

def empty : NameMap α := ⟨[], .nil⟩

/-- The names, in order. -/
def names (m : NameMap α) : List String :=
  m.entries.map (·.1)

/-- The value of a name in exactly this spelling. -/
def get? (m : NameMap α) (name : String) : Option α :=
  (m.entries.find? (·.1 == name)).map (·.2)

/-- The first name that passes the test. -/
def firstName? (m : NameMap α) (test : String → Bool) : Option String :=
  (m.entries.find? fun e => test e.1).map (·.1)

/-- The value of the first name that passes the test. -/
def firstValue? (m : NameMap α) (test : String → Bool) : Option α :=
  (m.entries.find? fun e => test e.1).map (·.2)

/-- Puts an entry in its place, over the one of the same name if there is one. -/
def insertEntry (name : String) (value : α) : List (String × α) → List (String × α)
  | [] => [(name, value)]
  | entry :: rest =>
    if name < entry.1 then (name, value) :: entry :: rest
    else if name = entry.1 then (name, value) :: rest
    else entry :: insertEntry name value rest

theorem mem_insertEntry {name : String} {value : α} {entries : List (String × α)}
    {e : String × α} (h : e ∈ insertEntry name value entries) :
    e = (name, value) ∨ e ∈ entries := by
  fun_induction insertEntry name value entries with
  | case1 => grind
  | case2 => grind
  | case3 => grind
  | case4 => grind

theorem pairwise_insertEntry (name : String) (value : α) {entries : List (String × α)}
    (h : entries.Pairwise fun a b => a.1 < b.1) :
    (insertEntry name value entries).Pairwise fun a b => a.1 < b.1 := by
  fun_induction insertEntry name value entries with
  | case1 => simp
  | case2 entry rest before =>
    refine List.pairwise_cons.2 ⟨fun e he => ?_, h⟩
    rcases List.mem_cons.1 he with rfl | he
    · exact before
    · exact String.lt_trans before ((List.pairwise_cons.1 h).1 e he)
  | case3 entry rest _ same =>
    obtain ⟨first, rest_ok⟩ := List.pairwise_cons.1 h
    exact List.pairwise_cons.2 ⟨fun e he => by rw [same]; exact first e he, rest_ok⟩
  | case4 entry rest before same ih =>
    obtain ⟨first, rest_ok⟩ := List.pairwise_cons.1 h
    refine List.pairwise_cons.2 ⟨fun e he => ?_, ih rest_ok⟩
    rcases mem_insertEntry he with rfl | he
    · rcases Std.lt_trichotomy name entry.1 with lt | eq | gt
      · exact absurd lt before
      · exact absurd eq same
      · exact gt
    · exact first e he

/-- The map with this value for this name. -/
def insert (m : NameMap α) (name : String) (value : α) : NameMap α :=
  ⟨insertEntry name value m.entries, pairwise_insertEntry name value m.ascending⟩

/-- The map without the entry of this name. -/
def erase (m : NameMap α) (name : String) : NameMap α :=
  ⟨m.entries.filter (·.1 != name), m.ascending.filter _⟩

end NameMap

end RuntimeLocator
