/-
Objects as anyone may write them: with blank text between the tokens, names in any spelling, and
members in any order.

What a member stands for is left open: a `Writing` gives for each entry its name and the ways to
write its value. A record takes such an object as a fold over its entries (`run_record_of_object`),
where an entry either fills a field that none before it has filled, or has the name of no field and
is passed over.
-/

import RuntimeLocator.Proofs.Json.Skipping

namespace RuntimeLocator.Json

/-! ### Objects -/

/-- How the entries of an object are written. -/
structure Writing (ε : Type) where
  name : ε → String
  value : ε → List Char → List Char → Prop

/-- A member of an object, up to the end of its value. -/
inductive Member (name : String) (value : List Char → List Char → Prop) :
    List Char → List Char → Prop
  | mk {s k r u v t : List Char} (before : Blanks s k) (key : Quotes name k r)
      (between : Blanks r (':' :: u)) (after : Blanks u v) (written : value v t) :
      Member name value s t

section Objects

variable {ε : Type}

/-- What follows a member of an object, the closing bracket included. -/
inductive Members (writing : Writing ε) : List ε → List Char → List Char → Prop
  | closed {s t : List Char} (blank : Blanks s ('\x7d' :: t)) : Members writing [] s t
  | next {entry : ε} {entries : List ε} {s u v t : List Char} (comma : Blanks s (',' :: u))
      (member : Member (writing.name entry) (writing.value entry) u v)
      (later : Members writing entries v t) : Members writing (entry :: entries) s t

inductive Object (writing : Writing ε) : List ε → List Char → List Char → Prop
  | empty {s t : List Char} (blank : Blanks s ('\x7d' :: t)) : Object writing [] ('\x7b' :: s) t
  | members {entry : ε} {entries : List ε} {s u t : List Char}
      (first : Member (writing.name entry) (writing.value entry) s u)
      (later : Members writing entries u t) : Object writing (entry :: entries) ('\x7b' :: s) t

/-- An object with nothing but blank text around it. -/
structure Document (writing : Writing ε) (entries : List ε) (s : List Char) : Prop where
  parts : ∃ a b, Blanks s a ∧ Object writing entries a b ∧ Blanks b []

end Objects

namespace Reader

variable {α β σ ε : Type} {s t u : List Char}

/-! ### Tokens -/

theorem ignoresBlank_onValue (read : Char → Reader α) : (onValue read).IgnoresBlank :=
  ignoresBlank_peekAfterBlank.bind _

theorem run_string_of_quotes {text : String} (quotes : Quotes text s t) :
    string.run s = .ok (text, t) := by
  obtain ⟨body⟩ := quotes
  refine (run_onValue rfl _).trans ?_
  exact (run_bind_of_ok (run_advance '"' _)).trans (run_stringTail_of_body body)

theorem run_key_of_quotes (atEnd : Fault) {name : String} (before : Blanks s u)
    (quotes : Quotes name u t) : (key atEnd).run s = .ok (name, t) := by
  obtain ⟨body⟩ := quotes
  refine (run_bind_of_ok (run_peekAfterBlank_of_blanks before rfl)).trans ?_
  exact (run_bind_of_ok (run_advance '"' _)).trans (run_stringTail_of_body body)

theorem run_firstKey_of_quotes {name : String} (before : Blanks s u) (quotes : Quotes name u t) :
    firstKey.run s = .ok (some name, t) := by
  have read := run_key_of_quotes (.ended .object) .none quotes
  obtain ⟨body⟩ := quotes
  refine (run_bind_of_ok (run_peekAfterBlank_of_blanks before rfl)).trans ?_
  exact run_bind_of_ok read

theorem run_nextKey_of_quotes {name : String} {v : List Char} (comma : Blanks s (',' :: u))
    (before : Blanks u v) (quotes : Quotes name v t) : nextKey.run s = .ok (some name, t) := by
  refine (run_bind_of_ok (run_peekAfterBlank_of_blanks comma rfl)).trans ?_
  refine (run_bind_of_ok (run_advance ',' _)).trans ?_
  exact run_bind_of_ok (run_key_of_quotes (.ended .value) before quotes)

theorem run_member_of_blanks {value : Reader α} {a : α} {v : List Char}
    (between : Blanks s (':' :: u)) (after : Blanks u v) (ignores : value.IgnoresBlank)
    (reads : value.run v = .ok (a, t)) : (member value).run s = .ok (a, t) := by
  have colon : colon.run s = .ok ((), u) :=
    run_bind_of_ok (run_peekAfterBlank_of_blanks between rfl)
  rw [member, run_bind_of_ok colon, ignores after, reads]

/-! ### Records -/

section Records

variable {writing : Writing ε} {fields : List (Field σ)} {put : σ → ε → σ} {entries : List ε}
  {entry : ε}

/-- An entry fits a record: it fills a field of its name, or there is no such field and the record
stays. -/
inductive Fits (writing : Writing ε) (fields : List (Field σ)) (put : σ → ε → σ) (entry : ε) : Prop
  | field {field : Field σ} (among : field ∈ fields) (named : writing.name entry = field.name)
      (ignores : ∀ record, (field.read record).IgnoresBlank)
      (reads : ∀ record s t, writing.value entry s t →
        (field.read record).run s = .ok (put record entry, t))
  | other (unknown : ∀ field ∈ fields, field.name ≠ writing.name entry)
      (derives : ∀ s t, writing.value entry s t → Derives .value s t)
      (stays : ∀ record, put record entry = record)

/-- An entry goes into the record, and at most its own name is seen anew. -/
theorem run_fieldMember_of_fits (distinct : (fields.map (·.name)).Nodup)
    (fits : Fits writing fields put entry) (record : σ) {seen : List String}
    (unseen : writing.name entry ∈ fields.map (·.name) → writing.name entry ∉ seen)
    {v : List Char} (between : Blanks s (':' :: u)) (after : Blanks u v)
    (written : writing.value entry v t) :
    ∃ seen', (fieldMember fields (record, seen) (writing.name entry)).run s =
        .ok ((put record entry, seen'), t) ∧ seen' ⊆ writing.name entry :: seen := by
  cases fits with
  | @field field among named ignores reads =>
    have new : seen.contains field.name = false := by
      have absent := unseen (named ▸ List.mem_map_of_mem among)
      rw [named] at absent
      simpa using absent
    refine ⟨writing.name entry :: seen, ?_, List.Subset.refl _⟩
    rw [named, fieldMember, find?_name_eq_some distinct among]
    simp only [new, Bool.false_eq_true, if_false]
    rw [run_bind_of_ok (run_member_of_blanks between after (ignores record)
      (reads record v t written)), run_pure]
  | other unknown derives stays =>
    have absent : fields.find? (·.name == writing.name entry) = none := by
      simpa using unknown
    refine ⟨seen, ?_, List.subset_cons_self _ _⟩
    rw [fieldMember, absent, stays]
    exact run_bind_of_ok (run_member_of_blanks between after ignoresBlank_skipValue
      (run_skipValue_of_derives (derives v t written)))

variable (distinct : (fields.map (·.name)).Nodup)

include distinct

/-- Where fields come once, an entry leaves those unseen that come after it. -/
theorem run_fieldMember_of_once (fits : Fits writing fields put entry)
    (once : (entry :: entries).Pairwise fun entry later =>
      writing.name entry ∈ fields.map (·.name) → writing.name entry ≠ writing.name later)
    (record : σ) {seen : List String}
    (unseen : ∀ e ∈ entry :: entries,
      writing.name e ∈ fields.map (·.name) → writing.name e ∉ seen)
    {v : List Char} (between : Blanks s (':' :: u)) (after : Blanks u v)
    (written : writing.value entry v t) :
    ∃ seen', (fieldMember fields (record, seen) (writing.name entry)).run s =
        .ok ((put record entry, seen'), t) ∧
      ∀ later ∈ entries, writing.name later ∈ fields.map (·.name) → writing.name later ∉ seen' := by
  obtain ⟨unseenHere, unseen⟩ := List.forall_mem_cons.mp unseen
  obtain ⟨onceHere, -⟩ := List.pairwise_cons.mp once
  obtain ⟨seen', read, few⟩ :=
    run_fieldMember_of_fits distinct fits record unseenHere between after written
  refine ⟨seen', read, fun later among field seenThere => ?_⟩
  rcases List.mem_cons.mp (few seenThere) with same | seenBefore
  · exact onceHere later among (same ▸ field) same.symm
  · exact unseen later among field seenBefore

theorem run_iterate_of_members {entries : List ε} (members : Members writing entries s t)
    (fits : ∀ entry ∈ entries, Fits writing fields put entry)
    (once : entries.Pairwise fun entry later =>
      writing.name entry ∈ fields.map (·.name) → writing.name entry ≠ writing.name later)
    (record : σ) {seen : List String}
    (unseen : ∀ entry ∈ entries,
      writing.name entry ∈ fields.map (·.name) → writing.name entry ∉ seen) :
    ∃ seen', (iterate (memberStep (fieldMember fields)) (progresses_memberStep _)
      (record, seen)).run s = .ok ((entries.foldl put record, seen'), '\x7d' :: t) := by
  induction members generalizing record seen with
  | @closed s t blank =>
    have noKey : nextKey.run s = .ok (none, '\x7d' :: t) :=
      run_bind_of_ok (run_peekAfterBlank_of_blanks blank rfl)
    have stops : (memberStep (fieldMember fields) (record, seen)).run s =
        .ok (none, '\x7d' :: t) := run_bind_of_ok noKey
    exact ⟨seen, by rw [run_iterate, stops]; rfl⟩
  | @next entry entries s u v t comma member later ih =>
    obtain ⟨before, key, between, after, written⟩ := member
    obtain ⟨fitsHere, fits⟩ := List.forall_mem_cons.mp fits
    obtain ⟨seen', read, unseen'⟩ :=
      run_fieldMember_of_once distinct fitsHere once record unseen between after written
    have step : (memberStep (fieldMember fields) (record, seen)).run s =
        .ok (some (put record entry, seen'), v) :=
      (run_bind_of_ok (run_nextKey_of_quotes comma before key)).trans (run_bind_of_ok read)
    obtain ⟨final, rest⟩ := ih fits once.of_cons (put record entry) unseen'
    refine ⟨final, ?_⟩
    rw [run_iterate, step]
    exact rest

/-- **A record takes an object with its fields in any order and other members between them.** Each
field may come once, and what is no field leaves the record as it is. -/
theorem run_record_of_object {entries : List ε} (object : Object writing entries s t)
    (fits : ∀ entry ∈ entries, Fits writing fields put entry)
    (once : entries.Pairwise fun entry later =>
      writing.name entry ∈ fields.map (·.name) → writing.name entry ≠ writing.name later)
    (expected : String) (short : Nat → Option Mismatch) (start : σ) :
    (record expected short fields start).run s = .ok (entries.foldl put start, t) := by
  cases object with
  | empty blank =>
    have noKey : firstKey.run _ = .ok (none, '\x7d' :: t) :=
      run_bind_of_ok (run_peekAfterBlank_of_blanks blank rfl)
    refine (run_onValue rfl _).trans ((run_bind_of_ok (run_advance '\x7b' _)).trans ?_)
    have closes : (Reader.members (fieldMember fields) (start, [])).run _ = .ok ((start, []), t) :=
      run_bind_of_ok noKey
    exact run_bind_of_ok closes
  | @members entry entries s u t first later =>
    obtain ⟨before, key, between, after, written⟩ := first
    obtain ⟨fitsFirst, fits⟩ := List.forall_mem_cons.mp fits
    obtain ⟨seen, read, unseen⟩ := run_fieldMember_of_once distinct fitsFirst once start
      (fun _ _ _ => List.not_mem_nil) between after written
    obtain ⟨final, rest⟩ :=
      run_iterate_of_members distinct later fits once.of_cons (put start entry) unseen
    have closes : (Reader.members (fieldMember fields) (start, [])).run s =
        .ok ((entries.foldl put (put start entry), final), t) := by
      refine (run_bind_of_ok (run_firstKey_of_quotes before key)).trans ?_
      refine (run_bind_of_ok read).trans ?_
      exact (run_bind_of_ok rest).trans (run_bind_of_ok (run_advance _ _))
    refine (run_onValue rfl _).trans ((run_bind_of_ok (run_advance '\x7b' _)).trans ?_)
    exact run_bind_of_ok closes

end Records

/-! ### Variants -/

section Variants

variable {variants : List (Variant α)} {name : String} {v : Variant α} {a : α}

theorem run_variant_of_quotes (known : variants.find? (·.name == name) = some v)
    (bare : v.bare = .ok a) (quotes : Quotes name s t) :
    (variant variants).run s = .ok (a, t) := by
  obtain ⟨body⟩ := quotes
  refine (run_onValue rfl _).trans ((run_bind_of_ok (run_advance '"' _)).trans ?_)
  rw [run_bind_of_ok (run_stringTail_of_body body), run_bareVariant known bare]

theorem run_variant_of_member (known : variants.find? (·.name == name) = some v)
    (ignores : v.body.IgnoresBlank) {value : List Char → List Char → Prop}
    (reads : ∀ s t, value s t → v.body.run s = .ok (a, t)) (member : Member name value s u)
    (closed : Blanks u ('\x7d' :: t)) :
    (variant variants).run ('\x7b' :: s) = .ok (a, t) := by
  obtain ⟨before, ⟨body⟩, between, after, written⟩ := member
  refine (run_onValue rfl _).trans ((run_bind_of_ok (run_advance '\x7b' _)).trans ?_)
  refine (run_bind_of_ok (run_peekAfterBlank_of_blanks before rfl)).trans ?_
  refine (run_bind_of_ok (run_advance '"' _)).trans ?_
  have closes : closeVariant.run u = .ok ((), t) :=
    run_bind_of_ok (run_peekAfterBlank_of_blanks closed rfl)
  rw [run_bind_of_ok (run_stringTail_of_body body), run_bind_of_ok (run_named known _),
    run_bind_of_ok (run_member_of_blanks between after ignores (reads _ _ written)),
    run_bind_of_ok closes, run_pure]

end Variants

/-! ### Documents -/

/-- A document is decoded as the object in it, whatever blank text stands around it. -/
theorem decode_of_document {writing : Writing ε} {entries : List ε} {x : Reader α} {a : α}
    {text : String} (document : Document writing entries text.toList) (ignores : x.IgnoresBlank)
    (reads : ∀ s t, Object writing entries s t → x.run s = .ok (a, t)) :
    decode x text = .ok a := by
  obtain ⟨s, t, before, object, behind⟩ := document.parts
  have read : x.run text.toList = .ok (a, t) := (ignores before).trans (reads s t object)
  have ends : finish.run t = .ok ((), []) := by
    rw [finish, ignoresBlank_peekAfterBlank.bind _ behind]
    rfl
  simp only [decode]
  rw [run_bind_of_ok read, run_bind_of_ok ends, run_pure]

end Reader

end RuntimeLocator.Json
