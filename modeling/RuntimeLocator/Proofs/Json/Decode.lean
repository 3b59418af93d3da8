/-
Values that were printed are read back, shape by shape.

A reader takes a text as a value (`Reader.Takes`) when it reads that value from the text
and leaves all that follows, whatever follows, as long as it does not go on with a number.
There is a lemma for each shape, which goes from the parts to the whole: sequences take
their elements (`takes_sequence`), objects enter their members into a state one after the
other (`Enters`, `takes_object`), records fill their fields (`Fills`, `takes_record`), and
variants take the body under their name (`takes_variant`). A whole document that is taken
is decoded (`decode_of_takes`).
-/

import Mathlib.Data.List.Forall2
import RuntimeLocator.Json.Decode
import RuntimeLocator.Json.Print
import RuntimeLocator.Proofs.Json.Number
import RuntimeLocator.Proofs.Json.Text

namespace RuntimeLocator.Json

/-! ### What follows a value -/

theorem endsNumber_cons {c : Char} (punctuation : c = ',' ∨ c = ']' ∨ c = '\x7d')
    (rest : List Char) : EndsNumber (c :: rest) := by
  intro d first
  cases Option.mem_some_iff.mp first
  rcases punctuation with rfl | rfl | rfl
  · decide
  · decide
  · decide

/-- Texts with a comma before each. -/
def afterCommas (texts : List (List Char)) : List Char :=
  texts.flatMap (',' :: ·)

theorem separated_cons (text : List Char) (texts : List (List Char)) :
    Print.separated (text :: texts) = text ++ afterCommas texts := by
  induction texts generalizing text with
  | nil => exact (List.append_nil text).symm
  | cons next texts ih =>
    rw [Print.separated, ih]
    · rfl
    · exact List.cons_ne_nil _ _

theorem endsNumber_afterCommas {closing : Char} (closes : closing = ']' ∨ closing = '\x7d')
    (texts : List (List Char)) (rest : List Char) :
    EndsNumber (afterCommas texts ++ closing :: rest) := by
  cases texts with
  | nil => exact endsNumber_cons (.inr closes) rest
  | cons text texts => exact endsNumber_cons (.inl rfl) _

namespace Reader

variable {α β σ : Type}

/-! ### Taking a text as a value -/

/-- A reader takes a text as a value, and no more than the text, before whatever does not go
on with a number. The text begins neither with white space nor with the bracket that would
close a sequence. -/
structure Takes (x : Reader α) (text : List Char) (a : α) : Prop where
  begins : ∃ c cs, text = c :: cs ∧ isSpace c = false ∧ c ≠ ']'
  reads : ∀ {rest}, EndsNumber rest → x.run (text ++ rest) = .ok (a, rest)

theorem run_peekAfterBlank_cons {c : Char} (visible : isSpace c = false) (s : List Char) :
    peekAfterBlank.run (c :: s) = .ok (some c, c :: s) := by
  have stays : (c :: s).dropWhile isSpace = c :: s :=
    List.dropWhile_cons_of_neg (by simp [visible])
  rw [run_peekAfterBlank, stays, List.head?_cons]

theorem run_onValue {read : Char → Reader α} {c : Char} (visible : isSpace c = false)
    (s : List Char) : (onValue read).run (c :: s) = (read c).run (c :: s) := by
  rw [onValue, run_bind_of_ok (run_peekAfterBlank_cons visible s)]

/-- A reader that looks at the first character takes what the reader for this character
takes. -/
theorem takes_onValue {read : Char → Reader α} {c : Char} {text : List Char} {a : α}
    (begins : ∃ cs, text = c :: cs) (visible : isSpace c = false) (opens : c ≠ ']')
    (reads : ∀ {rest}, EndsNumber rest → (read c).run (text ++ rest) = .ok (a, rest)) :
    (onValue read).Takes text a := by
  obtain ⟨cs, rfl⟩ := begins
  exact ⟨⟨c, cs, rfl, visible, opens⟩, fun ends => (run_onValue visible _).trans (reads ends)⟩

/-- A value that is taken may be worked on, as long as nothing more is taken for it. -/
theorem Takes.bind {x : Reader α} {f : α → Reader β} {text : List Char} {a : α} {b : β}
    (takes : x.Takes text a) (answers : ∀ rest, (f a).run rest = .ok (b, rest)) :
    (x >>= f).Takes text b where
  begins := takes.begins
  reads ends := by rw [run_bind_of_ok (takes.reads ends), answers]

theorem Takes.map {x : Reader α} {text : List Char} {a : α} (takes : x.Takes text a)
    (f : α → β) : (x >>= fun a => pure (f a)).Takes text (f a) :=
  takes.bind (run_pure (f a))

/-! ### Scalars -/

theorem run_word (cs rest : List Char) : (word cs).run (cs ++ rest) = .ok ((), rest) := by
  induction cs with
  | nil => rfl
  | cons c cs ih =>
    rw [List.cons_append, word, run_bind_of_ok (run_peek _)]
    simp only [List.head?_cons, if_true]
    rw [run_bind_of_ok (run_advance c _), ih]

theorem takes_boolean (b : Bool) : boolean.Takes (Print.boolean b) b := by
  cases b with
  | true =>
    refine takes_onValue ⟨_, rfl⟩ (by decide) (by decide) fun {rest} _ => ?_
    exact run_bind_of_ok (run_word ['t', 'r', 'u', 'e'] rest)
  | false =>
    refine takes_onValue ⟨_, rfl⟩ (by decide) (by decide) fun {rest} _ => ?_
    exact run_bind_of_ok (run_word ['f', 'a', 'l', 's', 'e'] rest)

/-- A string as it stands before anything else. -/
theorem string_append (s : String) (rest : List Char) :
    Print.string s ++ rest = '"' :: (s.toList.flatMap Print.stringChar ++ '"' :: rest) := by
  simp [Print.string]

theorem takes_string (s : String) : string.Takes (Print.string s) s := by
  refine takes_onValue ⟨_, rfl⟩ (by decide) (by decide) fun {rest} _ => ?_
  rw [string_append]
  exact (run_bind_of_ok (run_advance '"' _)).trans (run_stringTail s rest)

theorem takes_natural {n bound : Nat} (below : n < bound) (fits : n < UInt64.size)
    (expected : String) : (natural bound expected).Takes (Print.natural n) n := by
  obtain ⟨c, cs, digits⟩ := List.exists_cons_of_ne_nil (Nat.toDigits_ne_nil (n := n) (b := 10))
  have digit : isDigit c = true :=
    isDigit_of_mem_toDigits (n := n) (digits ▸ List.mem_cons_self)
  have visible : isSpace c = false := isSpace_of_isDigit digit
  have opens : c ≠ ']' := by
    rintro rfl
    exact absurd digit (by decide)
  refine takes_onValue ⟨cs, digits⟩ visible opens fun {rest} ends => ?_
  simp only [digit, Bool.true_or, if_true]
  rw [Print.natural, run_bind_of_ok (run_number_toDigits fits ends)]
  simp only [below, if_true, run_pure]

theorem takes_uint8 (n : UInt8) : uint8.Takes (Print.natural n.toNat) n := by
  have fits : n.toNat < UInt64.size := Nat.lt_trans n.toNat_lt (by decide)
  have takes := (takes_natural n.toNat_lt fits "u8").map UInt8.ofNat
  rwa [UInt8.ofNat_toNat] at takes

theorem takes_uint32 (n : UInt32) : uint32.Takes (Print.natural n.toNat) n := by
  have fits : n.toNat < UInt64.size := Nat.lt_trans n.toNat_lt (by decide)
  have takes := (takes_natural n.toNat_lt fits "u32").map UInt32.ofNat
  rwa [UInt32.ofNat_toNat] at takes

theorem takes_uint64 (n : UInt64) : uint64.Takes (Print.natural n.toNat) n := by
  have takes := (takes_natural n.toNat_lt n.toNat_lt "u64").map UInt64.ofNat
  rwa [UInt64.ofNat_toNat] at takes

/-! ### Sequences -/

section Sequences

variable {element : Reader α} {text : List Char} {texts : List (List Char)} {a : α} {as : List α}

/-- A value that is taken is told from the bracket that would close a sequence. -/
theorem run_firstElement (takes : element.Takes text a) (rest : List Char) :
    firstElement.run (text ++ rest) = .ok (true, text ++ rest) := by
  obtain ⟨c, cs, rfl, visible, opens⟩ := takes.begins
  rw [List.cons_append, firstElement, run_bind_of_ok (run_peekAfterBlank_cons visible _)]
  split
  · rename_i absent
    cases absent
  · rename_i closes
    exact absurd (Option.some.inj closes) opens
  · rfl

/-- Where an element comes next, the comma before it is passed. -/
theorem run_nextElement (takes : element.Takes text a) (rest : List Char) :
    nextElement.run (',' :: (text ++ rest)) = .ok (true, text ++ rest) := by
  obtain ⟨c, cs, rfl, visible, opens⟩ := takes.begins
  refine (run_bind_of_ok (run_peekAfterBlank_cons (by decide) _)).trans ?_
  refine (run_bind_of_ok (run_advance ',' _)).trans ?_
  refine (run_bind_of_ok (run_peekAfterBlank_cons visible _)).trans ?_
  split
  · rename_i absent
    cases absent
  · rename_i closes
    exact absurd (Option.some.inj closes) opens
  · rfl

theorem run_elementStep (takes : element.Takes text a) (read : List α) {rest : List Char}
    (ends : EndsNumber rest) :
    (elementStep element read).run (',' :: (text ++ rest)) = .ok (some (a :: read), rest) := by
  rw [elementStep, run_bind_of_ok (run_nextElement takes rest), if_pos rfl,
    run_bind_of_ok (takes.reads ends), run_pure]

/-- The elements that are left are read one after the other, up to the closing bracket. -/
theorem run_iterate_elementStep (each : List.Forall₂ element.Takes texts as) (read : List α)
    (rest : List Char) :
    (iterate (elementStep element) (progresses_elementStep element) read).run
      (afterCommas texts ++ ']' :: rest) = .ok (as.reverse ++ read, ']' :: rest) := by
  induction each generalizing read with
  | nil =>
    have stops : (elementStep element read).run (']' :: rest) = .ok (none, ']' :: rest) := rfl
    rw [run_iterate, afterCommas, List.flatMap_nil, List.nil_append, stops]
    rfl
  | @cons text a texts as takes each ih =>
    have step := run_elementStep takes read (endsNumber_afterCommas (.inl rfl) texts rest)
    have unfolded : afterCommas (text :: texts) ++ ']' :: rest =
        ',' :: (text ++ (afterCommas texts ++ ']' :: rest)) := by simp [afterCommas]
    rw [run_iterate, unfolded, step]
    simp only
    rw [ih (a :: read), List.reverse_cons, List.append_assoc, List.singleton_append]

theorem takes_sequence (each : List.Forall₂ element.Takes texts as) :
    (sequence element).Takes (Print.sequence texts) as := by
  refine takes_onValue ⟨_, rfl⟩ (by decide) (by decide) fun {rest} _ => ?_
  cases each with
  | nil => rfl
  | @cons text a texts as takes each =>
    have bracketed : Print.sequence (text :: texts) ++ rest =
        '[' :: (text ++ (afterCommas texts ++ ']' :: rest)) := by
      simp [Print.sequence, separated_cons]
    rw [bracketed]
    refine (run_bind_of_ok (run_advance '[' _)).trans ?_
    rw [run_bind_of_ok (run_firstElement takes _), if_pos rfl,
      run_bind_of_ok (takes.reads (endsNumber_afterCommas (.inl rfl) texts rest)),
      run_bind_of_ok (run_iterate_elementStep each [a] rest)]
    have closes : closeSequence.run (']' :: rest) = .ok ((), rest) := rfl
    rw [run_bind_of_ok closes, run_pure, List.reverse_append, List.reverse_reverse,
      List.reverse_singleton, List.singleton_append]

end Sequences

/-! ### Objects -/

section Objects

variable {entry : σ → String → Reader σ} {state final : σ} {members : List (String × List Char)}

theorem run_colon (rest : List Char) : colon.run (':' :: rest) = .ok ((), rest) := rfl

theorem run_member {value : Reader α} {text rest : List Char} {a : α}
    (takes : value.Takes text a) (ends : EndsNumber rest) :
    (member value).run (':' :: (text ++ rest)) = .ok (a, rest) := by
  rw [member, run_bind_of_ok (run_colon _), takes.reads ends]

/-- The members of an object enter a state one after the other and make it another. -/
inductive Enters (entry : σ → String → Reader σ) : σ → List (String × List Char) → σ → Prop
  | done {state : σ} : Enters entry state [] state
  | next {state entered final : σ} {name : String} {text : List Char}
      {members : List (String × List Char)}
      (reads : ∀ {rest}, EndsNumber rest →
        (entry state name).run (':' :: (text ++ rest)) = .ok (entered, rest))
      (later : Enters entry entered members final) :
      Enters entry state ((name, text) :: members) final

theorem run_key (atEnd : Fault) (name : String) (rest : List Char) :
    (key atEnd).run (Print.string name ++ rest) = .ok (name, rest) := by
  rw [string_append]
  refine (run_bind_of_ok (run_peekAfterBlank_cons (by decide) _)).trans ?_
  exact (run_bind_of_ok (run_advance '"' _)).trans (run_stringTail name rest)

theorem run_firstKey (name : String) (rest : List Char) :
    firstKey.run (Print.string name ++ rest) = .ok (some name, rest) := by
  have read := run_key (.ended .object) name rest
  rw [string_append] at read ⊢
  refine (run_bind_of_ok (run_peekAfterBlank_cons (by decide) _)).trans ?_
  exact run_bind_of_ok read

theorem run_nextKey (name : String) (rest : List Char) :
    nextKey.run (',' :: (Print.string name ++ rest)) = .ok (some name, rest) := by
  refine (run_bind_of_ok (run_peekAfterBlank_cons (by decide) _)).trans ?_
  refine (run_bind_of_ok (run_advance ',' _)).trans ?_
  exact run_bind_of_ok (run_key (.ended .value) name rest)

/-- The texts of members. -/
def memberTexts (members : List (String × List Char)) : List (List Char) :=
  members.map fun m => Print.member m.1 m.2

theorem member_append (name : String) (text rest : List Char) :
    Print.member name text ++ rest = Print.string name ++ ':' :: (text ++ rest) := by
  simp [Print.member]

/-- The members that are left enter the state one after the other, up to the closing
bracket. -/
theorem run_iterate_memberStep (enters : Enters entry state members final) (rest : List Char) :
    (iterate (memberStep entry) (progresses_memberStep entry) state).run
      (afterCommas (memberTexts members) ++ '\x7d' :: rest) = .ok (final, '\x7d' :: rest) := by
  induction enters with
  | @done state =>
    have stops : (memberStep entry state).run ('\x7d' :: rest) = .ok (none, '\x7d' :: rest) := rfl
    rw [run_iterate, memberTexts, List.map_nil, afterCommas, List.flatMap_nil, List.nil_append,
      stops]
  | @next state entered final name text members reads later ih =>
    have unfolded : afterCommas (memberTexts ((name, text) :: members)) ++ '\x7d' :: rest =
        ',' :: (Print.string name ++ ':' ::
          (text ++ (afterCommas (memberTexts members) ++ '\x7d' :: rest))) := by
      simp [afterCommas, memberTexts, Print.member]
    have step : (memberStep entry state).run
        (afterCommas (memberTexts ((name, text) :: members)) ++ '\x7d' :: rest) =
          .ok (some entered, afterCommas (memberTexts members) ++ '\x7d' :: rest) := by
      rw [unfolded, memberStep, run_bind_of_ok (run_nextKey name _)]
      exact run_bind_of_ok (reads (endsNumber_afterCommas (.inr rfl) _ rest))
    rw [run_iterate, step]
    exact ih

/-- The members of an object whose opening bracket has been passed. -/
theorem run_members (enters : Enters entry state members final) (rest : List Char) :
    (Reader.members entry state).run
      (Print.separated (memberTexts members) ++ '\x7d' :: rest) = .ok (final, rest) := by
  cases enters with
  | done => rfl
  | @next _ entered _ name text members reads later =>
    have unfolded : Print.separated (memberTexts ((name, text) :: members)) ++ '\x7d' :: rest =
        Print.string name ++ ':' ::
          (text ++ (afterCommas (memberTexts members) ++ '\x7d' :: rest)) := by
      rw [memberTexts, List.map_cons, separated_cons, List.append_assoc, member_append]
      rfl
    rw [unfolded, Reader.members, run_bind_of_ok (run_firstKey name _)]
    simp only
    rw [run_bind_of_ok (reads (endsNumber_afterCommas (.inr rfl) _ rest)),
      run_bind_of_ok (run_iterate_memberStep later rest), run_bind_of_ok (run_advance _ _),
      run_pure]

theorem object_append (members : List (String × List Char)) (rest : List Char) :
    Print.object members ++ rest =
      '\x7b' :: (Print.separated (memberTexts members) ++ '\x7d' :: rest) := by
  simp [Print.object, memberTexts]

theorem takes_object (enters : Enters entry state members final) :
    (object entry state).Takes (Print.object members) final := by
  refine takes_onValue ⟨_, rfl⟩ (by decide) (by decide) fun {rest} _ => ?_
  rw [object_append]
  exact (run_bind_of_ok (run_advance '\x7b' _)).trans (run_members enters rest)

end Objects

/-! ### Records -/

section Records

/-- The members of an object fill the fields of a record, each its own, in their order. -/
inductive Fills : List (Field σ) → List (String × List Char) → σ → σ → Prop
  | done {record : σ} : Fills [] [] record record
  | next {field : Field σ} {fields : List (Field σ)} {text : List Char}
      {members : List (String × List Char)} {record filled final : σ}
      (takes : (field.read record).Takes text filled)
      (later : Fills fields members filled final) :
      Fills (field :: fields) ((field.name, text) :: members) record final

variable {fields : List (Field σ)} {members : List (String × List Char)} {start final : σ}

/-- A field is found by its name where no other field has it. -/
theorem find?_name_eq_some (distinct : (fields.map (·.name)).Nodup) {field : Field σ}
    (among : field ∈ fields) : fields.find? (·.name == field.name) = some field := by
  induction fields with
  | nil => cases among
  | cons first fields ih =>
    obtain ⟨new, distinct⟩ := List.nodup_cons.mp distinct
    rcases List.mem_cons.mp among with rfl | among
    · exact List.find?_cons_of_pos (beq_self_eq_true _)
    · have other : first.name ≠ field.name := by
        intro same
        exact new (List.mem_map.mpr ⟨field, among, same.symm⟩)
      rw [List.find?_cons_of_neg (by simpa using other), ih distinct among]

/-- A field that was not yet read is filled by its member, and is read from then on. -/
theorem run_fieldMember (distinct : (fields.map (·.name)).Nodup) {field : Field σ}
    (among : field ∈ fields) {seen : List String} (unseen : field.name ∉ seen)
    {text rest : List Char} {filled : σ} (takes : (field.read start).Takes text filled)
    (ends : EndsNumber rest) :
    (fieldMember fields (start, seen) field.name).run (':' :: (text ++ rest)) =
      .ok ((filled, field.name :: seen), rest) := by
  have absent : seen.contains field.name = false := by simpa using unseen
  rw [fieldMember, find?_name_eq_some distinct among]
  simp only [absent, Bool.false_eq_true, if_false]
  rw [run_bind_of_ok (run_member takes ends), run_pure]

theorem enters_of_fills {all : List (Field σ)} (distinct : (all.map (·.name)).Nodup)
    (fills : Fills fields members start final) (known : fields ⊆ all)
    (once : (fields.map (·.name)).Nodup) {seen : List String}
    (unseen : ∀ field ∈ fields, field.name ∉ seen) :
    ∃ read, Enters (fieldMember all) (start, seen) members (final, read) := by
  induction fills generalizing seen with
  | done => exact ⟨seen, .done⟩
  | @next field fields text members record filled final takes later ih =>
    obtain ⟨new, once⟩ := List.nodup_cons.mp once
    obtain ⟨among, known⟩ := List.cons_subset.mp known
    obtain ⟨here, unseen⟩ := List.forall_mem_cons.mp unseen
    have others : ∀ other ∈ fields, other.name ∉ field.name :: seen := by
      intro other mem
      rw [List.mem_cons, not_or]
      exact ⟨fun same => new (List.mem_map.mpr ⟨other, mem, same⟩), unseen other mem⟩
    obtain ⟨read, enters⟩ := ih known once others
    exact ⟨read, .next (run_fieldMember distinct among here takes) enters⟩

/-- A record is read back from an object that gives each of its fields, in their order. -/
theorem takes_record {expected : String} {short : Nat → Option Mismatch}
    (distinct : (fields.map (·.name)).Nodup) (fills : Fills fields members start final) :
    (record expected short fields start).Takes (Print.object members) final := by
  have unseen : ∀ field ∈ fields, field.name ∉ ([] : List String) :=
    fun _ _ => List.not_mem_nil
  obtain ⟨read, enters⟩ :=
    enters_of_fills distinct fills (List.Subset.refl fields) distinct unseen
  refine takes_onValue ⟨_, rfl⟩ (by decide) (by decide) fun {rest} _ => ?_
  rw [object_append]
  refine (run_bind_of_ok (run_advance '\x7b' _)).trans ?_
  rw [run_bind_of_ok (run_members enters rest), run_pure]

end Records

/-! ### Variants -/

section Variants

variable {variants : List (Variant α)} {name : String} {v : Variant α} {text : List Char} {a : α}

theorem run_named (known : variants.find? (·.name == name) = some v) (rest : List Char) :
    (named variants name).run rest = .ok (v, rest) := by
  rw [named, known]
  rfl

/-- The name of a variant alone, where it stands for a value. -/
theorem run_bareVariant (known : variants.find? (·.name == name) = some v)
    (bare : v.bare = .ok a) (rest : List Char) :
    (bareVariant variants name).run rest = .ok (a, rest) := by
  rw [bareVariant, run_bind_of_ok (run_named known rest), bare]
  rfl

theorem takes_bareVariant (known : variants.find? (·.name == name) = some v)
    (bare : v.bare = .ok a) : (variant variants).Takes (Print.string name) a := by
  refine takes_onValue ⟨_, rfl⟩ (by decide) (by decide) fun {rest} _ => ?_
  rw [string_append]
  refine (run_bind_of_ok (run_advance '"' _)).trans ?_
  rw [run_bind_of_ok (run_stringTail name rest), run_bareVariant known bare]

/-- An object whose only member has the name of a variant gives its body. -/
theorem takes_variant (known : variants.find? (·.name == name) = some v)
    (takes : v.body.Takes text a) : (variant variants).Takes (Print.object [(name, text)]) a := by
  refine takes_onValue ⟨_, rfl⟩ (by decide) (by decide) fun {rest} _ => ?_
  have single : Print.separated (memberTexts [(name, text)]) ++ '\x7d' :: rest =
      Print.string name ++ ':' :: (text ++ '\x7d' :: rest) :=
    member_append name text ('\x7d' :: rest)
  rw [object_append, single, string_append]
  refine (run_bind_of_ok (run_advance '\x7b' _)).trans ?_
  refine (run_bind_of_ok (run_peekAfterBlank_cons (by decide) _)).trans ?_
  refine (run_bind_of_ok (run_advance '"' _)).trans ?_
  have closes : closeVariant.run ('\x7d' :: rest) = .ok ((), rest) := rfl
  rw [run_bind_of_ok (run_stringTail name _), run_bind_of_ok (run_named known _),
    run_bind_of_ok (run_member takes (endsNumber_cons (.inr (.inr rfl)) rest)),
    run_bind_of_ok closes, run_pure]

end Variants

/-! ### Documents -/

/-- A document that is taken whole is decoded. -/
theorem decode_of_takes {x : Reader α} {text : List Char} {a : α} (takes : x.Takes text a) :
    decode x (String.ofList text) = .ok a := by
  have read : x.run text = .ok (a, []) := by
    have whole := takes.reads endsNumber_nil
    rwa [List.append_nil] at whole
  have ends : finish.run [] = .ok ((), []) := rfl
  simp only [decode, String.toList_ofList]
  rw [run_bind_of_ok read, run_bind_of_ok ends, run_pure]

end Reader

end RuntimeLocator.Json
