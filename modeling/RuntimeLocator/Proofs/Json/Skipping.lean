/-
Values of any shape are passed over, and no more than they.

A value is a word, a number, a string or a bracketed list of values, in an object each behind its
name. Passing over one goes step by step, with the brackets that are open in a list, while the
grammar nests values in each other. The two meet in `skipOn_of_derives`: from the start of a value
the steps come to its end with the same brackets open, and from the end of a value inside a bracket
they come to the end of that bracket.
-/

import RuntimeLocator.Proofs.Json.Decode
import RuntimeLocator.Proofs.Json.Grammar

namespace RuntimeLocator.Json

/-! ### Values -/

/-- The character that opens a bracket. -/
def Bracket.opening : Bracket → Char
  | .list => '['
  | .object => '\x7b'

/-- What stands before a value inside a bracket: in an object, its name and a colon. -/
inductive Leads : Bracket → List Char → List Char → Prop
  | element {s t : List Char} (blank : Blanks s t) : Leads .list s t
  | member {s k r u t : List Char} (before : Blanks s ('"' :: k)) (name : PassedBody k r)
      (between : Blanks r (':' :: u)) (after : Blanks u t) : Leads .object s t

/-- What a rule for values describes. -/
inductive Phrase where
  | value
  /-- What follows a value inside a bracket, the closing bracket included. -/
  | rest (bracket : Bracket)

/-- The words that are values. -/
def words : List (List Char) :=
  [['n', 'u', 'l', 'l'], ['t', 'r', 'u', 'e'], ['f', 'a', 'l', 's', 'e']]

inductive Derives : Phrase → List Char → List Char → Prop
  | word {w t : List Char} (known : w ∈ words) : Derives .value (w ++ t) t
  | numeral {s t : List Char} (numeral : Numeral s t) : Derives .value s t
  | string {s t : List Char} (body : PassedBody s t) : Derives .value ('"' :: s) t
  | empty {bracket : Bracket} {s t : List Char} (blank : Blanks s (bracket.closing :: t)) :
      Derives .value (bracket.opening :: s) t
  | bracketed {bracket : Bracket} {s r u t : List Char} (leads : Leads bracket s r)
      (first : Derives .value r u) (later : Derives (.rest bracket) u t) :
      Derives .value (bracket.opening :: s) t
  | closed {bracket : Bracket} {s t : List Char} (blank : Blanks s (bracket.closing :: t)) :
      Derives (.rest bracket) s t
  | next {bracket : Bracket} {s u r v t : List Char} (comma : Blanks s (',' :: u))
      (leads : Leads bracket u r) (value : Derives .value r v)
      (later : Derives (.rest bracket) v t) : Derives (.rest bracket) s t

theorem Numeral.begins {s t : List Char} (numeral : Numeral s t) :
    ∃ c r, s = c :: r ∧ (isDigit c = true ∨ c = '-') := by
  obtain ⟨⟨a, b, c, minus, whole, -, -⟩, -⟩ := numeral
  cases minus with
  | absent =>
    obtain ⟨d, r, same, digit⟩ := whole.exists_digit
    exact ⟨d, r, same, .inl digit⟩
  | present => exact ⟨'-', a, rfl, .inr rfl⟩

/-- A value begins neither with blank text nor as the end of a list does. -/
theorem Derives.begins {s t : List Char} (derives : Derives .value s t) :
    ∃ c r, s = c :: r ∧ Reader.isSpace c = false ∧ c ≠ ']' := by
  cases derives with
  | word known =>
    simp only [words, List.mem_cons, List.not_mem_nil, or_false] at known
    rcases known with rfl | rfl | rfl <;> exact ⟨_, _, rfl, rfl, by decide⟩
  | numeral numeral =>
    obtain ⟨c, r, rfl, digit | rfl⟩ := numeral.begins
    · refine ⟨c, r, rfl, isSpace_of_isDigit digit, ?_⟩
      rintro rfl
      exact absurd digit (by decide)
    · exact ⟨'-', r, rfl, rfl, by decide⟩
  | string body => exact ⟨'"', _, rfl, rfl, by decide⟩
  | @empty bracket | @bracketed bracket =>
    cases bracket <;> exact ⟨_, _, rfl, rfl, by decide⟩

namespace Reader

variable {α β : Type}

/-! ### Blank text makes no difference -/

/-- A reader that reads the same whether or not there is blank text before it. -/
def IgnoresBlank (x : Reader α) : Prop :=
  ∀ ⦃s t⦄, Blanks s t → x.run s = x.run t

theorem dropWhile_of_blanks {s t : List Char} (blank : Blanks s t) :
    s.dropWhile isSpace = t.dropWhile isSpace := by
  induction blank with
  | none => rfl
  | more blank later ih => rw [List.dropWhile_cons_of_pos blank, ih]

theorem ignoresBlank_peekAfterBlank : peekAfterBlank.IgnoresBlank := by
  intro s t blank
  rw [run_peekAfterBlank, run_peekAfterBlank, dropWhile_of_blanks blank]

theorem IgnoresBlank.bind {x : Reader α} (ignores : x.IgnoresBlank) (f : α → Reader β) :
    (x >>= f).IgnoresBlank := by
  intro s t blank
  rw [run_bind, run_bind, ignores blank]

theorem run_peekAfterBlank_of_blanks {c : Char} {s t : List Char} (blank : Blanks s (c :: t))
    (visible : isSpace c = false) : peekAfterBlank.run s = .ok (some c, c :: t) := by
  rw [ignoresBlank_peekAfterBlank blank, run_peekAfterBlank_cons visible]

/-! ### Steps -/

/-- Passes over all that is left from a state on. -/
def skipOn (state : SkipState) : Reader SkipState :=
  iterate skipStep progresses_skipStep state

section Steps

variable {brackets outer : List Bracket} {inner : Bracket} {s r t : List Char}

theorem run_skipOn {state : SkipState} {x : Reader SkipState}
    (step : skipStep state = do let next ← x; return some next) (s : List Char) :
    (skipOn state).run s = (x >>= skipOn).run s := by
  rw [skipOn, run_iterate, step, run_bind, run_bind]
  cases x.run s with
  | error fault => rfl
  | ok read => rfl

theorem run_skipOn_value (brackets : List Bracket) (s : List Char) :
    (skipOn (.value brackets)).run s = (skipStart brackets >>= skipOn).run s :=
  run_skipOn rfl s

theorem run_skipOn_opened (inner : Bracket) (outer : List Bracket) (s : List Char) :
    (skipOn (.opened inner outer)).run s = (skipOpened inner outer >>= skipOn).run s :=
  run_skipOn rfl s

theorem run_skipOn_ended (inner : Bracket) (outer : List Bracket) (s : List Char) :
    (skipOn (.ended (inner :: outer))).run s = (skipEnded inner outer >>= skipOn).run s :=
  run_skipOn rfl s

theorem ignoresBlank_skipStart (brackets : List Bracket) : (skipStart brackets).IgnoresBlank :=
  ignoresBlank_peekAfterBlank.bind _

/-! ### The start of a value -/

theorem run_skipStart_of_word {w : List Char} (known : w ∈ words) :
    (skipStart brackets).run (w ++ t) = .ok (.ended brackets, t) := by
  simp only [words, List.mem_cons, List.not_mem_nil, or_false] at known
  rcases known with rfl | rfl | rfl
  case inl =>
    refine (run_bind_of_ok (run_peekAfterBlank_cons rfl _)).trans ?_
    exact run_bind_of_ok (run_word ['n', 'u', 'l', 'l'] t)
  case inr.inl =>
    refine (run_bind_of_ok (run_peekAfterBlank_cons rfl _)).trans ?_
    exact run_bind_of_ok (run_word ['t', 'r', 'u', 'e'] t)
  case inr.inr =>
    refine (run_bind_of_ok (run_peekAfterBlank_cons rfl _)).trans ?_
    exact run_bind_of_ok (run_word ['f', 'a', 'l', 's', 'e'] t)

theorem run_skipStart_of_numeral (numeral : Numeral s t) :
    (skipStart brackets).run s = .ok (.ended brackets, t) := by
  have read := run_skipNumber_of_numeral numeral
  obtain ⟨c, r, rfl, begins⟩ := numeral.begins
  have visible : isSpace c = false := by
    obtain ⟨d, r, same, visible, -⟩ := (Derives.numeral numeral).begins
    cases same
    exact visible
  refine (run_bind_of_ok (run_peekAfterBlank_cons visible _)).trans ?_
  have other {d : Char} (mark : isDigit d = false) (notMinus : d ≠ '-') : c ≠ d := by
    rintro rfl
    rcases begins with digit | minus
    · exact absurd digit (by rw [mark]; exact Bool.false_ne_true)
    · exact notMinus minus
  split
  case h_1 absent => cases absent
  case h_2 same | h_3 same | h_4 same | h_5 same | h_6 same | h_7 same =>
    exact absurd (Option.some.inj same) (other rfl (by decide))
  case h_8 same =>
    cases same
    have number : (isDigit c || c == '-') = true := by
      rw [Bool.or_eq_true, beq_iff_eq]
      exact begins
    rw [if_pos number, run_bind_of_ok read, run_pure]

theorem run_skipStart_of_string (body : PassedBody s t) :
    (skipStart brackets).run ('"' :: s) = .ok (.ended brackets, t) :=
  run_bind_of_ok (run_skipString_of_passed body)

theorem run_skipStart_of_opening (bracket : Bracket) (s : List Char) :
    (skipStart brackets).run (bracket.opening :: s) = .ok (.opened bracket brackets, s) := by
  cases bracket <;> rfl

/-! ### Inside a bracket -/

theorem ignoresBlank_skipOn (brackets : List Bracket) :
    (skipOn (.value brackets)).IgnoresBlank := by
  intro s t blank
  rw [run_skipOn_value, run_skipOn_value, (ignoresBlank_skipStart brackets).bind skipOn blank]

theorem isSpace_closing (bracket : Bracket) : isSpace bracket.closing = false := by
  cases bracket <;> rfl

theorem run_skipKey {k u : List Char} (before : Blanks s ('"' :: k)) (name : PassedBody k r)
    (between : Blanks r (':' :: u)) : skipKey.run s = .ok ((), u) := by
  refine (run_bind_of_ok (run_peekAfterBlank_of_blanks before rfl)).trans ?_
  refine (run_bind_of_ok (run_advance '"' k)).trans ?_
  refine (run_bind_of_ok (run_skipString_of_passed name)).trans ?_
  exact run_bind_of_ok (run_peekAfterBlank_of_blanks between rfl)

/-- What leads to a value is passed over before it. -/
theorem run_skipKeyIn_of_leads (leads : Leads inner s t) {x : Reader α} (ignores : x.IgnoresBlank) :
    (skipKeyIn inner >>= fun _ => x).run s = x.run t := by
  cases leads with
  | element blank => exact ignores blank
  | member before name between after =>
    rw [skipKeyIn, run_bind_of_ok (run_skipKey before name between), ignores after]

/-- What leads to a value is told from the end of the bracket. -/
theorem exists_leads {u : List Char} (leads : Leads inner s r) (value : Derives .value r u) :
    ∃ c k, Blanks s (c :: k) ∧ isSpace c = false ∧ c ≠ inner.closing ∧ Leads inner (c :: k) r := by
  cases leads with
  | element blank =>
    obtain ⟨c, k, rfl, visible, opens⟩ := value.begins
    exact ⟨c, k, blank, visible, opens, .element .none⟩
  | member before name between after =>
    exact ⟨'"', _, before, rfl, by decide, .member .none name between after⟩

theorem run_skipOn_of_opened {u : List Char} (leads : Leads inner s r)
    (value : Derives .value r u) :
    (skipOn (.opened inner outer)).run s = (skipOn (.value (inner :: outer))).run r := by
  obtain ⟨c, k, blank, visible, opens, leads⟩ := exists_leads leads value
  have opened : (skipOpened inner outer).run s = (skipStart (inner :: outer)).run r := by
    refine (run_bind_of_ok (run_peekAfterBlank_of_blanks blank visible)).trans ?_
    simp only [if_neg opens]
    exact run_skipKeyIn_of_leads leads (ignoresBlank_skipStart _)
  rw [run_skipOn_opened, run_skipOn_value, run_bind, run_bind, opened]

theorem run_skipOn_of_comma {u : List Char} (comma : Blanks s (',' :: u))
    (leads : Leads inner u r) :
    (skipOn (.ended (inner :: outer))).run s = (skipOn (.value (inner :: outer))).run r := by
  have passed : (skipEnded inner outer).run s =
      (skipKeyIn inner >>= fun _ => pure (.value (inner :: outer))).run u := by
    refine (run_bind_of_ok (run_peekAfterBlank_of_blanks comma rfl)).trans ?_
    simp only [if_true]
    exact run_bind_of_ok (run_advance ',' u)
  rw [← run_skipKeyIn_of_leads leads (ignoresBlank_skipOn (inner :: outer)), run_skipOn_ended,
    run_bind, run_bind, passed, run_bind]
  cases (skipKeyIn inner).run u with
  | error fault => rfl
  | ok read => rfl

theorem run_skipOn_of_empty (blank : Blanks s (inner.closing :: t)) :
    (skipOn (.opened inner outer)).run s = (skipOn (.ended outer)).run t := by
  have closes : (skipOpened inner outer).run s = .ok (.ended outer, t) := by
    refine (run_bind_of_ok (run_peekAfterBlank_of_blanks blank (isSpace_closing inner))).trans ?_
    simp only [if_pos]
    rfl
  rw [run_skipOn_opened, run_bind_of_ok closes]

theorem run_skipOn_of_closed (blank : Blanks s (inner.closing :: t)) :
    (skipOn (.ended (inner :: outer))).run s = (skipOn (.ended outer)).run t := by
  have closes : (skipEnded inner outer).run s = .ok (.ended outer, t) := by
    refine (run_bind_of_ok (run_peekAfterBlank_of_blanks blank (isSpace_closing inner))).trans ?_
    have notComma : inner.closing ≠ ',' := by cases inner <;> decide
    simp only [if_neg notComma, if_pos]
    rfl
  rw [run_skipOn_ended, run_bind_of_ok closes]

/-! ### Whole values -/

/-- What passing over a phrase comes to. -/
def Skips (s t : List Char) : Phrase → Prop
  | .value => ∀ brackets,
    (skipOn (.value brackets)).run s = (skipOn (.ended brackets)).run t
  | .rest inner => ∀ outer,
    (skipOn (.ended (inner :: outer))).run s = (skipOn (.ended outer)).run t

theorem skipOn_of_derives {phrase : Phrase} (derives : Derives phrase s t) : Skips s t phrase := by
  have started {s t : List Char} {state : SkipState} {brackets : List Bracket}
      (starts : (skipStart brackets).run s = .ok (state, t)) :
      (skipOn (.value brackets)).run s = (skipOn state).run t := by
    rw [run_skipOn_value, run_bind_of_ok starts]
  induction derives with
  | word known => exact fun brackets => started (run_skipStart_of_word known)
  | numeral numeral => exact fun brackets => started (run_skipStart_of_numeral numeral)
  | string body => exact fun brackets => started (run_skipStart_of_string body)
  | empty blank =>
    intro brackets
    rw [started (run_skipStart_of_opening _ _), run_skipOn_of_empty blank]
  | bracketed leads first later ihFirst ihLater =>
    intro brackets
    rw [started (run_skipStart_of_opening _ _), run_skipOn_of_opened leads first, ihFirst, ihLater]
  | closed blank => exact fun outer => run_skipOn_of_closed blank
  | next comma leads value later ihValue ihLater =>
    intro outer
    rw [run_skipOn_of_comma comma leads, ihValue, ihLater]

theorem ignoresBlank_skipValue : skipValue.IgnoresBlank :=
  (ignoresBlank_skipOn []).bind _

/-- **A value is passed over to its end**, whatever shape it has and however deep it is. -/
theorem run_skipValue_of_derives (derives : Derives .value s t) :
    skipValue.run s = .ok ((), t) := by
  have passed : (skipOn (.value [])).run s = .ok (.ended [], t) := by
    rw [skipOn_of_derives derives []]
    exact run_iterate ..
  exact run_bind_of_ok passed

end Steps

end Reader

end RuntimeLocator.Json
