/-
Runs of scripts, one after the other.

A run is a list of calls with an answer, so running two scripts in sequence appends
their calls and hands the state of the host on (`Script.run_bind`). Nothing here says
who answers: a host may remember what it was asked, and may answer the same call
differently each time.

What a script does on a host is described by relations, with a case for each way in which
it can go. Such a description is exact once its cases are sound and one of them always
applies (`eq_iff_of_exists`).
-/

import RuntimeLocator.Lookup.Script

namespace RuntimeLocator.Script

variable {α β σ : Type}

/-- A description that holds of nothing but one value, and of some value, holds of that
value alone. -/
theorem eq_iff_of_exists {describes : α → Prop} {value : α}
    (sound : ∀ other, describes other → value = other) (total : ∃ other, describes other)
    (other : α) : value = other ↔ describes other := by
  constructor
  · rintro rfl
    obtain ⟨found, described⟩ := total
    rwa [sound found described]
  · exact sound other

/-- The run of two scripts in sequence, from the runs of each. -/
def Run.followedBy (first : Run α σ) (rest : Run β σ) : Run β σ :=
  ⟨rest.answer, first.calls ++ rest.calls, rest.state⟩

/-- A run whose answer is worked on further without a call. -/
def Run.map (f : α → β) (run : Run α σ) : Run β σ :=
  ⟨f run.answer, run.calls, run.state⟩

@[simp] theorem run_pure (host : Host σ) (a : α) (state : σ) :
    (pure a : Script α).run host state = ⟨a, [], state⟩ := rfl

/-- The calls of a sequence are those of its first script, then those of the second,
which goes on from the state that the first one left. -/
theorem run_bind (host : Host σ) (script : Script α) (f : α → Script β) (state : σ) :
    (script >>= f).run host state =
      (script.run host state).followedBy
        ((f (script.run host state).answer).run host (script.run host state).state) := by
  induction script generalizing state with
  | done a => rfl
  | call c next ih =>
    have rest := ih (host.reply c state).1 (host.reply c state).2
    simp only [bind, Script.bind, run] at rest ⊢
    rw [rest]
    rfl

/-! ### Variables of the environment -/

/-- A host gives a variable a value that counts: it is set, and not empty. -/
def Host.Gives (host : Host σ) (name : String) (before : σ) (text : String) (after : σ) : Prop :=
  host.reply (.getVariable name) before = (some text, after) ∧ text ≠ ""

/-- A host withholds a variable: it is not set, or it is empty. -/
def Host.Withholds (host : Host σ) (name : String) (before after : σ) : Prop :=
  host.reply (.getVariable name) before = (none, after) ∨
    host.reply (.getVariable name) before = (some "", after)

theorem Host.gives_or_withholds (host : Host σ) (name : String) (before : σ) :
    (∃ text after, host.Gives name before text after) ∨
      ∃ after, host.Withholds name before after := by
  rcases asked : host.reply (.getVariable name) before with ⟨value, after⟩
  cases value with
  | none => exact .inr ⟨after, .inl asked⟩
  | some text =>
    by_cases empty : text = ""
    · subst empty
      exact .inr ⟨after, .inr asked⟩
    · exact .inl ⟨text, after, asked, empty⟩

theorem run_nonEmptyVariable_of_gives {host : Host σ} {name text : String} {before after : σ}
    (gives : host.Gives name before text after) :
    (nonEmptyVariable name).run host before = ⟨some text, [.getVariable name], after⟩ := by
  obtain ⟨asked, nonempty⟩ := gives
  simp [nonEmptyVariable, run, asked, Option.filter, nonempty]

theorem run_nonEmptyVariable_of_withholds {host : Host σ} {name : String} {before after : σ}
    (withholds : host.Withholds name before after) :
    (nonEmptyVariable name).run host before = ⟨none, [.getVariable name], after⟩ := by
  rcases withholds with asked | asked
  · simp [nonEmptyVariable, run, asked, Option.filter]
  · simp [nonEmptyVariable, run, asked, Option.filter]

end RuntimeLocator.Script
