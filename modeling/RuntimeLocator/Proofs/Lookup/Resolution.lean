/-
Resolutions as runs: every run of `resolve` on a host that answers in any way.

`Composed` lists the ways in which composing a path ends, one for each stage that can
fail and one for success, and `Resolves` puts the tiers and the stages together.
`run_resolve_eq_iff` says that these are the runs of a resolution, and all of them: the
calls stand in the run, so a stray call, a second tier or a failure of a later stage
that hides an earlier one would be another run.
-/

import RuntimeLocator.Proofs.Lookup.Tiers

namespace RuntimeLocator

open Script

/-! ### Composing the path -/

/-- The buffer after the version, if one is pinned. -/
inductive Versioned (seeded : PathBuffer) : Option String → PathBuffer → Prop where
  | unpinned : Versioned seeded none seeded
  | pinned {version : String} {versioned : PathBuffer}
      (appends : seeded.append version = .ok versioned) :
      Versioned seeded (some version) versioned

/-- How composing a path ends: the first stage that fails gives the outcome. The stages
are the root, the version and the product directory, in this order. -/
inductive Composed (settings : Settings) (maxChars : Nat) (source : RootSource)
    (root : String) : Option String → Except LookupFailure Resolution → Prop where
  | rootFails {version : Option String} {failure : LookupFailure}
      (seeds : PathBuffer.hold root maxChars = .error failure) :
      Composed settings maxChars source root version (.error failure)
  | versionFails {version : String} {seeded : PathBuffer} {failure : LookupFailure}
      (seeds : PathBuffer.hold root maxChars = .ok seeded)
      (appends : seeded.append version = .error failure) :
      Composed settings maxChars source root (some version) (.error failure)
  | directoryFails {version : Option String} {seeded versioned : PathBuffer}
      {failure : LookupFailure}
      (seeds : PathBuffer.hold root maxChars = .ok seeded)
      (pins : Versioned seeded version versioned)
      (appends : versioned.append settings.productDirectory = .error failure) :
      Composed settings maxChars source root version (.error failure)
  | succeeds {version : Option String} {seeded versioned final : PathBuffer}
      (seeds : PathBuffer.hold root maxChars = .ok seeded)
      (pins : Versioned seeded version versioned)
      (appends : versioned.append settings.productDirectory = .ok final) :
      Composed settings maxChars source root version (.ok ⟨final.path, source, version⟩)

section Compose

variable {settings : Settings} {maxChars : Nat} {source : RootSource} {root : String}
  {version : Option String}

theorem compose_of_versioned {seeded versioned : PathBuffer}
    (seeds : PathBuffer.hold root maxChars = .ok seeded)
    (pins : Versioned seeded version versioned) :
    compose settings maxChars source version root =
      (versioned.append settings.productDirectory).map fun final =>
        ⟨final.path, source, version⟩ := by
  cases pins with
  | unpinned =>
    simp only [compose, seeds, bind, Except.bind]
    cases seeded.append settings.productDirectory <;> rfl
  | pinned appends =>
    simp only [compose, seeds, appends, bind, Except.bind]
    cases versioned.append settings.productDirectory <;> rfl

theorem compose_of_composed {outcome : Except LookupFailure Resolution}
    (composed : Composed settings maxChars source root version outcome) :
    compose settings maxChars source version root = outcome := by
  cases composed with
  | rootFails seeds => simp [compose, seeds, bind, Except.bind]
  | versionFails seeds appends => simp [compose, seeds, appends, bind, Except.bind]
  | directoryFails seeds pins appends =>
    rw [compose_of_versioned seeds pins, appends]
    rfl
  | succeeds seeds pins appends =>
    rw [compose_of_versioned seeds pins, appends]
    rfl

/-- Composing a path always ends, in one of the four ways. -/
theorem exists_composed (settings : Settings) (maxChars : Nat) (source : RootSource)
    (root : String) (version : Option String) :
    ∃ outcome, Composed settings maxChars source root version outcome := by
  have last (seeded versioned : PathBuffer) (seeds : PathBuffer.hold root maxChars = .ok seeded)
      (pins : Versioned seeded version versioned) :
      ∃ outcome, Composed settings maxChars source root version outcome := by
    cases appends : versioned.append settings.productDirectory with
    | error failure => exact ⟨_, .directoryFails seeds pins appends⟩
    | ok final => exact ⟨_, .succeeds seeds pins appends⟩
  cases seeds : PathBuffer.hold root maxChars with
  | error failure => exact ⟨_, .rootFails seeds⟩
  | ok seeded =>
    cases version with
    | none => exact last seeded seeded seeds .unpinned
    | some version =>
      cases appends : seeded.append version with
      | error failure => exact ⟨_, .versionFails seeds appends⟩
      | ok versioned => exact last seeded versioned seeds (.pinned appends)

theorem compose_eq_iff {outcome : Except LookupFailure Resolution} :
    compose settings maxChars source version root = outcome ↔
      Composed settings maxChars source root version outcome := by
  refine eq_iff_of_exists ?_ (exists_composed settings maxChars source root version) outcome
  intro other composed
  exact compose_of_composed composed

end Compose

/-! ### The runs of a resolution -/

section Runs

variable {σ : Type}

/-- A read asks for no variable. -/
theorem getVariable_notMem_calls_readString (host : Host σ) (hive : Hive)
    (keyPath valueName : String) (maxChars : Nat) (start : σ) (name : String) :
    Call.getVariable name ∉
      ((readString hive keyPath valueName maxChars).run host start).calls := by
  unfold readString
  split
  · simp [run]
  · simp only [run]
    split
    · simp [run]
    · simp [run]

/-- The runs of a resolution. A capacity that is too small is refused without a call, a
root that is not read ends the run with the failure to read it, and a root that a tier
supplied is composed. -/
inductive Resolves (host : Host σ) (settings : Settings) (maxChars : Nat) (start : σ) :
    Run (Except LookupFailure Resolution) σ → Prop where
  | tooSmall (small : maxChars < 260) :
      Resolves host settings maxChars start ⟨.error (.bufferTooSmall maxChars 260), [], start⟩
  | readFails (large : 260 ≤ maxChars) {source : RootSource} {version : Option String}
      {failure : LookupFailure} {calls : List Call} {final : σ}
      (consulted : Consulted host settings maxChars start
        ⟨⟨source, version, .error failure⟩, calls, final⟩) :
      Resolves host settings maxChars start ⟨.error failure, calls, final⟩
  | composes (large : 260 ≤ maxChars) {source : RootSource} {version : Option String}
      {root : String} {calls : List Call} {final : σ}
      {outcome : Except LookupFailure Resolution}
      (consulted : Consulted host settings maxChars start
        ⟨⟨source, version, .ok root⟩, calls, final⟩)
      (composed : Composed settings maxChars source root version outcome) :
      Resolves host settings maxChars start ⟨outcome, calls, final⟩

variable {host : Host σ} {settings : Settings} {maxChars : Nat} {start : σ}

/-- What composing makes of a supply is what the resolution answers. -/
theorem resolution_of_composed {source : RootSource} {version : Option String} {root : String}
    {outcome : Except LookupFailure Resolution}
    (composed : Composed settings maxChars source root version outcome) :
    Supply.resolution settings maxChars ⟨source, version, .ok root⟩ = outcome :=
  compose_of_composed composed

theorem run_resolve_of_resolves {run : Run (Except LookupFailure Resolution) σ}
    (resolves : Resolves host settings maxChars start run) :
    (resolve settings maxChars).run host start = run := by
  cases resolves with
  | tooSmall small =>
    rw [resolve, if_pos (show maxChars < minPathChars from small)]
    rfl
  | readFails large consulted =>
    rw [resolve_eq_supply large, run_supply_of_consulted consulted]
    rfl
  | composes large consulted composed =>
    rw [resolve_eq_supply large, run_supply_of_consulted consulted, Run.map,
      resolution_of_composed composed]

theorem exists_resolves (host : Host σ) (settings : Settings) (maxChars : Nat) (start : σ) :
    ∃ run, Resolves host settings maxChars start run := by
  rcases Nat.lt_or_ge maxChars 260 with small | large
  · exact ⟨_, .tooSmall small⟩
  · obtain ⟨⟨⟨source, version, root⟩, calls, final⟩, consulted⟩ :=
      exists_consulted host settings maxChars start
    cases root with
    | error failure => exact ⟨_, .readFails large consulted⟩
    | ok root =>
      obtain ⟨outcome, composed⟩ := exists_composed settings maxChars source root version
      exact ⟨_, .composes large consulted composed⟩

/-- A resolution that succeeds was composed of a root that a tier supplied, and says which
tier it was and which version was pinned. -/
theorem exists_supplied_of_answer_ok {resolution : Resolution}
    (answers : ((resolve settings maxChars).run host start).answer = .ok resolution) :
    ∃ root : String,
      Consulted host settings maxChars start
        ⟨⟨resolution.source, resolution.version, .ok root⟩,
          ((resolve settings maxChars).run host start).calls,
          ((resolve settings maxChars).run host start).state⟩ ∧
      Composed settings maxChars resolution.source root resolution.version (.ok resolution) := by
  obtain ⟨run, resolves⟩ := exists_resolves host settings maxChars start
  rw [run_resolve_of_resolves resolves] at answers ⊢
  cases resolves with
  | tooSmall => cases answers
  | readFails => cases answers
  | composes large consulted composed =>
    cases answers
    cases composed with
    | succeeds seeds pins appends => exact ⟨_, consulted, .succeeds seeds pins appends⟩

/-- A resolution runs in one of the ways of `Resolves` and in no other, whatever the host
answers, and its reads ask for no variable beside those in the run. -/
theorem run_resolve_eq_iff (host : Host σ) (settings : Settings) (maxChars : Nat) (start : σ) :
    (∀ run : Run (Except LookupFailure Resolution) σ,
      (resolve settings maxChars).run host start = run ↔
        Resolves host settings maxChars start run) ∧
    ∀ (hive : Hive) (keyPath valueName name : String) (opened : σ),
      Call.getVariable name ∉
        ((readString hive keyPath valueName maxChars).run host opened).calls := by
  constructor
  · intro run
    refine eq_iff_of_exists ?_ (exists_resolves host settings maxChars start) run
    intro other resolves
    exact run_resolve_of_resolves resolves
  · intro hive keyPath valueName name opened
    exact getVariable_notMem_calls_readString host hive keyPath valueName maxChars opened name

end Runs

end RuntimeLocator
