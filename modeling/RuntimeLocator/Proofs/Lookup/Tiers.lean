/-
The tiers of resolution, asked of a host that answers in any way.

Resolution has two halves. First a tier supplies a root, which is all that the world is
asked for (`supply`, and `Consulted` as a relation); then the path is composed without
another call (`compose`, and `Composed` as a relation). `resolve_eq_supply` says that
there is nothing else to it, and `run_resolve_eq_iff` gives the runs of a resolution:
which calls it makes, in which order, and what comes of them.
-/

import RuntimeLocator.Lookup.Resolve
import RuntimeLocator.Proofs.Lookup.Run

namespace RuntimeLocator

open Script

/-! ### The root that a tier supplies -/

/-- What the winning tier supplies: its root, or the failure to read one, and the version
that is pinned. -/
structure Supply where
  source : RootSource
  version : Option String
  root : Except LookupFailure String

/-- The half of a resolution that asks for a root. -/
def supply (settings : Settings) (maxChars : Nat) : Script Supply := do
  match ← Script.nonEmptyVariable settings.versionVariable with
  | some version =>
    match ← Script.nonEmptyVariable settings.rootVariable with
    | some root => return ⟨.environmentOverride, some version, .ok root⟩
    | none =>
      let root ← readString settings.hive settings.installRootKey
        settings.installRootValue maxChars
      return ⟨.registeredInstallRoot, some version, root⟩
  | none =>
    let root ← readString settings.hive settings.installPathKey
      settings.installPathValue maxChars
    return ⟨.registeredInstallPath, none, root⟩

/-- What is composed of a supply. A root that was not read leaves its failure. -/
def Supply.resolution (settings : Settings) (maxChars : Nat) (supply : Supply) :
    Except LookupFailure Resolution :=
  supply.root.bind (compose settings maxChars supply.source supply.version)

section Runs

variable {σ : Type}

/-- Into a capacity that is large enough, a resolution is a supply that is composed. -/
theorem resolve_eq_supply {settings : Settings} {maxChars : Nat}
    (large : minPathChars ≤ maxChars) (host : Host σ) (start : σ) :
    (resolve settings maxChars).run host start =
      ((supply settings maxChars).run host start).map (Supply.resolution settings maxChars) := by
  rw [resolve, if_neg (Nat.not_lt.mpr large), supply]
  simp only [run_bind]
  cases ((Script.nonEmptyVariable settings.versionVariable).run host start).answer with
  | none => simp [run_bind, Run.followedBy, Run.map, Supply.resolution]
  | some version =>
    simp only [run_bind]
    generalize (Script.nonEmptyVariable settings.rootVariable).run host _ = asked
    cases asked.answer with
    | none => simp [run_bind, Run.followedBy, Run.map, Supply.resolution]
    | some root => simp [Run.followedBy, Run.map, Supply.resolution, Except.bind]

/-- The runs in which a tier supplies a root. The version variable comes first. Only under
a pinned version is the root variable asked for, and only where it is withheld is the
install root read; without a version the install path is read at once. -/
inductive Consulted (host : Host σ) (settings : Settings) (maxChars : Nat) (start : σ) :
    Run Supply σ → Prop where
  | environmentOverride {version root : String} {asked final : σ}
      (pinned : host.Gives settings.versionVariable start version asked)
      (overridden : host.Gives settings.rootVariable asked root final) :
      Consulted host settings maxChars start
        ⟨⟨.environmentOverride, some version, .ok root⟩,
          [.getVariable settings.versionVariable, .getVariable settings.rootVariable], final⟩
  | registeredInstallRoot {version : String} {asked opened : σ}
      {read : Run (Except LookupFailure String) σ}
      (pinned : host.Gives settings.versionVariable start version asked)
      (withheld : host.Withholds settings.rootVariable asked opened)
      (reads : (readString settings.hive settings.installRootKey settings.installRootValue
        maxChars).run host opened = read) :
      Consulted host settings maxChars start
        ⟨⟨.registeredInstallRoot, some version, read.answer⟩,
          .getVariable settings.versionVariable :: .getVariable settings.rootVariable ::
            read.calls, read.state⟩
  | registeredInstallPath {opened : σ} {read : Run (Except LookupFailure String) σ}
      (unpinned : host.Withholds settings.versionVariable start opened)
      (reads : (readString settings.hive settings.installPathKey settings.installPathValue
        maxChars).run host opened = read) :
      Consulted host settings maxChars start
        ⟨⟨.registeredInstallPath, none, read.answer⟩,
          .getVariable settings.versionVariable :: read.calls, read.state⟩

variable {host : Host σ} {settings : Settings} {maxChars : Nat} {start : σ}

theorem run_supply_of_consulted {run : Run Supply σ}
    (consulted : Consulted host settings maxChars start run) :
    (supply settings maxChars).run host start = run := by
  cases consulted with
  | environmentOverride pinned overridden =>
    simp [supply, run_bind, run_nonEmptyVariable_of_gives pinned,
      run_nonEmptyVariable_of_gives overridden, Run.followedBy]
  | registeredInstallRoot pinned withheld reads =>
    simp [supply, run_bind, run_nonEmptyVariable_of_gives pinned,
      run_nonEmptyVariable_of_withholds withheld, reads, Run.followedBy]
  | registeredInstallPath unpinned reads =>
    simp [supply, run_bind, run_nonEmptyVariable_of_withholds unpinned, reads,
      Run.followedBy]

/-- Whatever the host answers, some tier wins. -/
theorem exists_consulted (host : Host σ) (settings : Settings) (maxChars : Nat) (start : σ) :
    ∃ run, Consulted host settings maxChars start run := by
  rcases host.gives_or_withholds settings.versionVariable start with
    ⟨version, asked, pinned⟩ | ⟨opened, unpinned⟩
  · rcases host.gives_or_withholds settings.rootVariable asked with
      ⟨root, final, overridden⟩ | ⟨opened, withheld⟩
    · exact ⟨_, .environmentOverride pinned overridden⟩
    · exact ⟨_, .registeredInstallRoot pinned withheld rfl⟩
  · exact ⟨_, .registeredInstallPath unpinned rfl⟩

end Runs

end RuntimeLocator
