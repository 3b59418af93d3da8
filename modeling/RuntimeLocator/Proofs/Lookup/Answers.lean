/-
Lookups on a store and an environment, as functions of the two.

The environment picks the tier that supplies the root (`Environment.tier`), and a store
gives the same answer whenever it is asked, so what a lookup comes to is known without its
run: `answer_readString` for reads and `answer_resolve` for resolutions. The run shows in
the counters alone, and there it leaves one open at most, which is released
(`balanced_readString`, `balanced_resolve`).
-/

import RuntimeLocator.Proofs.Lookup.Reading
import RuntimeLocator.Proofs.Lookup.Resolution
import RuntimeLocator.Proofs.Registry.View

namespace RuntimeLocator

open Script

/-! ### Tiers of an environment -/

/-- Where the root of a resolution comes from. -/
inductive RootOrigin where
  /-- A variable of the environment holds it. -/
  | given (root : String)
  /-- It is a value in the store. -/
  | value (keyPath valueName : String)
deriving DecidableEq

/-- A tier with all that the environment decides. -/
structure Tier where
  source : RootSource
  version : Option String
  origin : RootOrigin
deriving DecidableEq

/-- The tier that wins in an environment. -/
def Environment.tier (env : Environment) (settings : Settings) : Tier :=
  match env.nonEmpty settings.versionVariable with
  | none =>
    ⟨.registeredInstallPath, none, .value settings.installPathKey settings.installPathValue⟩
  | some version =>
    match env.nonEmpty settings.rootVariable with
    | some root => ⟨.environmentOverride, some version, .given root⟩
    | none =>
      ⟨.registeredInstallRoot, some version,
        .value settings.installRootKey settings.installRootValue⟩

section Tiers

variable {env : Environment} {settings : Settings} {version root : String}

theorem tier_of_override (pinned : env.nonEmpty settings.versionVariable = some version)
    (overridden : env.nonEmpty settings.rootVariable = some root) :
    env.tier settings = ⟨.environmentOverride, some version, .given root⟩ := by
  simp only [Environment.tier, pinned, overridden]

theorem tier_of_pinned (pinned : env.nonEmpty settings.versionVariable = some version)
    (withheld : env.nonEmpty settings.rootVariable = none) :
    env.tier settings = ⟨.registeredInstallRoot, some version,
      .value settings.installRootKey settings.installRootValue⟩ := by
  simp only [Environment.tier, pinned, withheld]

theorem tier_of_unpinned (unpinned : env.nonEmpty settings.versionVariable = none) :
    env.tier settings = ⟨.registeredInstallPath, none,
      .value settings.installPathKey settings.installPathValue⟩ := by
  simp only [Environment.tier, unpinned]

end Tiers

/-! ### Answers -/

/-- What a read comes to on a store. -/
def Store.readString (store : Store) (hive : Hive) (keyPath valueName : String)
    (maxChars : Nat) : Except LookupFailure String :=
  if 2147483647 < maxChars then .error (.invalidCapacity maxChars)
  else readOutcome keyPath valueName
    (store.ask hive keyPath valueName (UInt32.ofNat (2 * maxChars)))

/-- The root that a store has for a tier. -/
def Store.root (store : Store) (hive : Hive) (maxChars : Nat) :
    RootOrigin → Except LookupFailure String
  | .given root => .ok root
  | .value keyPath valueName => store.readString hive keyPath valueName maxChars

/-- What a resolution comes to on a store and an environment. -/
def Store.resolution (store : Store) (env : Environment) (settings : Settings)
    (maxChars : Nat) : Except LookupFailure Resolution :=
  if maxChars < 260 then .error (.bufferTooSmall maxChars 260)
  else
    (store.root settings.hive maxChars (env.tier settings).origin).bind
      (compose settings maxChars (env.tier settings).source (env.tier settings).version)

theorem resolution_of_tier (store : Store) {env : Environment} {settings : Settings}
    {maxChars : Nat} {tier : Tier} (wins : env.tier settings = tier) (large : 260 ≤ maxChars) :
    store.resolution env settings maxChars =
      (store.root settings.hive maxChars tier.origin).bind
        (compose settings maxChars tier.source tier.version) := by
  rw [Store.resolution, if_neg (Nat.not_lt.mpr large), wins]

section Host

variable {store : Store} {env : Environment} {name text : String} {hive : Hive} {path : String}
  {before after : HostState}

/-- Asking for a variable changes nothing that the host remembers. -/
theorem gives_host_iff :
    (store.host env).Gives name before text after ↔
      env.nonEmpty name = some text ∧ before = after := by
  rw [Environment.nonEmpty, Option.filter_eq_some_iff]
  constructor
  · rintro ⟨asked, counts⟩
    obtain ⟨looked, same⟩ := Prod.mk.inj asked
    exact ⟨⟨looked, decide_eq_true counts⟩, same⟩
  · rintro ⟨⟨looked, counts⟩, rfl⟩
    exact ⟨Prod.ext looked rfl, of_decide_eq_true counts⟩

theorem withholds_host_iff :
    (store.host env).Withholds name before after ↔
      env.nonEmpty name = none ∧ before = after := by
  rw [Environment.nonEmpty]
  constructor
  · rintro (asked | asked)
    · obtain ⟨looked, same⟩ := Prod.mk.inj asked
      exact ⟨by rw [looked]; rfl, same⟩
    · obtain ⟨looked, same⟩ := Prod.mk.inj asked
      exact ⟨by rw [looked]; rfl, same⟩
  · rintro ⟨empty, rfl⟩
    cases looked : env.lookup name with
    | none => exact .inl (Prod.ext looked rfl)
    | some text =>
      have blank : text = "" := by simpa [looked, Option.filter] using empty
      exact .inr (Prod.ext (looked.trans (congrArg some blank)) rfl)

theorem reply_openKey_of_error {failure : StoreFailure}
    (refused : store.openKey hive path = .error failure) :
    (store.host env).reply (.openKey hive path) before = (Except.error failure, before) := by
  simp only [Store.host, refused]
  rfl

theorem reply_openKey_of_ok {key : OpenKey} (opened : store.openKey hive path = .ok key) :
    (store.host env).reply (.openKey hive path) before =
      (Except.ok (), ⟨before.counters.opening, some key⟩) := by
  simp only [Store.host, opened]
  rfl

end Host

/-! ### Reads -/

/-- Whether a call opens a key of the store. -/
def Store.opens (store : Store) : Call → Bool
  | .openKey hive path => (store.openKey hive path).isOk
  | _ => false

/-- How many keys some calls open. -/
def Store.openings (store : Store) (calls : List Call) : Nat :=
  calls.countP store.opens

/-- Some calls are balanced between two states of the counters: the keys that they open, one
at most, are counted and released. -/
structure Store.Balanced (store : Store) (before : Counters) (calls : List Call)
    (after : Counters) : Prop where
  counted : after = ⟨before.opened + store.openings calls, before.live⟩
  atMostOne : store.openings calls ≤ 1

/-- Asking for variables opens no key. -/
theorem Store.Balanced.getVariable {store : Store} {before after : Counters}
    {calls : List Call} (balanced : store.Balanced before calls after) (name : String) :
    store.Balanced before (.getVariable name :: calls) after := by
  have same : store.openings (.getVariable name :: calls) = store.openings calls :=
    List.countP_cons_of_neg (by simp [Store.opens])
  obtain ⟨counted, atMostOne⟩ := balanced
  exact ⟨by rw [same]; exact counted, by rw [same]; exact atMostOne⟩

section Read

variable (store : Store) (env : Environment) (hive : Hive) (keyPath valueName : String)
  (maxChars : Nat) (start : HostState)

theorem answer_readString :
    ((readString hive keyPath valueName maxChars).run (store.host env) start).answer =
      store.readString hive keyPath valueName maxChars := by
  rw [Store.readString]
  split
  · rename_i large
    rw [run_readString_of_reads (.tooLarge large)]
  · rename_i large
    have fits := Nat.not_lt.mp large
    rw [Store.ask]
    cases opened : store.openKey hive keyPath with
    | error failure =>
      rw [run_readString_of_reads (.openFails fits (reply_openKey_of_error opened))]
      rfl
    | ok key =>
      rw [run_readString_of_opens fits (toNat_offer fits) (reply_openKey_of_ok opened) rfl]
      rfl

theorem balanced_readString :
    let run := (readString hive keyPath valueName maxChars).run (store.host env) start
    store.Balanced start.counters run.calls run.state.counters := by
  intro run
  rcases Nat.lt_or_ge 2147483647 maxChars with large | fits
  · have ran : run = _ := run_readString_of_reads (.tooLarge large)
    rw [ran]
    exact ⟨rfl, Nat.zero_le _⟩
  · cases opened : store.openKey hive keyPath with
    | error failure =>
      have ran : run = _ :=
        run_readString_of_reads (.openFails fits (reply_openKey_of_error opened))
      have none : store.openings [.openKey hive keyPath] = 0 := by
        simp [Store.openings, Store.opens, opened, Except.isOk, Except.toBool]
      rw [ran]
      exact ⟨by rw [none]; rfl, by rw [none]; exact Nat.zero_le _⟩
    | ok key =>
      have ran : run = _ :=
        run_readString_of_opens fits (toNat_offer fits) (reply_openKey_of_ok opened) rfl
      have one : store.openings [.openKey hive keyPath,
          .query valueName (UInt32.ofNat (2 * maxChars)), .close] = 1 := by
        simp [Store.openings, Store.opens, opened, Except.isOk, Except.toBool]
      rw [ran]
      exact ⟨by rw [one]; rfl, Nat.le_of_eq one⟩

end Read

/-! ### Resolutions -/

section Resolve

variable (store : Store) (env : Environment) (settings : Settings) (maxChars : Nat)
  (start : HostState)

/-- A tier supplies the root that the store has for it. -/
theorem answer_supply :
    ((supply settings maxChars).run (store.host env) start).answer =
      let tier := env.tier settings
      ⟨tier.source, tier.version, store.root settings.hive maxChars tier.origin⟩ := by
  obtain ⟨run, consulted⟩ := exists_consulted (store.host env) settings maxChars start
  rw [run_supply_of_consulted consulted]
  cases consulted with
  | environmentOverride pinned overridden =>
    rw [tier_of_override (gives_host_iff.mp pinned).1 (gives_host_iff.mp overridden).1]
    rfl
  | registeredInstallRoot pinned withheld reads =>
    rw [tier_of_pinned (gives_host_iff.mp pinned).1 (withholds_host_iff.mp withheld).1, ← reads,
      answer_readString]
    rfl
  | registeredInstallPath unpinned reads =>
    rw [tier_of_unpinned (withholds_host_iff.mp unpinned).1, ← reads, answer_readString]
    rfl

theorem answer_resolve :
    ((resolve settings maxChars).run (store.host env) start).answer =
      store.resolution env settings maxChars := by
  rw [Store.resolution]
  split
  · rename_i small
    rw [run_resolve_of_resolves (.tooSmall small)]
  · rename_i large
    rw [resolve_eq_supply (Nat.not_lt.mp large), Run.map, answer_supply]
    rfl

theorem balanced_supply :
    let run := (supply settings maxChars).run (store.host env) start
    store.Balanced start.counters run.calls run.state.counters := by
  obtain ⟨run, consulted⟩ := exists_consulted (store.host env) settings maxChars start
  rw [run_supply_of_consulted consulted]
  cases consulted with
  | environmentOverride pinned overridden =>
    obtain ⟨-, rfl⟩ := gives_host_iff.mp pinned
    obtain ⟨-, rfl⟩ := gives_host_iff.mp overridden
    exact ⟨rfl, Nat.zero_le _⟩
  | registeredInstallRoot pinned withheld reads =>
    obtain ⟨-, rfl⟩ := gives_host_iff.mp pinned
    obtain ⟨-, rfl⟩ := withholds_host_iff.mp withheld
    have read := balanced_readString store env settings.hive settings.installRootKey
      settings.installRootValue maxChars start
    rw [reads] at read
    exact (read.getVariable _).getVariable _
  | registeredInstallPath unpinned reads =>
    obtain ⟨-, rfl⟩ := withholds_host_iff.mp unpinned
    have read := balanced_readString store env settings.hive settings.installPathKey
      settings.installPathValue maxChars start
    rw [reads] at read
    exact read.getVariable _

theorem balanced_resolve :
    let run := (resolve settings maxChars).run (store.host env) start
    store.Balanced start.counters run.calls run.state.counters := by
  rcases Nat.lt_or_ge maxChars 260 with small | large
  · rw [run_resolve_of_resolves (.tooSmall small)]
    exact ⟨rfl, Nat.zero_le _⟩
  · rw [resolve_eq_supply large]
    exact balanced_supply store env settings maxChars start

end Resolve

/-! ### A small installation -/

/-- Settings with short names. -/
def briefSettings : Settings where
  versionVariable := "V"
  rootVariable := "R"
  hive := .localMachine
  installRootKey := "Fw"
  installRootValue := "Root"
  installPathKey := "Ndp"
  installPathValue := "Path"
  productDirectory := "WPF"

/-- A registry with an install root and an install path. -/
def installed : Registry :=
  (Registry.empty.setString .localMachine "Fw" "Root" "C:\\Fw").setString .localMachine "Ndp"
    "Path" "C:\\Assemblies"

end RuntimeLocator
