/-
What the answer of a resolution depends on.

A resolution is a function of the tier that wins and of the root that the store has for it
(`resolution_congr`), and of a registry such a root depends on one finding (`root_congr`). So
two resolutions that agree on what the winning tier consults come to the same answer, however
else their registries and environments differ (`answer_resolve_eq_of_consulted`).
-/

import RuntimeLocator.Proofs.Lookup.Answers
import RuntimeLocator.Proofs.Registry.Finding

namespace RuntimeLocator

open Session (Change)

/-! ### Two stores, two environments -/

section Congruence

variable {settings : Settings} {maxChars : Nat} {env env' : Environment}

theorem resolution_congr {store store' : Store}
    (tiers : env.tier settings = env'.tier settings)
    (roots : store.root settings.hive maxChars (env.tier settings).origin =
      store'.root settings.hive maxChars (env.tier settings).origin) :
    store.resolution env settings maxChars = store'.resolution env' settings maxChars := by
  simp only [Store.resolution, ← tiers, roots]

/-- Stores that answer alike at one place have the same root there. -/
theorem root_congr {store store' : Store} {hive : Hive} {keyPath valueName : String}
    (alike : ∀ maxBytes, store.ask hive keyPath valueName maxBytes =
      store'.ask hive keyPath valueName maxBytes) :
    store.root hive maxChars (.value keyPath valueName) =
      store'.root hive maxChars (.value keyPath valueName) := by
  simp only [Store.root, Store.readString, alike]

/-- The root variable counts only under a pinned version. -/
theorem tier_congr
    (pins : env.nonEmpty settings.versionVariable = env'.nonEmpty settings.versionVariable)
    (overrides : env.nonEmpty settings.versionVariable ≠ none →
      env.nonEmpty settings.rootVariable = env'.nonEmpty settings.rootVariable) :
    env.tier settings = env'.tier settings := by
  rw [Environment.tier, Environment.tier, ← pins]
  cases pinned : env.nonEmpty settings.versionVariable with
  | none => rfl
  | some version => rw [overrides (by rw [pinned]; exact Option.some_ne_none version)]

end Congruence

/-! ### Two registries -/

/-- **A resolution depends only on what the winning tier consults.** Where both override
variables are set, the registry does not count. Otherwise one place of it does: the install
root under a pinned version and the install path without one, and then the root variable does
not count either. Whatever changes are made to other places, and whichever other variables
are set, the answer stays. -/
theorem answer_resolve_eq_of_consulted (settings : Settings) (maxChars : Nat)
    (registry registry' : Registry) (env env' : Environment) (counters counters' : Counters) :
    let answer :=
      ((resolve settings maxChars).runOn (.ofRegistry registry) env counters).answer
    let answer' :=
      ((resolve settings maxChars).runOn (.ofRegistry registry') env' counters').answer
    (∀ version root : String,
      env.nonEmpty settings.versionVariable = some version →
      env'.nonEmpty settings.versionVariable = some version →
      env.nonEmpty settings.rootVariable = some root →
      env'.nonEmpty settings.rootVariable = some root →
      answer = answer') ∧
    (∀ version : String,
      env.nonEmpty settings.versionVariable = some version →
      env'.nonEmpty settings.versionVariable = some version →
      env.nonEmpty settings.rootVariable = none →
      env'.nonEmpty settings.rootVariable = none →
      registry.finding settings.hive settings.installRootKey settings.installRootValue =
        registry'.finding settings.hive settings.installRootKey settings.installRootValue →
      answer = answer') ∧
    (env.nonEmpty settings.versionVariable = none →
      env'.nonEmpty settings.versionVariable = none →
      registry.finding settings.hive settings.installPathKey settings.installPathValue =
        registry'.finding settings.hive settings.installPathKey settings.installPathValue →
      answer = answer') ∧
    ∀ changes : List Change,
      env.nonEmpty settings.versionVariable = env'.nonEmpty settings.versionVariable →
      (env.nonEmpty settings.versionVariable ≠ none →
        env.nonEmpty settings.rootVariable = env'.nonEmpty settings.rootVariable) →
      (∀ keyPath valueName, (env.tier settings).origin = .value keyPath valueName →
        ∀ change ∈ changes, ¬ change.Concerns settings.hive keyPath valueName) →
      registry' = changes.foldl (fun registry change => change.apply registry) registry →
      answer = answer' := by
  intro answer answer'
  have first : answer = (Store.ofRegistry registry).resolution env settings maxChars :=
    answer_resolve _ env settings maxChars _
  have second : answer' = (Store.ofRegistry registry').resolution env' settings maxChars :=
    answer_resolve _ env' settings maxChars _
  have found {keyPath valueName : String}
      (agree : registry.finding settings.hive keyPath valueName =
        registry'.finding settings.hive keyPath valueName) :
      (Store.ofRegistry registry).root settings.hive maxChars (.value keyPath valueName) =
        (Store.ofRegistry registry').root settings.hive maxChars (.value keyPath valueName) := by
    apply root_congr
    intro maxBytes
    rw [ask_eq_finding, ask_eq_finding, agree]
  rw [first, second]
  refine ⟨?overridden, ?pinned, ?unpinned, ?elsewhere⟩
  case overridden =>
    intro version root pins pins' overrides overrides'
    have tier := tier_of_override pins overrides
    refine resolution_congr (tier.trans (tier_of_override pins' overrides').symm) ?_
    rw [tier]
    rfl
  case pinned =>
    intro version pins pins' withholds withholds' agree
    have tier := tier_of_pinned pins withholds
    refine resolution_congr (tier.trans (tier_of_pinned pins' withholds').symm) ?_
    rw [tier]
    exact found agree
  case unpinned =>
    intro unpins unpins' agree
    have tier := tier_of_unpinned unpins
    refine resolution_congr (tier.trans (tier_of_unpinned unpins').symm) ?_
    rw [tier]
    exact found agree
  case elsewhere =>
    intro changes pins overrides elsewhere changed
    refine resolution_congr (tier_congr pins overrides) ?_
    cases origin : (env.tier settings).origin with
    | given root => rfl
    | value keyPath valueName =>
      apply root_congr
      intro maxBytes
      rw [changed]
      exact (ask_foldl_of_not_concerns registry (elsewhere keyPath valueName origin)
        maxBytes).symm

/-- The same root in another spelling, under a hive that holds another, and a path that is
denied. -/
def installedElsewhere : Registry :=
  ((Registry.empty.setString .localMachine "\\FW\\" "ROOT" "C:\\Fw").setString .currentUser "Fw"
    "Root" "E:\\").denyAccess .localMachine "Ndp"

/-- Overrides, a pinned version with an empty root variable, and no version: in each case the
two sides differ in all that is not consulted. -/
theorem answer_resolve_eq_of_consulted_installed :
    let answer (registry : Registry) (env : Environment) :=
      ((resolve briefSettings 260).runOn (.ofRegistry registry) env .zero).answer
    let overridden : Environment := .ofPairs [("V", "v4"), ("R", "D:\\Fw")]
    let more : Environment := .ofPairs [("R", "D:\\Fw"), ("V", "v4"), ("HOME", "/")]
    let pinned : Environment := .ofPairs [("V", "v4")]
    let blank : Environment := .ofPairs [("V", "v4"), ("R", "")]
    let unpinned : Environment := .ofPairs [("V", "")]
    let rooted : Environment := .ofPairs [("R", "D:\\Fw")]
    let changes : List Change :=
      [.setString .currentUser "Fw" "Root" "E:\\", .denyAccess .localMachine "Fw"]
    let changed := changes.foldl (fun registry change => change.apply registry) installed
    (overridden.nonEmpty "V" = some "v4" ∧ more.nonEmpty "V" = some "v4" ∧
      overridden.nonEmpty "R" = some "D:\\Fw" ∧ more.nonEmpty "R" = some "D:\\Fw" ∧
      answer installed overridden = answer .empty more) ∧
    (pinned.nonEmpty "V" = some "v4" ∧ blank.nonEmpty "V" = some "v4" ∧
      pinned.nonEmpty "R" = none ∧ blank.nonEmpty "R" = none ∧
      installed.finding .localMachine "Fw" "Root" =
        installedElsewhere.finding .localMachine "Fw" "Root" ∧
      answer installed pinned = answer installedElsewhere blank) ∧
    (unpinned.nonEmpty "V" = none ∧ rooted.nonEmpty "V" = none ∧
      installed.finding .localMachine "Ndp" "Path" =
        changed.finding .localMachine "Ndp" "Path" ∧
      answer installed unpinned = answer changed rooted) ∧
    ((unpinned.tier briefSettings).origin = .value "Ndp" "Path" ∧
      (∀ change ∈ changes, ¬ change.Concerns .localMachine "Ndp" "Path") ∧
      answer installed unpinned = answer changed rooted) := by
  intro answer overridden more pinned blank unpinned rooted changes changed
  have version : overridden.nonEmpty "V" = some "v4" := by decide
  have version' : more.nonEmpty "V" = some "v4" := by decide
  have root : overridden.nonEmpty "R" = some "D:\\Fw" := by decide
  have root' : more.nonEmpty "R" = some "D:\\Fw" := by decide
  have pins : pinned.nonEmpty "V" = some "v4" := by decide
  have pins' : blank.nonEmpty "V" = some "v4" := by decide
  have withholds : pinned.nonEmpty "R" = none := by decide
  have withholds' : blank.nonEmpty "R" = none := by decide
  have roots : installed.finding .localMachine "Fw" "Root" =
      installedElsewhere.finding .localMachine "Fw" "Root" := by decide +kernel
  have unpins : unpinned.nonEmpty "V" = none := by decide
  have unpins' : rooted.nonEmpty "V" = none := by decide
  have paths : installed.finding .localMachine "Ndp" "Path" =
      changed.finding .localMachine "Ndp" "Path" := by decide +kernel
  have origin : (unpinned.tier briefSettings).origin = .value "Ndp" "Path" := by decide
  have otherKey : foldPath "Ndp" ≠ foldPath "Fw" := by decide +kernel
  have elsewhere : ∀ change ∈ changes, ¬ change.Concerns .localMachine "Ndp" "Path" := by
    simp only [changes, List.forall_mem_cons, List.not_mem_nil, false_implies, implies_true,
      and_true, Session.Change.Concerns]
    exact ⟨fun concerned => absurd concerned.1 (by decide), fun concerned => otherKey concerned.2⟩
  obtain ⟨byOverride, -, -, -⟩ := answer_resolve_eq_of_consulted briefSettings 260 installed .empty
    overridden more .zero .zero
  obtain ⟨-, byRoot, -, -⟩ := answer_resolve_eq_of_consulted briefSettings 260 installed
    installedElsewhere pinned blank .zero .zero
  obtain ⟨-, -, byPath, byChanges⟩ := answer_resolve_eq_of_consulted briefSettings 260 installed
    changed unpinned rooted .zero .zero
  refine ⟨⟨version, version', root, root', byOverride _ _ version version' root root'⟩,
    ⟨pins, pins', withholds, withholds', roots, byRoot _ pins pins' withholds withholds' roots⟩,
    ⟨unpins, unpins', paths, byPath unpins unpins' paths⟩, origin, elsewhere, ?_⟩
  refine byChanges changes (unpins.trans unpins'.symm) (fun pinned => absurd unpins pinned) ?_ rfl
  intro keyPath valueName asked
  obtain ⟨rfl, rfl⟩ := RootOrigin.value.inj (origin.symm.trans asked)
  exact elsewhere

end RuntimeLocator
