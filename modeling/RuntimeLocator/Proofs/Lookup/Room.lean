/-
Room: the capacities at which a resolution succeeds.

A path is composed in stages, and the first stage without room for its path fails
(`compose_eq`). A plain string takes as many bytes in a registry as the characters of its
first stage have. So a resolution on a registry succeeds exactly where every stage has room
and the registry can be asked at all (`resolution_eq_ok_iff`), and what it comes to is the
same at all these capacities (`answer_resolve_of_larger`).
-/

import RuntimeLocator.Proofs.Lookup.Answers
import RuntimeLocator.Proofs.Path.Capacity
import RuntimeLocator.Proofs.Registry.Finding

namespace RuntimeLocator

open Script

/-! ### Stages -/

namespace Path

/-- The characters that a path takes with its terminator. -/
def room (path : String) : Nat :=
  Utf16.units path + 1

/-- A root with the version, if one is pinned. -/
def versioned (root : String) : Option String → String
  | none => root
  | some version => join root version

/-- The path that is composed of a root. -/
def resolved (settings : Settings) (version : Option String) (root : String) : String :=
  join (versioned root version) settings.productDirectory

/-- The paths that stand in the buffer one after the other. An earlier one may be longer than
a later one, because a join drops the separators at the end. -/
def stages (settings : Settings) (version : Option String) (root : String) : List String :=
  [root, versioned root version, resolved settings version root]

end Path

section Compose

variable {settings : Settings} {maxChars : Nat} {source : RootSource} {root : String}
  {version : Option String}

theorem room_le_of_hold {buffer : PathBuffer}
    (holds : PathBuffer.hold root maxChars = .ok buffer) : Path.room root ≤ maxChars := by
  obtain ⟨path, capacity⟩ := PathBuffer.hold_eq_ok_iff.mp holds
  have fits := buffer.fits
  rwa [path, capacity] at fits

theorem path_of_versioned {seeded versioned : PathBuffer}
    (pins : Versioned seeded version versioned) :
    versioned.path = Path.versioned seeded.path version := by
  cases pins with
  | unpinned => rfl
  | pinned appends => exact (PathBuffer.append_eq_ok_iff.mp appends).1

/-- The buffer with the version holds the second stage. -/
theorem hold_versioned {seeded versioned : PathBuffer}
    (seeds : PathBuffer.hold root maxChars = .ok seeded)
    (pins : Versioned seeded version versioned) :
    PathBuffer.hold (Path.versioned root version) maxChars = .ok versioned := by
  obtain ⟨path, capacity⟩ := PathBuffer.hold_eq_ok_iff.mp seeds
  rw [PathBuffer.hold_eq_ok_iff, path_of_versioned pins, capacity_of_versioned pins, path]
  exact ⟨rfl, capacity⟩

/-- Composing fails at the first stage that has no room, and reports what it needs. -/
theorem compose_eq (settings : Settings) (maxChars : Nat) (source : RootSource)
    (version : Option String) (root : String) :
    compose settings maxChars source version root =
      match (Path.stages settings version root).find? (maxChars < Path.room ·) with
      | some path => .error (.capacityExceeded (Path.room path) maxChars)
      | none => .ok ⟨Path.resolved settings version root, source, version⟩ := by
  have roomy {path : String} (fits : Path.room path ≤ maxChars) :
      decide (maxChars < Path.room path) = false := decide_eq_false (Nat.not_lt.mpr fits)
  obtain ⟨outcome, composed⟩ := exists_composed settings maxChars source root version
  rw [compose_of_composed composed, Path.stages]
  cases composed with
  | rootFails seeds =>
    obtain ⟨overflows, rfl⟩ := PathBuffer.hold_eq_error_iff.mp seeds
    have tooLong : decide (maxChars < Path.room root) = true := decide_eq_true overflows
    simp only [List.find?_cons, tooLong]
    rfl
  | @versionFails version seeded _ seeds appends =>
    obtain ⟨path, capacity⟩ := PathBuffer.hold_eq_ok_iff.mp seeds
    obtain ⟨overflows, rfl⟩ := PathBuffer.append_eq_error_iff.mp appends
    rw [path, capacity] at overflows ⊢
    have tooLong : decide (maxChars < Path.room (Path.versioned root (some version))) = true :=
      decide_eq_true overflows
    simp only [List.find?_cons, roomy (room_le_of_hold seeds), tooLong]
    rfl
  | directoryFails seeds pins appends =>
    have holds := hold_versioned seeds pins
    obtain ⟨path, capacity⟩ := PathBuffer.hold_eq_ok_iff.mp holds
    obtain ⟨overflows, rfl⟩ := PathBuffer.append_eq_error_iff.mp appends
    rw [path, capacity] at overflows ⊢
    have tooLong : decide (maxChars < Path.room (Path.resolved settings version root)) = true :=
      decide_eq_true overflows
    simp only [List.find?_cons, roomy (room_le_of_hold seeds), roomy (room_le_of_hold holds),
      tooLong]
    rfl
  | succeeds seeds pins appends =>
    have holds := hold_versioned seeds pins
    obtain ⟨path, capacity⟩ := PathBuffer.hold_eq_ok_iff.mp holds
    have whole := (PathBuffer.append_eq_ok_iff.mp appends).1
    rw [PathBuffer.append, path, capacity] at appends
    have fits : Path.room (Path.resolved settings version root) ≤ maxChars :=
      room_le_of_hold appends
    simp only [List.find?_cons, roomy (room_le_of_hold seeds), roomy (room_le_of_hold holds),
      roomy fits, List.find?_nil, whole, path]
    rfl

theorem compose_eq_ok_iff {resolution : Resolution} :
    compose settings maxChars source version root = .ok resolution ↔
      (∀ path ∈ Path.stages settings version root, Path.room path ≤ maxChars) ∧
        resolution = ⟨Path.resolved settings version root, source, version⟩ := by
  have fits : (∀ path ∈ Path.stages settings version root, Path.room path ≤ maxChars) ↔
      (Path.stages settings version root).find? (maxChars < Path.room ·) = none := by
    simp only [List.find?_eq_none, decide_eq_true_eq, Nat.not_lt]
  rw [compose_eq, fits]
  cases (Path.stages settings version root).find? (maxChars < Path.room ·) with
  | none => simp [eq_comm]
  | some path => simp

end Compose

/-! ### Roots in a registry -/

/-- A plain string takes two bytes for each character of its room. -/
theorem storedSize_string (text : String) :
    (Value.string text).storedSize = 2 * Path.room text :=
  Nat.mul_comm _ _

/-- What a read comes to on a registry, at a capacity that a store can be asked for. -/
theorem readString_ofRegistry (registry : Registry) (hive : Hive) (keyPath valueName : String)
    {maxChars : Nat} (fits : maxChars ≤ 2147483647) :
    (Store.ofRegistry registry).readString hive keyPath valueName maxChars =
      match registry.finding hive keyPath valueName with
      | .missing | .readable none => .error (.store .notFound)
      | .denied => .error (.store .accessDenied)
      | .readable (some value) =>
        if value.storedSize ≤ 2 * maxChars then value.plainString keyPath valueName
        else .error (.store (.moreData (UInt32.ofNatClamp value.storedSize)
          (UInt32.ofNat (2 * maxChars)))) := by
  rw [Store.readString, if_neg (Nat.not_lt.mpr fits), ask_eq_finding]
  cases registry.finding hive keyPath valueName with
  | missing => rfl
  | denied => rfl
  | readable first =>
    cases first with
    | none => rfl
    | some value =>
      simp only [Finding.answer, Value.within, toNat_offer fits]
      split <;> rfl

/-- The root of an origin, whatever the capacity: a plain string, if it is a value. -/
def Registry.root? (registry : Registry) (hive : Hive) : RootOrigin → Option String
  | .given root => some root
  | .value keyPath valueName =>
    match registry.finding hive keyPath valueName with
    | .readable (some (.string root)) => some root
    | _ => none

/-- The capacities at which a root can be asked for. -/
def RootOrigin.Admits (maxChars : Nat) : RootOrigin → Prop
  | .given _ => True
  | .value _ _ => maxChars ≤ 2147483647

section Registry

variable {registry : Registry} {hive : Hive} {origin : RootOrigin} {root : String}
  {maxChars : Nat}

theorem root?_value_eq_some_iff {keyPath valueName : String} :
    registry.root? hive (.value keyPath valueName) = some root ↔
      registry.finding hive keyPath valueName = .readable (some (.string root)) := by
  rw [Registry.root?]
  constructor
  · intro supplied
    split at supplied
    · rename_i text found
      rw [found, Option.some.inj supplied]
    · cases supplied
  · intro found
    rw [found]

/-- A registry has a root at the capacities that are not too small for it, and not too large
to ask. -/
theorem readString_eq_ok_iff {keyPath valueName : String} :
    (Store.ofRegistry registry).readString hive keyPath valueName maxChars = .ok root ↔
      maxChars ≤ 2147483647 ∧ registry.root? hive (.value keyPath valueName) = some root ∧
        Path.room root ≤ maxChars := by
  rw [root?_value_eq_some_iff]
  rcases Nat.lt_or_ge 2147483647 maxChars with large | fits
  · rw [Store.readString, if_pos large]
    constructor
    · intro read
      cases read
    · rintro ⟨fits, -⟩
      exact absurd fits (Nat.not_le.mpr large)
  · rw [readString_ofRegistry registry hive keyPath valueName fits, and_iff_right fits]
    constructor
    · intro read
      split at read
      · cases read
      · cases read
      · cases read
      · rename_i value found
        split at read
        · rename_i roomy
          obtain rfl := Value.plainString_eq_ok_iff.mp read
          rw [storedSize_string] at roomy
          exact ⟨found, Nat.le_of_mul_le_mul_left roomy Nat.zero_lt_two⟩
        · cases read
    · rintro ⟨found, roomy⟩
      rw [found]
      dsimp only
      rw [storedSize_string, if_pos (Nat.mul_le_mul_left 2 roomy)]
      rfl

theorem root_eq_ok_iff :
    (Store.ofRegistry registry).root hive maxChars origin = .ok root ↔
      origin.Admits maxChars ∧ registry.root? hive origin = some root ∧
        ((∃ text, origin = .given text) ∨ Path.room root ≤ maxChars) := by
  cases origin with
  | given text => simp [Store.root, RootOrigin.Admits, Registry.root?]
  | value keyPath valueName =>
    rw [Store.root, readString_eq_ok_iff, RootOrigin.Admits]
    simp only [reduceCtorEq, exists_false, false_or]

variable {env : Environment} {settings : Settings}

/-- **A resolution on a registry succeeds where there is room for every stage**, at a capacity
at which its root can be asked for. The answer does not depend on the capacity. -/
theorem resolution_eq_ok_iff {tier : Tier} (wins : env.tier settings = tier)
    {resolution : Resolution} :
    (Store.ofRegistry registry).resolution env settings maxChars = .ok resolution ↔
      260 ≤ maxChars ∧ tier.origin.Admits maxChars ∧
        ∃ root, registry.root? settings.hive tier.origin = some root ∧
          (∀ path ∈ Path.stages settings tier.version root, Path.room path ≤ maxChars) ∧
          resolution = ⟨Path.resolved settings tier.version root, tier.source, tier.version⟩ := by
  rcases Nat.lt_or_ge maxChars 260 with small | large
  · rw [Store.resolution, if_pos small]
    constructor
    · intro answers
      cases answers
    · rintro ⟨large, -⟩
      exact absurd large (Nat.not_le.mpr small)
  · rw [resolution_of_tier _ wins large, and_iff_right large]
    constructor
    · intro answers
      cases supplied : (Store.ofRegistry registry).root settings.hive maxChars tier.origin with
      | error failure =>
        rw [supplied] at answers
        cases answers
      | ok root =>
        rw [supplied] at answers
        obtain ⟨admits, has, -⟩ := root_eq_ok_iff.mp supplied
        exact ⟨admits, root, has, compose_eq_ok_iff.mp answers⟩
    · rintro ⟨admits, root, has, fits, rfl⟩
      have supplied := root_eq_ok_iff.mpr ⟨admits, has, .inr (fits root List.mem_cons_self)⟩
      rw [supplied]
      exact compose_eq_ok_iff.mpr ⟨fits, rfl⟩

end Registry

/-! ### Larger capacities -/

section Larger

variable {registry : Registry} {env : Environment} {settings : Settings}

/-- A root that the environment holds can be had at every capacity. -/
theorem admits_of_override {maxChars : Nat}
    (overridden : (env.tier settings).source = .environmentOverride) :
    (env.tier settings).origin.Admits maxChars := by
  revert overridden
  rw [Environment.tier]
  intro overridden
  split at overridden
  · cases overridden
  · split at overridden
    · trivial
    · cases overridden

/-- A success stays the same at larger capacities, as far as the root can be asked for. -/
theorem resolution_of_larger {maxChars larger : Nat} {resolution : Resolution}
    (grows : maxChars ≤ larger)
    (admits : larger ≤ 2147483647 ∨ resolution.source = .environmentOverride)
    (succeeds : (Store.ofRegistry registry).resolution env settings maxChars = .ok resolution) :
    (Store.ofRegistry registry).resolution env settings larger = .ok resolution := by
  rw [resolution_eq_ok_iff rfl] at succeeds ⊢
  obtain ⟨large, -, root, has, fits, rfl⟩ := succeeds
  refine ⟨Nat.le_trans large grows, ?_, root, has, ?_, rfl⟩
  · rcases admits with bounded | overridden
    · cases origin : (env.tier settings).origin with
      | given text => trivial
      | value keyPath valueName => exact bounded
    · exact admits_of_override overridden
  · intro path mem
    exact Nat.le_trans (fits path mem) grows

/-- The capacities at which a registry can be asked and a resolution succeeds are those from a
threshold on: the largest room of a stage. -/
theorem exists_threshold (registry : Registry) (env : Environment) (settings : Settings) :
    ∃ (threshold : Nat) (resolution : Resolution), ∀ (maxChars : Nat) (answer : Resolution),
      260 ≤ maxChars → maxChars ≤ 2147483647 →
        ((Store.ofRegistry registry).resolution env settings maxChars = .ok answer ↔
          threshold ≤ maxChars ∧ answer = resolution) := by
  have admits {maxChars : Nat} (bounded : maxChars ≤ 2147483647) :
      (env.tier settings).origin.Admits maxChars := by
    cases (env.tier settings).origin with
    | given text => trivial
    | value keyPath valueName => exact bounded
  cases has : registry.root? settings.hive (env.tier settings).origin with
  | none =>
    refine ⟨2147483648, ⟨"", .environmentOverride, none⟩, ?_⟩
    intro maxChars answer large bounded
    rw [resolution_eq_ok_iff rfl, has]
    constructor
    · rintro ⟨-, -, root, supplied, -⟩
      cases supplied
    · rintro ⟨beyond, -⟩
      exact absurd bounded (Nat.not_le.mpr beyond)
  | some root =>
    let version := (env.tier settings).version
    refine ⟨((Path.stages settings version root).map Path.room).foldr max 0,
      ⟨Path.resolved settings version root, (env.tier settings).source, version⟩, ?_⟩
    intro maxChars answer large bounded
    have fits : ((Path.stages settings version root).map Path.room).foldr max 0 ≤ maxChars ↔
        ∀ path ∈ Path.stages settings version root, Path.room path ≤ maxChars := by
      simp only [Path.stages, List.map_cons, List.map_nil, List.foldr_cons, List.foldr_nil,
        Nat.max_le, Nat.zero_le, and_true, List.forall_mem_cons, List.not_mem_nil, false_implies,
        implies_true]
    rw [resolution_eq_ok_iff rfl, has, fits]
    constructor
    · rintro ⟨-, -, other, supplied, roomy, rfl⟩
      obtain rfl := Option.some.inj supplied
      exact ⟨roomy, rfl⟩
    · rintro ⟨roomy, rfl⟩
      exact ⟨large, admits bounded, root, rfl, roomy, rfl⟩

/-- Beyond the capacities that a store can be asked for, a resolution that needs its registry
fails before any key is opened. -/
theorem run_resolve_of_tooLarge {maxChars : Nat} (large : 2147483647 < maxChars)
    (registered : env.nonEmpty settings.versionVariable = none ∨
      env.nonEmpty settings.rootVariable = none) (store : Store) (counters : Counters) :
    let run := (resolve settings maxChars).runOn store env counters
    run.answer = .error (.invalidCapacity maxChars) ∧
      (∀ hive path, Call.openKey hive path ∉ run.calls) ∧ run.state.counters = counters := by
  have enough : minPathChars ≤ maxChars := Nat.le_trans (by decide) (Nat.le_of_lt large)
  obtain ⟨run, consulted⟩ := exists_consulted (store.host env) settings maxChars ⟨counters, none⟩
  rw [Script.runOn, resolve_eq_supply enough, run_supply_of_consulted consulted]
  cases consulted with
  | environmentOverride pinned overridden =>
    have version := (gives_host_iff.mp pinned).1
    have root := (gives_host_iff.mp overridden).1
    rcases registered with unset | unset
    · rw [version] at unset
      cases unset
    · rw [root] at unset
      cases unset
  | registeredInstallRoot pinned withheld reads =>
    rw [run_readString_of_reads (.tooLarge large)] at reads
    obtain ⟨-, rfl⟩ := gives_host_iff.mp pinned
    obtain ⟨-, rfl⟩ := withholds_host_iff.mp withheld
    subst reads
    exact ⟨rfl, by simp [Run.map], rfl⟩
  | registeredInstallPath unpinned reads =>
    rw [run_readString_of_reads (.tooLarge large)] at reads
    obtain ⟨-, rfl⟩ := withholds_host_iff.mp unpinned
    subst reads
    exact ⟨rfl, by simp [Run.map], rfl⟩

/-- **Capacity decides whether a resolution succeeds, not what it comes to.** Whatever
succeeds at one capacity comes to the same at every larger one, up to the largest that a store
can be asked for, and beyond it too where both override variables are set; where they are not,
no key is opened there. So the capacities in range with a success are those from a threshold
on, if any, and all have the same answer. -/
theorem answer_resolve_of_larger (registry : Registry) (env : Environment)
    (settings : Settings) :
    let run (counters : Counters) (maxChars : Nat) :=
      (resolve settings maxChars).runOn (.ofRegistry registry) env counters
    (∀ (counters counters' : Counters) (maxChars larger : Nat) (resolution : Resolution),
      maxChars ≤ larger →
      (larger ≤ 2147483647 ∨ resolution.source = .environmentOverride) →
      (run counters maxChars).answer = .ok resolution →
      (run counters' larger).answer = .ok resolution) ∧
    (∀ (counters : Counters) (maxChars : Nat), 2147483647 < maxChars →
      (env.nonEmpty settings.versionVariable = none ∨
        env.nonEmpty settings.rootVariable = none) →
      (run counters maxChars).answer = .error (.invalidCapacity maxChars) ∧
        (∀ hive path, Call.openKey hive path ∉ (run counters maxChars).calls) ∧
        (run counters maxChars).state.counters = counters) ∧
    ∃ (threshold : Nat) (resolution : Resolution),
      ∀ (counters : Counters) (maxChars : Nat) (answer : Resolution),
        260 ≤ maxChars → maxChars ≤ 2147483647 →
          ((run counters maxChars).answer = .ok answer ↔
            threshold ≤ maxChars ∧ answer = resolution) := by
  intro run
  have answers (counters : Counters) (maxChars : Nat) : (run counters maxChars).answer =
      (Store.ofRegistry registry).resolution env settings maxChars :=
    answer_resolve _ env settings maxChars _
  refine ⟨?_, ?_, ?_⟩
  · intro counters counters' maxChars larger resolution grows admits succeeds
    rw [answers] at succeeds ⊢
    exact resolution_of_larger grows admits succeeds
  · intro counters maxChars large registered
    exact run_resolve_of_tooLarge large registered _ counters
  · obtain ⟨threshold, resolution, exact_threshold⟩ := exists_threshold registry env settings
    refine ⟨threshold, resolution, ?_⟩
    intro counters maxChars answer large bounded
    rw [answers]
    exact exact_threshold maxChars answer large bounded

/-- A registered path at two capacities in range, overrides beyond it, and a registered path
there. -/
theorem answer_resolve_of_larger_installed :
    let run (env : Environment) (maxChars : Nat) :=
      (resolve briefSettings maxChars).runOn (.ofRegistry installed) env .zero
    let registered : Environment := .ofPairs []
    let overridden : Environment := .ofPairs [("V", "v4"), ("R", "D:\\Fw\\")]
    let assemblies : Resolution := ⟨"C:\\Assemblies\\WPF", .registeredInstallPath, none⟩
    let private4 : Resolution := ⟨"D:\\Fw\\v4\\WPF", .environmentOverride, some "v4"⟩
    (260 ≤ 32767 ∧ 32767 ≤ 2147483647 ∧ (run registered 260).answer = .ok assemblies ∧
      (run registered 32767).answer = .ok assemblies) ∧
    (260 ≤ 4294967296 ∧ private4.source = .environmentOverride ∧
      (run overridden 260).answer = .ok private4 ∧
      (run overridden 4294967296).answer = .ok private4) ∧
    (2147483647 < 4294967296 ∧ registered.nonEmpty "V" = none ∧
      (run registered 4294967296).answer = .error (.invalidCapacity 4294967296) ∧
      (run registered 4294967296).state.counters = .zero) ∧
    ∃ (threshold : Nat) (resolution : Resolution), ∀ answer : Resolution,
      (run registered 260).answer = .ok answer ↔ threshold ≤ 260 ∧ answer = resolution := by
  intro run registered overridden assemblies private4
  have small : (run registered 260).answer = .ok assemblies := by decide +kernel
  have pinned : (run overridden 260).answer = .ok private4 := by decide +kernel
  have unset : registered.nonEmpty "V" = none := by decide
  have beyond : 2147483647 < 4294967296 := by decide
  obtain ⟨grows, fails, threshold, resolution, succeeds⟩ :=
    answer_resolve_of_larger installed registered briefSettings
  obtain ⟨invalid, -, kept⟩ := fails .zero 4294967296 beyond (.inl unset)
  refine ⟨⟨by decide, by decide, small, ?_⟩, ⟨by decide, rfl, pinned, ?_⟩,
    ⟨beyond, unset, invalid, kept⟩, threshold, resolution, ?_⟩
  · exact grows .zero .zero 260 32767 assemblies (by decide) (.inl (by decide)) small
  · exact (answer_resolve_of_larger installed overridden briefSettings).1 .zero .zero 260
      4294967296 private4 (by decide) (.inr rfl) pinned
  · intro answer
    exact succeeds .zero 260 answer (by decide) (by decide)

end Larger

end RuntimeLocator
