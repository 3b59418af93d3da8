/-
Bytes that a store is offered, and the room of a buffer.

A read offers two bytes for each character of its capacity, and a text takes two bytes for each
of its units and for a terminator; a buffer keeps one unit free for the terminator. So a registry
gives a text exactly where a buffer of that capacity holds it (`readString_of_stored`). A root
that is read and is too long is refused by the registry, in bytes, and never by the buffer: where
a stored root is read, the buffer is too small only for what is appended to it (`budget_agrees`).
A resolution with too small a capacity reads no root at all (`budget_unasked`).
-/

import RuntimeLocator.Proofs.Lookup.Retry

namespace RuntimeLocator

/-- A failure says that a store was offered too few bytes for a text: how many the text takes
with its terminator, as far as 32 bits can say it, and how many were offered. -/
def LookupFailure.LacksBytes (failure : LookupFailure) (text : String) (maxChars : Nat) : Prop :=
  ∃ required available : UInt32,
    failure = .store (.moreData required available) ∧
      required.toNat = min (2 * Utf16.units text + 2) 4294967295 ∧
      available.toNat = 2 * maxChars

/-- The buffer holds the root and has no room for what is appended to it: the version, if one is
pinned, or the product directory after it. -/
inductive AppendFails (settings : Settings) (seeded : PathBuffer) :
    Option String → LookupFailure → Prop where
  | version {version : String} {failure : LookupFailure}
      (appends : seeded.append version = .error failure) :
      AppendFails settings seeded (some version) failure
  | directory {version : Option String} {versioned : PathBuffer} {failure : LookupFailure}
      (pins : Versioned seeded version versioned)
      (appends : versioned.append settings.productDirectory = .error failure) :
      AppendFails settings seeded version failure

section Registry

variable {registry : Registry} {hive : Hive} {keyPath valueName text : String} {maxChars : Nat}

/-! ### Reads -/

/-- A stored text is read where it has room with its terminator. -/
theorem readString_of_stored (fits : maxChars ≤ 2147483647)
    (stored : registry.finding hive keyPath valueName = .readable (some (.string text))) :
    (Store.ofRegistry registry).readString hive keyPath valueName maxChars =
      if Path.room text ≤ maxChars then .ok text
      else .error (.store (.moreData (UInt32.ofNatClamp (2 * Path.room text))
        (UInt32.ofNat (2 * maxChars)))) := by
  have half : 2 * Path.room text ≤ 2 * maxChars ↔ Path.room text ≤ maxChars :=
    Nat.mul_le_mul_left_iff Nat.zero_lt_two
  rw [readString_ofRegistry registry hive keyPath valueName fits, stored]
  simp only [storedSize_string, half]
  rfl

theorem exists_lacksBytes_of_long (fits : maxChars ≤ 2147483647)
    (stored : registry.finding hive keyPath valueName = .readable (some (.string text)))
    (long : maxChars < Path.room text) :
    ∃ failure : LookupFailure,
      (Store.ofRegistry registry).readString hive keyPath valueName maxChars = .error failure ∧
        failure.LacksBytes text maxChars := by
  rw [readString_of_stored fits stored, if_neg (Nat.not_le.mpr long)]
  refine ⟨_, rfl, _, _, rfl, ?_, toNat_offer fits⟩
  rw [toNat_ofNatClamp, Path.room]
  rfl

/-! ### Resolutions -/

variable {env : Environment} {settings : Settings} {source : RootSource}
  {version : Option String}

/-- A root that is read is composed. -/
theorem resolution_of_read {store : Store}
    (wins : env.tier settings = ⟨source, version, .value keyPath valueName⟩)
    (large : 260 ≤ maxChars)
    (reads : store.readString settings.hive keyPath valueName maxChars = .ok text) :
    store.resolution env settings maxChars = compose settings maxChars source version text := by
  rw [resolution_of_tier _ wins large, Store.root, reads]
  rfl

/-- A root that is not read leaves its failure. -/
theorem resolution_of_read_error {store : Store} {failure : LookupFailure}
    (wins : env.tier settings = ⟨source, version, .value keyPath valueName⟩)
    (large : 260 ≤ maxChars)
    (reads : store.readString settings.hive keyPath valueName maxChars = .error failure) :
    store.resolution env settings maxChars = .error failure := by
  rw [resolution_of_tier _ wins large, Store.root, reads]
  rfl

/-- A capacity that is too small for any path is refused before a root is looked for. -/
theorem resolution_of_small {store : Store} (small : maxChars < 260) :
    store.resolution env settings maxChars = .error (.bufferTooSmall maxChars 260) := by
  rw [Store.resolution, if_pos small]

/-- A stored root that is too long is refused by the registry. -/
theorem exists_lacksBytes_of_longRoot
    (wins : env.tier settings = ⟨source, version, .value keyPath valueName⟩)
    (large : 260 ≤ maxChars) (fits : maxChars ≤ 2147483647)
    (stored : registry.finding settings.hive keyPath valueName = .readable (some (.string text)))
    (long : maxChars < Path.room text) :
    ∃ failure : LookupFailure,
      (Store.ofRegistry registry).resolution env settings maxChars = .error failure ∧
        failure.LacksBytes text maxChars := by
  obtain ⟨failure, reads, lacks⟩ := exists_lacksBytes_of_long fits stored long
  exact ⟨failure, resolution_of_read_error wins large reads, lacks⟩

/-- A read on a registry fails for want of bytes, if of anything, and not of room in a buffer. -/
theorem readString_ne_capacityExceeded (registry : Registry) (hive : Hive)
    (keyPath valueName : String) (maxChars required capacity : Nat) :
    (Store.ofRegistry registry).readString hive keyPath valueName maxChars ≠
      .error (.capacityExceeded required capacity) := by
  intro fails
  rcases Nat.lt_or_ge 2147483647 maxChars with large | fits
  · rw [Store.readString, if_pos large] at fails
    cases fails
  · rw [readString_ofRegistry registry hive keyPath valueName fits] at fails
    split at fails
    · cases fails
    · cases fails
    · cases fails
    · rename_i value stored
      split at fails
      · cases value <;> cases fails
      · cases fails

/-- Composing a root that fits fails at an append, if at all. -/
theorem appendFails_of_composed {failure : LookupFailure} (roomy : Path.room text ≤ maxChars)
    (composed : Composed settings maxChars source text version (.error failure)) :
    ∃ seeded : PathBuffer,
      PathBuffer.hold text maxChars = .ok seeded ∧ AppendFails settings seeded version failure := by
  cases composed with
  | rootFails seeds =>
    have overflows := (PathBuffer.hold_eq_error_iff.mp seeds).1
    exact absurd roomy (Nat.not_le.mpr overflows)
  | versionFails seeds appends => exact ⟨_, seeds, .version appends⟩
  | directoryFails seeds pins appends => exact ⟨_, seeds, .directory pins appends⟩

/-- Where the buffer is too small, the root was read and held, and an append has failed. -/
theorem appendFails_of_capacityExceeded
    (wins : env.tier settings = ⟨source, version, .value keyPath valueName⟩)
    {required capacity : Nat}
    (fails : (Store.ofRegistry registry).resolution env settings maxChars =
      .error (.capacityExceeded required capacity)) :
    ∃ (root : String) (seeded : PathBuffer),
      registry.finding settings.hive keyPath valueName = .readable (some (.string root)) ∧
        PathBuffer.hold root maxChars = .ok seeded ∧
        AppendFails settings seeded version (.capacityExceeded required capacity) := by
  rcases Nat.lt_or_ge maxChars 260 with small | large
  · rw [resolution_of_small small] at fails
    cases fails
  · cases reads :
        (Store.ofRegistry registry).readString settings.hive keyPath valueName maxChars with
    | error failure =>
      rw [resolution_of_read_error wins large reads] at fails
      cases fails
      exact absurd reads (readString_ne_capacityExceeded _ _ _ _ _ _ _)
    | ok root =>
      rw [resolution_of_read wins large reads] at fails
      obtain ⟨-, has, roomy⟩ := readString_eq_ok_iff.mp reads
      obtain ⟨seeded, holds, appends⟩ := appendFails_of_composed roomy (compose_eq_iff.mp fails)
      exact ⟨root, seeded, root?_value_eq_some_iff.mp has, holds, appends⟩

end Registry

/-- **What a registry gives for a number of characters is what a buffer of so many characters
holds.** A stored text is read exactly where it and a terminator fit, and a buffer takes whatever
was read; otherwise the failure tells the sizes in bytes. So a stored root that is too long ends a
resolution with the failure of the registry, if the capacity is one that a resolution accepts, and
where a resolution with a stored root wants room in its buffer, it is for the version or for the
product directory. -/
theorem budget_agrees (registry : Registry) (env : Environment) (counters : Counters) :
    (∀ (hive : Hive) (keyPath valueName text : String) (maxChars : Nat),
      maxChars ≤ 2147483647 →
      registry.finding hive keyPath valueName = .readable (some (.string text)) →
      let answer := ((readString hive keyPath valueName maxChars).runOn (.ofRegistry registry) env
        counters).answer
      (answer = .ok text ↔ Utf16.units text + 1 ≤ maxChars) ∧
      (¬ Utf16.units text + 1 ≤ maxChars →
        ∃ failure : LookupFailure, answer = .error failure ∧ failure.LacksBytes text maxChars) ∧
      ∀ read, answer = .ok read →
        read = text ∧ ∃ buffer, PathBuffer.hold read maxChars = .ok buffer) ∧
    ∀ (settings : Settings) (maxChars : Nat) (keyPath valueName : String),
      (env.tier settings).origin = .value keyPath valueName →
      let answer := ((resolve settings maxChars).runOn (.ofRegistry registry) env counters).answer
      (maxChars < 260 → answer = .error (.bufferTooSmall maxChars 260)) ∧
      (∀ root : String, 260 ≤ maxChars → maxChars ≤ 2147483647 →
        registry.finding settings.hive keyPath valueName = .readable (some (.string root)) →
        maxChars < Utf16.units root + 1 →
        ∃ failure : LookupFailure, answer = .error failure ∧ failure.LacksBytes root maxChars) ∧
      ∀ required capacity : Nat, answer = .error (.capacityExceeded required capacity) →
        ∃ (root : String) (seeded : PathBuffer),
          registry.finding settings.hive keyPath valueName = .readable (some (.string root)) ∧
          PathBuffer.hold root maxChars = .ok seeded ∧
          AppendFails settings seeded (env.tier settings).version
            (.capacityExceeded required capacity) := by
  refine ⟨?reads, ?resolves⟩
  case reads =>
    intro hive keyPath valueName text maxChars fits stored answer
    have reads : answer = (Store.ofRegistry registry).readString hive keyPath valueName maxChars :=
      answer_readString _ env hive keyPath valueName maxChars _
    have given := readString_of_stored fits stored
    refine ⟨?_, ?_, ?_⟩
    · rw [reads, given]
      split
      · rename_i roomy
        exact iff_of_true rfl roomy
      · rename_i long
        exact iff_of_false (fun reads => nomatch reads) long
    · intro long
      rw [reads]
      exact exists_lacksBytes_of_long fits stored (Nat.not_le.mp long)
    · intro read succeeds
      rw [reads, given] at succeeds
      split at succeeds
      · rename_i roomy
        cases succeeds
        exact ⟨rfl, _, dif_pos roomy⟩
      · cases succeeds
  case resolves =>
    intro settings maxChars keyPath valueName
    generalize wins : env.tier settings = tier
    obtain ⟨source, version, origin⟩ := tier
    rintro rfl answer
    have resolves : answer = (Store.ofRegistry registry).resolution env settings maxChars :=
      answer_resolve _ env settings maxChars _
    rw [resolves]
    refine ⟨resolution_of_small, ?long, ?wants⟩
    case long =>
      intro root large fits stored long
      exact exists_lacksBytes_of_longRoot wins large fits stored long
    case wants =>
      intro required capacity fails
      exact appendFails_of_capacityExceeded wins fails

/-- At 301 characters a root of three hundred is read, and the version has no room behind it. -/
theorem answerForLong_eq : answerForLong 301 = .error (.capacityExceeded 304 301) := by
  have wins : (Environment.ofPairs [("V", "v4")]).tier briefSettings =
      ⟨.registeredInstallRoot, some "v4", .value "Fw" "Root"⟩ := by decide +kernel
  have roomy : Path.room (longPath "") ≤ 301 := by
    rw [room_longPath]
    decide
  have reads : (Store.ofRegistry longRooted).readString .localMachine "Fw" "Root" 301 =
      .ok (longPath "") := readString_eq_ok_iff.mpr ⟨by decide, root?_longRooted, roomy⟩
  have room : Path.room (longPath "\\v4") = 304 := by
    rw [room_longPath]
    decide +kernel
  have found : (Path.stages briefSettings (some "v4") (longPath "")).find? (301 < Path.room ·) =
      some (longPath "\\v4") := by
    rw [Path.stages, versioned_longPath, List.find?_cons_of_neg (by simpa using roomy),
      List.find?_cons_of_pos (by rw [room]; decide)]
  rw [answerForLong, Script.runOn, answer_resolve, resolution_of_read wins (by decide) reads]
  simp only [compose_eq, found, room]

/-- A root of three hundred characters at the largest capacity that refuses it, at the smallest
that has room for it, and at the largest that a resolution does not accept. -/
theorem budget_agrees_longRoot :
    let env : Environment := .ofPairs [("V", "v4")]
    let read (maxChars : Nat) := ((readString .localMachine "Fw" "Root" maxChars).runOn
      (.ofRegistry longRooted) env .zero).answer
    (300 ≤ 2147483647 ∧
      longRooted.finding .localMachine "Fw" "Root" = .readable (some (.string (longPath ""))) ∧
      ¬ Utf16.units (longPath "") + 1 ≤ 300 ∧
      ∃ failure : LookupFailure, read 300 = .error failure ∧
        failure.LacksBytes (longPath "") 300) ∧
    (read 301 = .ok (longPath "") ∧
      ∃ buffer, PathBuffer.hold (longPath "") 301 = .ok buffer) ∧
    (259 < 260 ∧ answerForLong 259 = .error (.bufferTooSmall 259 260)) ∧
    ((env.tier briefSettings).origin = .value "Fw" "Root" ∧
      ∃ failure : LookupFailure, answerForLong 300 = .error failure ∧
        failure.LacksBytes (longPath "") 300) ∧
    (answerForLong 301 = .error (.capacityExceeded 304 301) ∧
      ∃ (root : String) (seeded : PathBuffer),
        longRooted.finding .localMachine "Fw" "Root" = .readable (some (.string root)) ∧
        PathBuffer.hold root 301 = .ok seeded ∧
        AppendFails briefSettings seeded (env.tier briefSettings).version
          (.capacityExceeded 304 301)) := by
  intro env read
  have stored := root?_value_eq_some_iff.mp root?_longRooted
  have room : Utf16.units (longPath "") + 1 = 301 := by
    rw [← Path.room, room_longPath]
    decide
  have long : ¬ Utf16.units (longPath "") + 1 ≤ 300 := by
    rw [room]
    decide
  have origin : (env.tier briefSettings).origin = .value "Fw" "Root" := by decide +kernel
  obtain ⟨reads, resolves⟩ := budget_agrees longRooted env .zero
  obtain ⟨-, refuses, -⟩ := reads .localMachine "Fw" "Root" (longPath "") 300 (by decide) stored
  obtain ⟨given, -, held⟩ := reads .localMachine "Fw" "Root" (longPath "") 301 (by decide) stored
  have succeeds := given.mpr (Nat.le_of_eq room)
  exact ⟨⟨by decide, stored, long, refuses long⟩, ⟨succeeds, (held _ succeeds).2⟩,
    ⟨by decide, (resolves briefSettings 259 "Fw" "Root" origin).1 (by decide)⟩,
    ⟨origin, (resolves briefSettings 300 "Fw" "Root" origin).2.1 _ (by decide) (by decide) stored
      (Nat.not_le.mp long)⟩,
    answerForLong_eq, (resolves briefSettings 301 "Fw" "Root" origin).2.2 _ _ answerForLong_eq⟩

/-- A root of five characters is too long for five, and a resolution with that capacity does not
say so: it does not come to the root. -/
theorem budget_unasked :
    let env : Environment := .ofPairs [("V", "v4")]
    let answer := ((resolve briefSettings 5).runOn (.ofRegistry installed) env .zero).answer
    (env.tier briefSettings).origin = .value "Fw" "Root" ∧
    installed.finding .localMachine "Fw" "Root" = .readable (some (.string "C:\\Fw")) ∧
    5 < Utf16.units "C:\\Fw" + 1 ∧
    answer = .error (.bufferTooSmall 5 260) ∧
    ¬ ∃ failure : LookupFailure, answer = .error failure ∧ failure.LacksBytes "C:\\Fw" 5 := by
  intro env answer
  have refused : answer = .error (.bufferTooSmall 5 260) := by decide +kernel
  refine ⟨by decide +kernel, root?_value_eq_some_iff.mp (by decide +kernel), by decide, refused, ?_⟩
  rintro ⟨failure, fails, required, available, rfl, -⟩
  rw [refused] at fails
  cases fails

end RuntimeLocator
