/-
Trying again at the capacity that a failure asks for.

A resolution that fails for want of room says how much it needs. A caller may try again with
just that much, as often as it is asked to (`Retries`). What drives the proofs is a list of
needs (`Explains`): each failure asks for no more than a need that is not met yet, and meets
it. So the needs that are left become fewer with each retry (`length_le_unmet_of_retries`), and
a resolution has three of them at most, one for each stage (`retries_settle`).
-/

import RuntimeLocator.Proofs.Lookup.Room

namespace RuntimeLocator

/-! ### Asking for room -/

/-- The capacity that a failure asks for, if it is for want of room. Two bytes are one
character, and an odd byte takes one too. -/
def LookupFailure.capacityAsked? : LookupFailure → Option Nat
  | .capacityExceeded required _ => some required
  | .store (.moreData required _) => some ((required.toNat + 1) / 2)
  | _ => none

/-- The capacity that an outcome asks for. -/
def asked? : Except LookupFailure Resolution → Option Nat
  | .ok _ => none
  | .error failure => failure.capacityAsked?

/-- A caller tries again at the capacity that is asked for, until none is: the capacities
that it tries after the first, and the outcome that it ends with. -/
inductive Retries (answerAt : Nat → Except LookupFailure Resolution) :
    Nat → List Nat → Except LookupFailure Resolution → Prop where
  | settled {start : Nat} (nothing : asked? (answerAt start) = none) :
      Retries answerAt start [] (answerAt start)
  | again {start next : Nat} {capacities : List Nat}
      {outcome : Except LookupFailure Resolution} (asks : asked? (answerAt start) = some next)
      (rest : Retries answerAt next capacities outcome) :
      Retries answerAt start (next :: capacities) outcome

/-! ### Needs -/

/-- How many needs a capacity does not meet. -/
def unmet (needs : List Nat) (capacity : Nat) : Nat :=
  needs.countP (capacity < ·)

/-- A larger capacity that meets one more need leaves fewer. -/
theorem unmet_lt {needs : List Nat} {capacity larger need : Nat} (mem : need ∈ needs)
    (lacks : capacity < need) (met : need ≤ larger) (grows : capacity < larger) :
    unmet needs larger < unmet needs capacity := by
  obtain ⟨before, after, rfl⟩ := List.append_of_mem mem
  have fewer (others : List Nat) :
      others.countP (larger < ·) ≤ others.countP (capacity < ·) := by
    refine List.countP_mono_left fun other _ beyond => ?_
    exact decide_eq_true (Nat.lt_trans grows (of_decide_eq_true beyond))
  simp only [unmet, List.countP_append, List.countP_cons, lacks, Nat.not_lt.mpr met,
    decide_true, decide_false, if_true, Bool.false_eq_true, if_false]
  have first := fewer before
  have second := fewer after
  omega

/-- Some needs explain what is asked for, from a first capacity on: more than was offered, no
more than any success takes, and enough for one more need, unless nothing is asked for after
that. -/
structure Explains (answerAt : Nat → Except LookupFailure Resolution) (needs : List Nat) :
    Prop where
  grows {capacity next : Nat} (large : 260 ≤ capacity)
    (asks : asked? (answerAt capacity) = some next) : capacity < next
  necessary {capacity next enough : Nat} {resolution : Resolution} (large : 260 ≤ capacity)
    (asks : asked? (answerAt capacity) = some next)
    (succeeds : answerAt enough = .ok resolution) : next ≤ enough
  meets {capacity next : Nat} (large : 260 ≤ capacity)
    (asks : asked? (answerAt capacity) = some next) :
    ∃ need ∈ needs, capacity < need ∧ (need ≤ next ∨ asked? (answerAt next) = none)

section Caller

variable {answerAt : Nat → Except LookupFailure Resolution} {needs : List Nat}
  {start : Nat} {capacities : List Nat} {outcome : Except LookupFailure Resolution}

theorem retries_of_settled (retries : Retries answerAt start capacities outcome)
    (nothing : asked? (answerAt start) = none) : capacities = [] := by
  cases retries with
  | settled => rfl
  | again asks =>
    rw [nothing] at asks
    cases asks

/-- Each retry meets one more need. -/
theorem length_le_unmet_of_retries (explains : Explains answerAt needs)
    (retries : Retries answerAt start capacities outcome) (large : 260 ≤ start) :
    capacities.length ≤ unmet needs start := by
  induction retries with
  | settled => exact Nat.zero_le _
  | @again start next capacities outcome asks rest ih =>
    have grows := explains.grows large asks
    have later := ih (Nat.le_trans large (Nat.le_of_lt grows))
    obtain ⟨need, mem, lacks, met | nothing⟩ := explains.meets large asks
    · exact Nat.lt_of_le_of_lt later (unmet_lt mem lacks met grows)
    · rw [retries_of_settled rest nothing]
      exact List.countP_pos_iff.mpr ⟨need, mem, decide_eq_true lacks⟩

/-- A caller comes to an end. -/
theorem exists_retries (explains : Explains answerAt needs) (large : 260 ≤ start) :
    ∃ capacities outcome, Retries answerAt start capacities outcome := by
  induction left : unmet needs start using Nat.strongRecOn generalizing start with
  | ind count ih =>
    cases asks : asked? (answerAt start) with
    | none => exact ⟨_, _, .settled asks⟩
    | some next =>
      have grows := explains.grows large asks
      obtain ⟨need, mem, lacks, met | nothing⟩ := explains.meets large asks
      · have fewer := unmet_lt mem lacks met grows
        obtain ⟨capacities, outcome, rest⟩ :=
          ih _ (left ▸ fewer) (Nat.le_trans large (Nat.le_of_lt grows)) rfl
        exact ⟨_, _, .again asks rest⟩
      · exact ⟨_, _, .again asks (.settled nothing)⟩

theorem pairwise_of_retries (explains : Explains answerAt needs)
    (retries : Retries answerAt start capacities outcome) (large : 260 ≤ start) :
    (start :: capacities).Pairwise (· < ·) := by
  induction retries with
  | settled => exact List.pairwise_singleton _ _
  | @again start next capacities outcome asks rest ih =>
    have grows := explains.grows large asks
    have later := ih (Nat.le_trans large (Nat.le_of_lt grows))
    refine List.pairwise_cons.mpr ⟨fun capacity mem => ?_, later⟩
    rcases List.mem_cons.mp mem with rfl | mem
    · exact grows
    · exact Nat.lt_trans grows ((List.pairwise_cons.mp later).1 capacity mem)

theorem le_of_retries (explains : Explains answerAt needs)
    (retries : Retries answerAt start capacities outcome) (large : 260 ≤ start)
    {enough : Nat} {resolution : Resolution} (succeeds : answerAt enough = .ok resolution) :
    ∀ capacity ∈ capacities, capacity ≤ enough := by
  induction retries with
  | settled => exact fun capacity mem => nomatch mem
  | @again start next capacities outcome asks rest ih =>
    have grows := explains.grows large asks
    intro capacity mem
    rcases List.mem_cons.mp mem with rfl | mem
    · exact explains.necessary large asks succeeds
    · exact ih (Nat.le_trans large (Nat.le_of_lt grows)) capacity mem

/-- A caller ends with the outcome of the last capacity that it tries. -/
theorem exists_last_of_retries (retries : Retries answerAt start capacities outcome) :
    ∃ last ∈ start :: capacities, outcome = answerAt last ∧ asked? (answerAt last) = none := by
  induction retries with
  | settled nothing => exact ⟨_, List.mem_cons_self, rfl, nothing⟩
  | again asks rest ih =>
    obtain ⟨last, mem, ends⟩ := ih
    exact ⟨last, List.mem_cons_of_mem _ mem, ends⟩

end Caller

/-! ### Needs of a resolution -/

/-- The characters that a value takes, when they are rounded up from its bytes. -/
def Value.room (value : Value) : Nat :=
  (value.storedSize + 1) / 2

theorem room_string (text : String) : (Value.string text).room = Path.room text := by
  rw [Value.room, storedSize_string]
  omega

/-- A size in 32 bits stands for so many characters, or for one more than can be asked for. -/
theorem half_ofNatClamp (n : Nat) :
    ((UInt32.ofNatClamp n).toNat + 1) / 2 = min ((n + 1) / 2) 2147483648 := by
  rw [toNat_ofNatClamp]
  omega

section Registry

variable {registry : Registry} {env : Environment} {settings : Settings} {tier : Tier}

/-- What a resolution on a registry asks for: the room of the first stage that has none, or
that of a value, up to one character more than a store can be asked for. -/
inductive Asks (registry : Registry) (settings : Settings) (tier : Tier) (maxChars : Nat) :
    Nat → Prop where
  | stage {root path : String} (has : registry.root? settings.hive tier.origin = some root)
      (mem : path ∈ Path.stages settings tier.version root)
      (lacks : maxChars < Path.room path) :
      Asks registry settings tier maxChars (Path.room path)
  | value {keyPath valueName : String} {value : Value}
      (origin : tier.origin = .value keyPath valueName)
      (holds : registry.finding settings.hive keyPath valueName = .readable (some value))
      (bounded : maxChars ≤ 2147483647) (lacks : maxChars < value.room) :
      Asks registry settings tier maxChars (min value.room 2147483648)

/-- What composing asks for: the first room of a stage that is not there. -/
theorem asked?_compose (settings : Settings) (maxChars : Nat) (source : RootSource)
    (version : Option String) (root : String) :
    asked? (compose settings maxChars source version root) =
      ((Path.stages settings version root).map Path.room).find? (maxChars < ·) := by
  rw [compose_eq, List.find?_map, Function.comp_def]
  cases (Path.stages settings version root).find? (maxChars < Path.room ·) <;> rfl

theorem asks_of_compose {maxChars next : Nat} {root : String}
    (has : registry.root? settings.hive tier.origin = some root)
    (asks : asked? (compose settings maxChars tier.source tier.version root) = some next) :
    Asks registry settings tier maxChars next := by
  rw [asked?_compose] at asks
  obtain ⟨path, mem, rfl⟩ := List.mem_map.mp (List.mem_of_find?_eq_some asks)
  have lacks := List.find?_some asks
  exact .stage has mem (of_decide_eq_true lacks)

theorem asks_of_read {maxChars next : Nat} {keyPath valueName : String}
    {failure : LookupFailure} (origin : tier.origin = .value keyPath valueName)
    (reads : (Store.ofRegistry registry).readString settings.hive keyPath valueName maxChars =
      .error failure)
    (asks : failure.capacityAsked? = some next) : Asks registry settings tier maxChars next := by
  rcases Nat.lt_or_ge 2147483647 maxChars with large | bounded
  · rw [Store.readString, if_pos large] at reads
    cases reads
    cases asks
  · rw [readString_ofRegistry registry _ keyPath valueName bounded] at reads
    split at reads
    · cases reads
      cases asks
    · cases reads
      cases asks
    · cases reads
      cases asks
    · rename_i value holds
      split at reads
      · -- A value of another kind asks for no room.
        cases value <;> cases reads <;> cases asks
      · rename_i lacks
        cases reads
        obtain rfl := Option.some.inj asks
        rw [half_ofNatClamp]
        refine .value origin holds bounded ?_
        rw [Value.room]
        omega

theorem asks_of_asked? (wins : env.tier settings = tier) {maxChars next : Nat}
    (large : 260 ≤ maxChars)
    (asks : asked? ((Store.ofRegistry registry).resolution env settings maxChars) = some next) :
    Asks registry settings tier maxChars next := by
  rw [resolution_of_tier _ wins large] at asks
  cases supplied : (Store.ofRegistry registry).root settings.hive maxChars tier.origin with
  | ok root =>
    rw [supplied] at asks
    exact asks_of_compose (root_eq_ok_iff.mp supplied).2.1 asks
  | error failure =>
    rw [supplied] at asks
    cases origin : tier.origin with
    | given root =>
      rw [origin] at supplied
      cases supplied
    | value keyPath valueName =>
      rw [origin] at supplied
      exact asks_of_read origin supplied asks

/-- Beyond the capacities that a store can be asked for, a value in it asks for nothing. -/
theorem asked?_of_tooLarge (wins : env.tier settings = tier) {keyPath valueName : String}
    (origin : tier.origin = .value keyPath valueName) {maxChars : Nat}
    (large : 2147483647 < maxChars) :
    asked? ((Store.ofRegistry registry).resolution env settings maxChars) = none := by
  rw [resolution_of_tier _ wins (by omega), origin, Store.root, Store.readString, if_pos large]
  rfl

/-- The rooms of the stages and of the value explain what a resolution asks for. -/
theorem explains_of_mem (wins : env.tier settings = tier) {needs : List Nat}
    (stages : ∀ root, registry.root? settings.hive tier.origin = some root →
      ∀ path ∈ Path.stages settings tier.version root, Path.room path ∈ needs)
    (values : ∀ keyPath valueName value, tier.origin = .value keyPath valueName →
      registry.finding settings.hive keyPath valueName = .readable (some value) →
      value.room ∈ needs) :
    Explains ((Store.ofRegistry registry).resolution env settings) needs where
  grows large asks := by
    cases asks_of_asked? wins large asks with
    | stage has mem lacks => exact lacks
    | value origin holds bounded lacks =>
      exact Nat.lt_min.mpr ⟨lacks, Nat.lt_succ_of_le bounded⟩
  necessary large asks succeeds := by
    obtain ⟨-, -, root, has, fits, -⟩ := (resolution_eq_ok_iff wins).mp succeeds
    cases asks_of_asked? wins large asks with
    | stage supplied mem lacks =>
      obtain rfl := Option.some.inj (has.symm.trans supplied)
      exact fits _ mem
    | value origin holds bounded lacks =>
      rw [origin, root?_value_eq_some_iff, holds] at has
      cases has
      refine Nat.le_trans (Nat.min_le_left _ _) ?_
      rw [room_string]
      exact fits root List.mem_cons_self
  meets large asks := by
    cases asks_of_asked? wins large asks with
    | stage has mem lacks => exact ⟨_, stages _ has _ mem, lacks, .inl (Nat.le_refl _)⟩
    | @value keyPath valueName value origin holds bounded lacks =>
      refine ⟨_, values _ _ _ origin holds, lacks, ?_⟩
      rcases Nat.le_total value.room 2147483648 with short | long
      · exact .inl (Nat.le_min.mpr ⟨Nat.le_refl _, short⟩)
      · rw [Nat.min_eq_right long]
        exact .inr (asked?_of_tooLarge wins origin (by decide))

/-- Three needs at most explain a resolution. -/
theorem exists_explains (registry : Registry) (env : Environment) (settings : Settings) :
    ∃ needs : List Nat, needs.length ≤ 3 ∧
      Explains ((Store.ofRegistry registry).resolution env settings) needs := by
  cases has : registry.root? settings.hive (env.tier settings).origin with
  | some root =>
    refine ⟨(Path.stages settings (env.tier settings).version root).map Path.room,
      Nat.le_refl _, explains_of_mem rfl ?_ ?_⟩
    · intro other supplied path mem
      obtain rfl := Option.some.inj (has.symm.trans supplied)
      exact List.mem_map_of_mem mem
    · intro keyPath valueName value origin holds
      rw [origin, root?_value_eq_some_iff, holds] at has
      cases has
      rw [room_string]
      exact List.mem_map_of_mem List.mem_cons_self
  | none =>
    by_cases stored : ∃ keyPath valueName value,
        (env.tier settings).origin = .value keyPath valueName ∧
          registry.finding settings.hive keyPath valueName = .readable (some value)
    · obtain ⟨keyPath, valueName, value, origin, holds⟩ := stored
      refine ⟨[value.room], by simp, explains_of_mem rfl ?_ ?_⟩
      · intro root supplied
        rw [has] at supplied
        cases supplied
      · intro otherPath otherName other same found
        obtain ⟨rfl, rfl⟩ := RootOrigin.value.inj (origin.symm.trans same)
        rw [holds] at found
        cases found
        exact List.mem_cons_self
    · refine ⟨[], Nat.zero_le _, explains_of_mem rfl ?_ ?_⟩
      · intro root supplied
        rw [has] at supplied
        cases supplied
      · intro keyPath valueName value origin holds
        exact absurd ⟨keyPath, valueName, value, origin, holds⟩ stored

/-- Where there is a root that may be asked for, it is had, or its room is asked for. -/
theorem root_of_root? {hive : Hive} {origin : RootOrigin} {root : String} {maxChars : Nat}
    (has : registry.root? hive origin = some root) (admits : origin.Admits maxChars) :
    (Store.ofRegistry registry).root hive maxChars origin = .ok root ∨
      maxChars < Path.room root ∧ ∃ failure,
        (Store.ofRegistry registry).root hive maxChars origin = .error failure ∧
        failure.capacityAsked? = some (min (Path.room root) 2147483648) := by
  cases origin with
  | given text =>
    obtain rfl := Option.some.inj has
    exact .inl rfl
  | value keyPath valueName =>
    rw [Store.root, readString_ofRegistry registry _ keyPath valueName admits,
      root?_value_eq_some_iff.mp has]
    dsimp only
    rw [storedSize_string]
    split
    · exact .inl rfl
    · rename_i lacks
      refine .inr ⟨by omega, _, rfl, ?_⟩
      change some (((UInt32.ofNatClamp (2 * Path.room root)).toNat + 1) / 2) = _
      rw [half_ofNatClamp]
      exact congrArg some (by omega)

/-- Where there is a root that may be asked for, nothing but room is in the way. -/
theorem fits_of_settled (wins : env.tier settings = tier) {maxChars : Nat} {root : String}
    (large : 260 ≤ maxChars) (admits : tier.origin.Admits maxChars)
    (has : registry.root? settings.hive tier.origin = some root)
    (nothing : asked? ((Store.ofRegistry registry).resolution env settings maxChars) = none) :
    ∀ path ∈ Path.stages settings tier.version root, Path.room path ≤ maxChars := by
  rw [resolution_of_tier _ wins large] at nothing
  rcases root_of_root? has admits with supplied | ⟨-, failure, fails, asks⟩
  · rw [supplied] at nothing
    change asked? (compose settings maxChars tier.source tier.version root) = none at nothing
    rw [asked?_compose] at nothing
    intro path mem
    have roomy := List.find?_eq_none.mp nothing _ (List.mem_map_of_mem mem)
    exact Nat.not_lt.mp fun lacks => roomy (decide_eq_true lacks)
  · rw [fails] at nothing
    cases nothing.symm.trans asks

/-- Where there is a root, a resolution asks for the room of the first stage that has none,
whether it is the store or the buffer that is too small. -/
theorem asked?_of_root (wins : env.tier settings = tier) {maxChars : Nat} {root : String}
    (large : 260 ≤ maxChars) (admits : tier.origin.Admits maxChars)
    (has : registry.root? settings.hive tier.origin = some root)
    (short : Path.room root ≤ 2147483648) :
    asked? ((Store.ofRegistry registry).resolution env settings maxChars) =
      ((Path.stages settings tier.version root).map Path.room).find? (maxChars < ·) := by
  rw [resolution_of_tier _ wins large]
  rcases root_of_root? has admits with supplied | ⟨lacks, failure, fails, asks⟩
  · rw [supplied]
    exact asked?_compose _ _ _ _ _
  · rw [fails, Path.stages, List.map_cons, List.find?_cons, decide_eq_true lacks]
    exact asks.trans (congrArg some (Nat.min_eq_left short))

end Registry

/-! ### A caller of resolution -/

/-- **Trying again at the capacity that is asked for works.** A caller that does so comes to an
end after three retries at most, with an outcome that asks for no more room. Each capacity it
tries is larger than the one before, and no larger than any at which the resolution succeeds;
where one from the first on does, that success is what the caller ends with. -/
theorem retries_settle (registry : Registry) (env : Environment) (settings : Settings)
    (counters : Nat → Counters) (start : Nat) (large : 260 ≤ start) :
    let answerAt (maxChars : Nat) :=
      ((resolve settings maxChars).runOn (.ofRegistry registry) env (counters maxChars)).answer
    (∃ capacities outcome, Retries answerAt start capacities outcome) ∧
    ∀ capacities outcome, Retries answerAt start capacities outcome →
      (start :: capacities).Pairwise (· < ·) ∧ capacities.length ≤ 3 ∧
      (∀ required capacity, outcome ≠ .error (.capacityExceeded required capacity)) ∧
      (∀ required available, outcome ≠ .error (.store (.moreData required available))) ∧
      ∀ (enough : Nat) (resolution : Resolution), answerAt enough = .ok resolution →
        (∀ capacity ∈ capacities, capacity ≤ enough) ∧
        (start ≤ enough → outcome = .ok resolution) := by
  intro answerAt
  have answers : answerAt = (Store.ofRegistry registry).resolution env settings := by
    funext maxChars
    exact answer_resolve _ env settings maxChars _
  obtain ⟨needs, few, explains⟩ := exists_explains registry env settings
  rw [answers]
  refine ⟨exists_retries explains large, ?_⟩
  intro capacities outcome retries
  have ascending := pairwise_of_retries explains retries large
  obtain ⟨last, mem, rfl, nothing⟩ := exists_last_of_retries retries
  refine ⟨ascending, ?few, ?noStage, ?noValue, ?enough⟩
  case few =>
    calc capacities.length
      _ ≤ unmet needs start := length_le_unmet_of_retries explains retries large
      _ ≤ needs.length := List.countP_le_length
      _ ≤ 3 := few
  case noStage =>
    intro required capacity fails
    rw [fails] at nothing
    cases nothing
  case noValue =>
    intro required available fails
    rw [fails] at nothing
    cases nothing
  case enough =>
    intro enough resolution succeeds
    have bounded := le_of_retries explains retries large succeeds
    refine ⟨bounded, ?_⟩
    intro reaches
    obtain ⟨-, admits, root, has, -, rfl⟩ := (resolution_eq_ok_iff rfl).mp succeeds
    have within : last ≤ enough := by
      rcases List.mem_cons.mp mem with rfl | mem
      · exact reaches
      · exact bounded last mem
    have largeLast : 260 ≤ last := by
      rcases List.mem_cons.mp mem with rfl | mem
      · exact large
      · exact Nat.le_trans large (Nat.le_of_lt ((List.pairwise_cons.mp ascending).1 last mem))
    have admitsLast : (env.tier settings).origin.Admits last := by
      revert admits
      cases (env.tier settings).origin with
      | given text => exact id
      | value keyPath valueName => exact Nat.le_trans within
    exact (resolution_eq_ok_iff rfl).mpr ⟨largeLast, admitsLast, root, has,
      fits_of_settled rfl largeLast admitsLast has nothing, rfl⟩

/-! ### A long root -/

/-- Three hundred characters before the rest of a path. -/
def longPath (rest : String) : String :=
  String.ofList (List.replicate 300 'x' ++ rest.toList)

theorem toList_longPath (rest : String) :
    (longPath rest).toList = List.replicate 300 'x' ++ rest.toList :=
  String.toList_ofList

theorem room_longPath (rest : String) : Path.room (longPath rest) = 300 + Path.room rest := by
  rw [Path.room, Path.room, Utf16.units, Utf16.units, toList_longPath, List.foldr_append,
    ← Nat.add_assoc]
  generalize rest.toList.foldr (Utf16.charUnits · + ·) 0 = units
  generalize 300 = n
  induction n with
  | zero => simp
  | succ n ih =>
    rw [List.replicate_succ, List.foldr_cons, Nat.add_right_comm n 1, Nat.add_right_comm _ 1, ← ih,
      Nat.add_assoc, Nat.add_comm]
    rfl

/-- A registry with such a root. -/
def longRooted : Registry where
  machine := some
    ⟨[("Fw", ⟨⟨[("Root", .string (longPath ""))], List.pairwise_singleton _ _⟩, false⟩)],
      List.pairwise_singleton _ _⟩
  user := none

theorem root?_longRooted :
    longRooted.root? .localMachine (.value "Fw" "Root") = some (longPath "") := by
  simp [longRooted, Registry.root?, Registry.finding, Registry.find?, Registry.keys?,
    NameMap.firstValue?, sameName]

theorem versioned_longPath : Path.versioned (longPath "") (some "v4") = longPath "\\v4" := by
  rw [Path.versioned, Path.join, toList_longPath]
  exact congrArg String.ofList (by decide +kernel)

theorem resolved_longPath :
    Path.resolved briefSettings (some "v4") (longPath "") = longPath "\\v4\\WPF" := by
  rw [Path.resolved, versioned_longPath, Path.join, toList_longPath]
  exact congrArg String.ofList (by decide +kernel)

theorem rooms_longPath :
    (Path.stages briefSettings (some "v4") (longPath "")).map Path.room = [301, 304, 308] := by
  rw [Path.stages, versioned_longPath, resolved_longPath]
  simp only [List.map_cons, List.map_nil, room_longPath]
  decide +kernel

/-- What a resolution with a version comes to on that registry. -/
def answerForLong (maxChars : Nat) : Except LookupFailure Resolution :=
  ((resolve briefSettings maxChars).runOn (.ofRegistry longRooted) (.ofPairs [("V", "v4")])
    .zero).answer

/-- The root is asked for in bytes first, and then the version and the product directory take
more room: three retries. -/
theorem retries_settle_longRoot :
    let resolution : Resolution := ⟨longPath "\\v4\\WPF", .registeredInstallRoot, some "v4"⟩
    260 ≤ 260 ∧ Retries answerForLong 260 [301, 304, 308] (answerForLong 308) ∧
      answerForLong 32767 = .ok resolution ∧ [260, 301, 304, 308].Pairwise (· < ·) ∧
      (∀ capacity ∈ [301, 304, 308], capacity ≤ 32767) ∧
      answerForLong 308 = .ok resolution := by
  intro resolution
  have wins : (Environment.ofPairs [("V", "v4")]).tier briefSettings =
      ⟨.registeredInstallRoot, some "v4", .value "Fw" "Root"⟩ := by decide +kernel
  have asks {maxChars : Nat} (large : 260 ≤ maxChars) (bounded : maxChars ≤ 2147483647) :
      asked? (answerForLong maxChars) = [301, 304, 308].find? (maxChars < ·) := by
    rw [answerForLong, Script.runOn, answer_resolve, ← rooms_longPath]
    refine asked?_of_root wins large bounded root?_longRooted ?_
    rw [room_longPath]
    decide +kernel
  have retries : Retries answerForLong 260 [301, 304, 308] (answerForLong 308) :=
    .again (asks (by decide) (by decide)) (.again (asks (by decide) (by decide))
      (.again (asks (by decide) (by decide)) (.settled (asks (by decide) (by decide)))))
  have succeeds : answerForLong 32767 = .ok resolution := by
    have bounded : (32767 : Nat) ≤ 2147483647 := by decide
    have roomy : ∀ room ∈ [301, 304, 308], room ≤ 32767 := by decide
    rw [← rooms_longPath] at roomy
    rw [answerForLong, Script.runOn, answer_resolve, resolution_eq_ok_iff wins]
    refine ⟨by decide, bounded, longPath "", root?_longRooted, List.forall_mem_map.mp roomy, ?_⟩
    dsimp only
    rw [resolved_longPath]
  obtain ⟨ascending, -, -, -, works⟩ := (retries_settle longRooted (.ofPairs [("V", "v4")])
    briefSettings (fun _ => .zero) 260 (Nat.le_refl _)).2 _ _ retries
  obtain ⟨bounded, ends⟩ := works 32767 _ succeeds
  exact ⟨Nat.le_refl _, retries, succeeds, ascending, bounded, ends (by decide)⟩

end RuntimeLocator
