/-
The settings file that a request names.

The words of a command line may name one, and where they do not a variable may. The variable takes
part in nothing else: a request that is accepted is the one that the words make alone, with the
file of the variable to fall back on (`parse_eq_of_accepted`). Words that are accepted alone are
accepted beside any variable that is not empty (`parse_of_alone`).
-/

import RuntimeLocator.Cli.Arguments

namespace RuntimeLocator.Cli

/-- The settings file that the words themselves name. -/
def flagged (words : List RawText) : Option Path :=
  match Arguments.parse none words with
  | .ok arguments => arguments.settings
  | .error _ => none

/-- The request with a settings file to fall back on where it names none. -/
def Arguments.withFallback (arguments : Arguments) (fallback : Option Path) : Arguments :=
  { arguments with settings := arguments.settings <|> fallback }

theorem bind_eq_ok_iff {ε α β : Type} {x : Except ε α} {f : α → Except ε β} {b : β} :
    x.bind f = .ok b ↔ ∃ a, x = .ok a ∧ f a = .ok b := by
  cases x with
  | error e => simp only [Except.bind, reduceCtorEq, false_and, exists_false]
  | ok a => simp only [Except.bind, Except.ok.injEq, exists_eq_left']

/-- The level of a subcommand that has arguments. -/
def Subcommand.level? : Subcommand → Option Level
  | .resolve => some .resolve
  | .read => some .read
  | .help => none

/-! ### Levels -/

section Levels

variable {scan : Scan} {given : Given} {fallback : Option Path} {level : Level}
  {words : List RawText} {arguments : Arguments}

/-- A level ends as its words settle it, unless it needs the file of an empty variable. -/
theorem finish_eq_ok_iff :
    scan.finish fallback = .ok given ↔
      scan.settle = .ok given ∧ (given.settings = none → fallback ≠ some []) := by
  simp only [Scan.finish, bind, bind_eq_ok_iff]
  constructor
  case mp =>
    rintro ⟨settled, settles, ends⟩
    split at ends
    case h_1 path unnamed =>
      obtain ⟨file, parses, same⟩ := bind_eq_ok_iff.mp ends
      cases same
      refine ⟨settles, fun _ empty => ?_⟩
      cases empty
      cases parses
    case h_2 other =>
      cases ends
      refine ⟨settles, fun unnamed empty => other _ unnamed empty⟩
  case mpr =>
    rintro ⟨settles, nonempty⟩
    refine ⟨given, settles, ?_⟩
    split
    case h_1 path unnamed =>
      have named : path ≠ [] := fun empty => nonempty unnamed (congrArg some empty)
      simp only [parseFile, if_neg named]
      rfl
    case h_2 => rfl

theorem finish_alone (finishes : scan.finish fallback = .ok given) :
    scan.finish none = .ok given :=
  finish_eq_ok_iff.mpr ⟨(finish_eq_ok_iff.mp finishes).1, fun _ => nofun⟩

theorem finish_of_alone (finishes : scan.finish none = .ok given) (nonempty : fallback ≠ some []) :
    scan.finish fallback = .ok given :=
  finish_eq_ok_iff.mpr ⟨(finish_eq_ok_iff.mp finishes).1, fun _ => nonempty⟩

/-! ### Requests -/

/-- A request is put together from what its two levels end with. -/
theorem request_eq_ok_iff :
    scan.request fallback level words = .ok arguments ↔
      ∃ read inner outer command, Scan.inner level words = .ok read ∧
        read.finish fallback = .ok inner ∧ inner.command level = .ok command ∧
        scan.finish fallback = .ok outer ∧
        arguments = ⟨inner.store <|> outer.store,
          inner.settings <|> outer.settings <|> fallback, inner.verbose || outer.verbose,
          command⟩ := by
  simp only [Scan.request, bind, bind_eq_ok_iff]
  constructor
  · rintro ⟨read, reads, inner, ends, command, asks, outer, finishes, made⟩
    cases made
    exact ⟨read, inner, outer, command, reads, ends, asks, finishes, rfl⟩
  · rintro ⟨read, inner, outer, command, reads, ends, asks, finishes, rfl⟩
    exact ⟨read, reads, inner, ends, command, asks, outer, finishes, rfl⟩

theorem request_eq_of_accepted (accepted : scan.request fallback level words = .ok arguments) :
    ∃ alone, scan.request none level words = .ok alone ∧
      arguments = alone.withFallback fallback := by
  obtain ⟨read, inner, outer, command, reads, ends, asks, finishes, rfl⟩ :=
    request_eq_ok_iff.mp accepted
  refine ⟨_, request_eq_ok_iff.mpr ⟨read, inner, outer, command, reads, finish_alone ends, asks,
    finish_alone finishes, rfl⟩, ?_⟩
  simp only [Arguments.withFallback]
  cases inner.settings <;> cases outer.settings <;> rfl

theorem request_of_alone (nonempty : fallback ≠ some [])
    (accepted : scan.request none level words = .ok arguments) :
    scan.request fallback level words = .ok (arguments.withFallback fallback) := by
  obtain ⟨read, inner, outer, command, reads, ends, asks, finishes, rfl⟩ :=
    request_eq_ok_iff.mp accepted
  refine request_eq_ok_iff.mpr ⟨read, inner, outer, command, reads, finish_of_alone ends nonempty,
    asks, finish_of_alone finishes nonempty, ?_⟩
  simp only [Arguments.withFallback]
  cases inner.settings <;> cases outer.settings <;> rfl

/-- Words are a request only through a subcommand that has arguments, and the variable has no part
in which one it is. -/
theorem parse_eq_ok_iff :
    Arguments.parse fallback words = .ok arguments ↔
      ∃ scan subcommand rest level, Scan.start.outer words = .ok (scan, some (subcommand, rest)) ∧
        subcommand.level? = some level ∧ scan.request fallback level rest = .ok arguments := by
  simp only [Arguments.parse, bind, bind_eq_ok_iff]
  constructor
  case mp =>
    rintro ⟨⟨scan, asked⟩, reads, made⟩
    split at made
    case h_1 =>
      obtain ⟨given, -, refused⟩ := bind_eq_ok_iff.mp made
      cases refused
    case h_2 => cases made
    case h_3 rest same =>
      cases same
      exact ⟨_, _, rest, .resolve, reads, rfl, made⟩
    case h_4 rest same =>
      cases same
      exact ⟨_, _, rest, .read, reads, rfl, made⟩
  case mpr =>
    rintro ⟨scan, subcommand, rest, level, reads, named, made⟩
    refine ⟨_, reads, ?_⟩
    cases subcommand with
    | resolve => cases named; exact made
    | read => cases named; exact made
    | help => cases named

/-- **A request differs from that of its words alone in the fallback only.** -/
theorem parse_eq_of_accepted (accepted : Arguments.parse fallback words = .ok arguments) :
    ∃ alone, Arguments.parse none words = .ok alone ∧
      arguments = alone.withFallback fallback := by
  obtain ⟨scan, subcommand, rest, level, reads, named, made⟩ := parse_eq_ok_iff.mp accepted
  obtain ⟨alone, makes, same⟩ := request_eq_of_accepted made
  exact ⟨alone, parse_eq_ok_iff.mpr ⟨scan, subcommand, rest, level, reads, named, makes⟩, same⟩

theorem parse_of_alone (nonempty : fallback ≠ some [])
    (accepted : Arguments.parse none words = .ok arguments) :
    Arguments.parse fallback words = .ok (arguments.withFallback fallback) := by
  obtain ⟨scan, subcommand, rest, level, reads, named, made⟩ := parse_eq_ok_iff.mp accepted
  exact parse_eq_ok_iff.mpr ⟨scan, subcommand, rest, level, reads, named,
    request_of_alone nonempty made⟩

theorem settings_of_accepted (accepted : Arguments.parse fallback words = .ok arguments) :
    arguments.settings = (flagged words <|> fallback) := by
  obtain ⟨alone, makes, rfl⟩ := parse_eq_of_accepted accepted
  rw [flagged, makes]
  rfl

/-- A request stays the same beside any other variable that leaves its settings file. -/
theorem parse_of_same_settings {other : Option Path}
    (accepted : Arguments.parse fallback words = .ok arguments)
    (same : (flagged words <|> other) = (flagged words <|> fallback))
    (acceptable : other = some [] → ∃ arguments, Arguments.parse other words = .ok arguments) :
    Arguments.parse other words = .ok arguments := by
  obtain ⟨alone, makes, rfl⟩ := parse_eq_of_accepted accepted
  have flags : flagged words = alone.settings := by rw [flagged, makes]
  have beside : Arguments.parse other words = .ok (alone.withFallback other) := by
    by_cases empty : other = some []
    · obtain ⟨arguments, accepts⟩ := acceptable empty
      obtain ⟨again, remakes, rfl⟩ := parse_eq_of_accepted accepts
      cases makes.symm.trans remakes
      exact accepts
    · exact parse_of_alone empty makes
  rw [beside, Arguments.withFallback, Arguments.withFallback, ← flags, same]

end Levels

end RuntimeLocator.Cli
