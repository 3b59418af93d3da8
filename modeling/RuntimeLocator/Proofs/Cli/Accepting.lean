/-
What a request that is accepted can hold.

Values are looked at when their option is settled: a file must have a name, and a number of
characters must fit 64 bits (`Given.Sound.setOption`). Every word keeps what a level was given as
sound as it was (`sound_word`), so both levels are sound when their words have been read, and so is
the request that is put together of them (`sound_of_parse`).
-/

import RuntimeLocator.Proofs.Cli.Naming

namespace RuntimeLocator.Cli

/-- The capacity that a command asks for. -/
def Command.maxChars : Command → Nat
  | .resolve maxChars _ | .read _ _ _ maxChars => maxChars

/-- A request names no file without a name, and its capacity fits 64 bits. -/
structure Arguments.Sound (arguments : Arguments) : Prop where
  store : arguments.store ≠ some []
  settings : arguments.settings ≠ some []
  maxChars : arguments.command.maxChars < UInt64.size

/-- The same of what the words of one level have said. -/
structure Given.Sound (given : Given) : Prop where
  store : given.store ≠ some []
  settings : given.settings ≠ some []
  maxChars : ∀ count ∈ given.maxChars, count < UInt64.size

/-! ### Outcomes -/

section Outcomes

variable {ε α β : Type}

theorem map_eq_ok_iff {x : Except ε α} {f : α → β} {b : β} :
    x.map f = .ok b ↔ ∃ a, x = .ok a ∧ f a = b := by
  cases x <;> simp [Except.map]

/-- What every step keeps, a run of steps keeps. -/
theorem foldlM_keeps (holds : β → Prop) {step : β → α → Except ε β}
    (keeps : ∀ {b next : β} {a : α}, holds b → step b a = .ok next → holds next)
    {as : List α} {b last : β} (start : holds b) (run : as.foldlM step b = .ok last) :
    holds last := by
  induction as generalizing b with
  | nil =>
    cases run
    exact start
  | cons a as ih =>
    rw [List.foldlM_cons] at run
    obtain ⟨next, steps, rest⟩ := bind_eq_ok_iff.mp run
    exact ih (keeps start steps) rest

end Outcomes

/-! ### Values -/

theorem fill_eq_ok_iff {α : Type} {place filled : Option α} {value : Except Refusal α} :
    fill place value = .ok filled ↔ place = none ∧ ∃ a, value = .ok a ∧ filled = some a := by
  cases place with
  | some a => simp [fill]
  | none =>
    rw [fill, map_eq_ok_iff]
    simp [eq_comm]

theorem parseFile_eq_ok_iff {value : RawText} {path : Path} :
    parseFile value = .ok path ↔ value ≠ [] ∧ path = value := by
  by_cases empty : value = []
  · simp [parseFile, empty]
  · simp [parseFile, empty, eq_comm]

/-- A place that is filled with the name of a file is not filled with an empty one. -/
theorem ne_empty_of_fill {place filled : Option Path} {value : RawText}
    (fills : fill place (parseFile value) = .ok filled) : filled ≠ some [] := by
  obtain ⟨-, path, parses, rfl⟩ := fill_eq_ok_iff.mp fills
  obtain ⟨nonempty, rfl⟩ := parseFile_eq_ok_iff.mp parses
  exact fun same => nonempty (Option.some.inj same)

theorem lt_of_parseDigits {text : String} {count : Nat} (parses : parseDigits text = .ok count) :
    count < UInt64.size := by
  unfold parseDigits at parses
  extract_lets digits at parses
  split at parses
  · split at parses
    · rename_i n _ fits
      exact Except.ok.inj parses ▸ fits
    · cases parses
  · cases parses

theorem lt_of_parseCount {value : RawText} {count : Nat} (parses : parseCount value = .ok count) :
    count < UInt64.size := by
  obtain ⟨text, -, parses⟩ := bind_eq_ok_iff.mp parses
  exact lt_of_parseDigits parses

section Levels

variable {given next : Given} {scan later : Scan} {level : Level}

theorem Given.sound_none : Given.none.Sound where
  store := nofun
  settings := nofun
  maxChars := nofun

/-- A value that is taken in is sound, whatever else was given. -/
theorem Given.Sound.setOption (sound : given.Sound) {option : ValueOption} {value : RawText}
    (sets : given.setOption option value = .ok next) : next.Sound := by
  cases option with
  | store =>
    obtain ⟨place, fills, rfl⟩ := map_eq_ok_iff.mp sets
    exact { sound with store := ne_empty_of_fill fills }
  | settings =>
    obtain ⟨place, fills, rfl⟩ := map_eq_ok_iff.mp sets
    exact { sound with settings := ne_empty_of_fill fills }
  | maxChars =>
    obtain ⟨place, fills, rfl⟩ := map_eq_ok_iff.mp sets
    obtain ⟨-, count, parses, rfl⟩ := fill_eq_ok_iff.mp fills
    refine { sound with maxChars := ?_ }
    intro other same
    cases same
    exact lt_of_parseCount parses
  | hive =>
    obtain ⟨place, -, rfl⟩ := map_eq_ok_iff.mp sets
    exact { sound with }

theorem Given.Sound.raise (sound : given.Sound) {flag : Flag}
    (raises : given.raise flag = .ok next) : next.Sound := by
  cases flag with
  | verbose =>
    simp only [Given.raise] at raises
    split at raises <;> cases raises
    exact { sound with }
  | explain =>
    simp only [Given.raise] at raises
    split at raises <;> cases raises
    exact { sound with }
  | help => cases raises
  | version => cases raises

theorem Given.Sound.push (sound : given.Sound) {word : RawText}
    (pushes : given.push word = .ok next) : next.Sound := by
  obtain ⟨text, -, rfl⟩ := map_eq_ok_iff.mp pushes
  exact { sound with }

theorem sound_settle (sound : scan.given.Sound) (settles : scan.settle = .ok next) :
    next.Sound := by
  unfold Scan.settle at settles
  split at settles
  · cases settles
    exact sound
  · cases settles
  · exact sound.setOption settles
  · exact sound.push settles

/-! ### Words -/

theorem sound_positional (sound : scan.given.Sound) {word : RawText}
    (reads : scan.positional level word = .ok later) : later.given.Sound := by
  cases level with
  | outer =>
    simp only [Scan.positional] at reads
    split at reads <;> cases reads
  | resolve => cases reads
  | read =>
    simp only [Scan.positional] at reads
    split at reads
    · obtain ⟨given, settles, same⟩ := bind_eq_ok_iff.mp reads
      cases same
      exact sound_settle sound settles
    · cases reads

theorem sound_letter (sound : scan.given.Sound) {letter : UInt8}
    (reads : scan.letter level letter = .ok later) : later.given.Sound := by
  unfold Scan.letter at reads
  split at reads
  · cases reads
  · obtain ⟨settled, settles, reads⟩ := bind_eq_ok_iff.mp reads
    obtain ⟨given, raises, same⟩ := bind_eq_ok_iff.mp reads
    cases same
    exact (sound_settle sound settles).raise raises

theorem sound_long (sound : scan.given.Sound) {name : RawText} {value : Option RawText}
    (reads : scan.long level name value = .ok later) : later.given.Sound := by
  unfold Scan.long at reads
  split at reads
  · obtain ⟨settled, settles, reads⟩ := bind_eq_ok_iff.mp reads
    have settledSound := sound_settle sound settles
    cases value with
    | none =>
      cases reads
      exact settledSound
    | some value =>
      obtain ⟨given, sets, same⟩ := bind_eq_ok_iff.mp reads
      cases same
      exact settledSound.setOption sets
  · split at reads
    · cases reads
    · split at reads
      · cases reads
      · obtain ⟨settled, settles, reads⟩ := bind_eq_ok_iff.mp reads
        obtain ⟨given, raises, same⟩ := bind_eq_ok_iff.mp reads
        cases same
        exact (sound_settle sound settles).raise raises

/-- Every word that is read keeps what was given sound. -/
theorem sound_word (sound : scan.given.Sound) {word : RawText}
    (reads : scan.word level word = .ok later) : later.given.Sound := by
  unfold Scan.word at reads
  split at reads
  · exact sound_positional sound reads
  · split at reads
    · cases reads
      exact sound
    · exact sound_long sound reads
    · exact foldlM_keeps (·.given.Sound) (fun sound reads => sound_letter sound reads) sound reads
    · split at reads
      · cases reads
        exact sound
      · exact sound_positional sound reads

theorem sound_outer (sound : scan.given.Sound) {words : List RawText}
    {asked : Option (Subcommand × List RawText)} (reads : scan.outer words = .ok (later, asked)) :
    later.given.Sound := by
  induction words generalizing scan with
  | nil =>
    cases reads
    exact sound
  | cons word words ih =>
    rw [Scan.outer] at reads
    split at reads
    · cases reads
      exact sound
    · obtain ⟨next, steps, rest⟩ := bind_eq_ok_iff.mp reads
      exact ih (sound_word sound steps) rest

theorem sound_inner {words : List RawText} (reads : Scan.inner level words = .ok scan) :
    scan.given.Sound :=
  foldlM_keeps (·.given.Sound) (fun sound reads => sound_word sound reads) Given.sound_none reads

/-! ### Requests -/

theorem maxChars_of_command {command : Command} (asks : given.command level = .ok command) :
    command.maxChars = given.maxChars.getD minPathChars := by
  unfold Given.command at asks
  split at asks <;> cases asks <;> rfl

/-- **An accepted request is sound,** whatever the variable that may name its settings file. -/
theorem sound_of_parse {settingsVariable : Option Path} {words : List RawText}
    {arguments : Arguments} (accepted : Arguments.parse settingsVariable words = .ok arguments) :
    arguments.Sound := by
  obtain ⟨scan, subcommand, rest, level, reads, -, made⟩ := parse_eq_ok_iff.mp accepted
  obtain ⟨read, inner, outer, command, readsInner, endsInner, asks, endsOuter, rfl⟩ :=
    request_eq_ok_iff.mp made
  obtain ⟨settlesInner, variableInner⟩ := finish_eq_ok_iff.mp endsInner
  obtain ⟨settlesOuter, -⟩ := finish_eq_ok_iff.mp endsOuter
  have soundInner := sound_settle (sound_inner readsInner) settlesInner
  have soundOuter := sound_settle (sound_outer Given.sound_none reads) settlesOuter
  have either {one other : Option Path} (sound : one ≠ some [])
      (soundToo : one = none → other ≠ some []) : (one <|> other) ≠ some [] := by
    cases one with
    | none => exact soundToo rfl
    | some path => exact sound
  refine ⟨either soundInner.store fun _ => soundOuter.store, ?_, ?_⟩
  · exact either soundInner.settings fun unnamed =>
      either soundOuter.settings fun _ => variableInner unnamed
  · rw [maxChars_of_command asks]
    cases given : inner.maxChars with
    | none => decide
    | some count => exact soundInner.maxChars count given

end Levels

end RuntimeLocator.Cli
