/-
Requests written as words, and read back.

Every option of a request is one word (`Choice.word`), and reading the word takes in what it says
(`word_of_choice`). Options that differ can be taken in in any order (`take_comm`), and those of
the outer level together with those of the inner one give what all of them give on one level
(`foldl_take_above`). So wherever the options that every level has are written, and in whatever
order, the request is the same (`parse_written_iff`).
-/

import Mathlib.Data.List.Nodup
import RuntimeLocator.Proofs.Cli.Accepting

namespace RuntimeLocator.Cli

/-! ### Words for a request -/

/-- The long name of an option. -/
def ValueOption.name : ValueOption → String
  | .store => "store"
  | .settings => "settings"
  | .maxChars => "max-chars"
  | .hive => "hive"

/-- An option with its value in one word, after two hyphens and behind an equals sign. -/
def ValueOption.word (option : ValueOption) (value : RawText) : RawText :=
  0x2D :: 0x2D :: (Utf8.bytes option.name ++ 0x3D :: value)

/-- The word for a hive. -/
def hiveWord : Hive → RawText
  | .localMachine => Utf8.bytes "local-machine"
  | .currentUser => Utf8.bytes "current-user"

/-- What one option says. -/
inductive Choice where
  | store (path : Path)
  | settings (path : Path)
  | verbose
  | maxChars (count : Nat)
  | explain
  | hive (searched : Hive)
deriving DecidableEq

/-- The option that says it. -/
def Choice.option : Choice → ValueOption ⊕ Flag
  | .store _ => .inl .store
  | .settings _ => .inl .settings
  | .verbose => .inr .verbose
  | .maxChars _ => .inl .maxChars
  | .explain => .inr .explain
  | .hive _ => .inl .hive

def Choice.word : Choice → RawText
  | .store path => ValueOption.store.word path
  | .settings path => ValueOption.settings.word path
  | .verbose => Utf8.bytes "-v"
  | .maxChars count => ValueOption.maxChars.word (Utf8.bytes (toString count))
  | .explain => Utf8.bytes "--explain"
  | .hive searched => ValueOption.hive.word (hiveWord searched)

/-- The options that there are on a level: three on every one, and those of its subcommand. -/
def Level.Has : Level → Choice → Prop
  | _, .store _ | _, .settings _ | _, .verbose => True
  | level, .maxChars _ => level ≠ .outer
  | level, .explain => level = .resolve
  | level, .hive _ => level = .read

/-- A value that its option can take. -/
def Choice.Sound : Choice → Prop
  | .store path | .settings path => path ≠ []
  | .maxChars count => count < UInt64.size
  | .verbose | .explain | .hive _ => True

namespace Command

def level : Command → Level
  | .resolve .. => .resolve
  | .read .. => .read

def name : Command → RawText
  | .resolve .. => Utf8.bytes "resolve"
  | .read .. => Utf8.bytes "read"

/-- The options of a command. -/
def choices : Command → List Choice
  | .resolve maxChars explain => .maxChars maxChars :: if explain then [.explain] else []
  | .read _ _ hive maxChars => [.hive hive, .maxChars maxChars]

/-- What a command is given that is no option. -/
def positionals : Command → List String
  | .resolve .. => []
  | .read keyPath valueName _ _ => [keyPath, valueName]

/-- Its last words: what is no option stands behind two hyphens. -/
def tail : Command → List RawText
  | .resolve .. => []
  | .read keyPath valueName _ _ =>
    [Utf8.bytes "--", Utf8.bytes keyPath, Utf8.bytes valueName]

end Command

/-- All options of a request. -/
def Arguments.choices (arguments : Arguments) : List Choice :=
  (arguments.store.map .store).toList ++ (arguments.settings.map .settings).toList ++
    (if arguments.verbose then [.verbose] else []) ++ arguments.command.choices

/-- Words that write a request: each of its options once, in any order, those that every level has
before or behind the subcommand and the others behind it, and last what is no option. -/
inductive Arguments.Written (arguments : Arguments) : List RawText → Prop where
  | intro (before after : List Choice) (choices : (before ++ after).Perm arguments.choices)
      (common : ∀ choice ∈ before, Level.outer.Has choice) :
      arguments.Written (before.map Choice.word ++
        arguments.command.name :: (after.map Choice.word ++ arguments.command.tail))

/-! ### What options say -/

namespace Given

/-- Takes in what an option says. -/
def take (given : Given) : Choice → Given
  | .store path => { given with store := some path }
  | .settings path => { given with settings := some path }
  | .verbose => { given with verbose := true }
  | .maxChars count => { given with maxChars := some count }
  | .explain => { given with explain := true }
  | .hive hive => { given with hive := some hive }

/-- What an option says is among what has been given. -/
def Says (given : Given) : Choice → Prop
  | .store path => given.store = some path
  | .settings path => given.settings = some path
  | .verbose => given.verbose = true
  | .maxChars count => given.maxChars = some count
  | .explain => given.explain = true
  | .hive searched => given.hive = some searched

/-- An option has not been given yet. -/
def Lacks (given : Given) : Choice → Prop
  | .store _ => given.store = .none
  | .settings _ => given.settings = .none
  | .verbose => given.verbose = false
  | .maxChars _ => given.maxChars = .none
  | .explain => given.explain = false
  | .hive _ => given.hive = .none

/-- What two levels have been given together; the inner one goes before the outer one. -/
def above (inner outer : Given) : Given where
  store := inner.store <|> outer.store
  settings := inner.settings <|> outer.settings
  verbose := inner.verbose || outer.verbose
  explain := inner.explain || outer.explain
  maxChars := inner.maxChars <|> outer.maxChars
  hive := inner.hive <|> outer.hive
  positionals := inner.positionals ++ outer.positionals

end Given

section Choices

variable {given inner outer : Given} {choice other : Choice} {choices : List Choice}

theorem lacks_none (choice : Choice) : Given.none.Lacks choice := by
  cases choice <;> rfl

theorem lacks_take (lacks : given.Lacks other) (differ : other.option ≠ choice.option) :
    (given.take choice).Lacks other := by
  cases choice <;> cases other <;> first | exact lacks | exact absurd rfl differ

theorem take_comm (differ : choice.option ≠ other.option) :
    (given.take choice).take other = (given.take other).take choice := by
  cases choice <;> cases other <;> first | rfl | exact absurd rfl differ

/-- Different options may be taken in in any order. -/
theorem foldl_take_of_perm {others : List Choice} (perm : choices.Perm others)
    (distinct : (choices.map Choice.option).Nodup) :
    choices.foldl Given.take given = others.foldl Given.take given := by
  refine perm.foldl_eq' (fun one mem two memToo given => ?_) given
  by_cases same : one.option = two.option
  · rw [List.inj_on_of_nodup_map distinct mem memToo same]
  · exact take_comm same

theorem none_above (outer : Given) : Given.none.above outer = outer := rfl

theorem take_above : (inner.above outer).take choice = (inner.take choice).above outer := by
  cases choice <;> rfl

/-- What the outer level was given stays below what the inner one takes in. -/
theorem foldl_take_above :
    choices.foldl Given.take (inner.above outer) =
      (choices.foldl Given.take inner).above outer := by
  induction choices generalizing inner with
  | nil => rfl
  | cons choice choices ih => rw [List.foldl_cons, take_above, ih, List.foldl_cons]

/-- The outer level is given nothing that belongs to a subcommand. -/
theorem foldl_take_of_outer (given : Given)
    (common : ∀ choice ∈ choices, Level.outer.Has choice) :
    (choices.foldl Given.take given).maxChars = given.maxChars ∧
      (choices.foldl Given.take given).explain = given.explain ∧
      (choices.foldl Given.take given).hive = given.hive := by
  induction choices generalizing given with
  | nil => exact ⟨rfl, rfl, rfl⟩
  | cons choice choices ih =>
    have here := common choice List.mem_cons_self
    rw [List.foldl_cons]
    obtain ⟨maxChars, explain, hive⟩ := ih (given.take choice) fun choice mem =>
      common choice (List.mem_cons_of_mem _ mem)
    rw [maxChars, explain, hive]
    cases choice with
    | store | settings | verbose => exact ⟨rfl, rfl, rfl⟩
    | maxChars => exact absurd rfl here
    | explain | hive => cases here

theorem positionals_foldl_take (choices : List Choice) (given : Given) :
    (choices.foldl Given.take given).positionals = given.positionals := by
  induction choices generalizing given with
  | nil => rfl
  | cons choice choices ih =>
    rw [List.foldl_cons, ih]
    cases choice <;> rfl

end Choices

/-! ### The options of a request -/

section Requests

variable {arguments : Arguments}

/-- What the options of a request say all together. -/
def Arguments.given (arguments : Arguments) : Given where
  store := arguments.store
  settings := arguments.settings
  verbose := arguments.verbose
  explain := match arguments.command with
    | .resolve _ explain => explain
    | .read .. => false
  maxChars := some arguments.command.maxChars
  hive := match arguments.command with
    | .resolve .. => none
    | .read _ _ hive _ => some hive
  positionals := []

theorem foldl_take_choices (arguments : Arguments) :
    arguments.choices.foldl Given.take .none = arguments.given := by
  obtain ⟨_ | _, _ | _, _ | _, ⟨_, _ | _⟩ | _⟩ := arguments <;> rfl

theorem nodup_option_choices (arguments : Arguments) :
    (arguments.choices.map Choice.option).Nodup := by
  obtain ⟨_ | _, _ | _, _ | _, ⟨_, _ | _⟩ | _⟩ := arguments <;>
    simp [Arguments.choices, Command.choices, Choice.option]

theorem mem_choices_iff {choice : Choice} :
    choice ∈ arguments.choices ↔ arguments.given.Says choice := by
  obtain ⟨store, settings, verbose, command⟩ := arguments
  cases command <;> cases choice <;>
    simp [Arguments.choices, Command.choices, Arguments.given, Given.Says, Command.maxChars,
      eq_comm]

/-- Every option of a request is one of its subcommand. -/
theorem has_of_mem_choices {choice : Choice} (mem : choice ∈ arguments.choices) :
    arguments.command.level.Has choice := by
  have said := mem_choices_iff.mp mem
  simp only [Arguments.given] at said
  cases choice with
  | store | settings | verbose => trivial
  | maxChars count => cases arguments.command <;> exact nofun
  | explain =>
    cases asks : arguments.command with
    | resolve => rfl
    | read => simp [Given.Says, asks] at said
  | hive searched =>
    cases asks : arguments.command with
    | resolve => simp [Given.Says, asks] at said
    | read => rfl

theorem sound_of_mem_choices {choice : Choice} (sound : arguments.Sound)
    (mem : choice ∈ arguments.choices) : choice.Sound := by
  have said := mem_choices_iff.mp mem
  cases choice with
  | store path => exact fun empty => sound.store (empty ▸ said)
  | settings path => exact fun empty => sound.settings (empty ▸ said)
  | maxChars count => exact Option.some.inj said ▸ sound.maxChars
  | verbose | explain | hive => trivial

end Requests

/-! ### Reading the words -/

/-- A name without an equals sign ends at the first one, and all behind that is the value. -/
theorem form_of_named {name value : RawText} (plain : ∀ b ∈ name, b ≠ 0x3D) :
    Word.of (0x2D :: 0x2D :: (name ++ 0x3D :: value)) = .long name (some value) := by
  have taken : (name ++ 0x3D :: value).takeWhile (· ≠ 0x3D) = name := by
    rw [List.takeWhile_append_of_pos (by simpa using plain)]
    simp
  have dropped : (name ++ 0x3D :: value).dropWhile (· ≠ 0x3D) = 0x3D :: value := by
    rw [List.dropWhile_append_of_pos (by simpa using plain)]
    simp
  cases name with
  | nil => rfl
  | cons b bs =>
    rw [List.cons_append] at taken dropped
    simp only [List.cons_append, Word.of, taken, dropped]

theorem form_of_valued (option : ValueOption) (value : RawText) :
    Word.of (option.word value) = .long (Utf8.bytes option.name) (some value) :=
  form_of_named (by cases option <;> decide +kernel)

theorem parseText_bytes (text : String) : parseText (Utf8.bytes text) = .ok text := by
  simp only [parseText, Utf8.strict?_eq_some_iff.mpr rfl]

/-- A number is read back from its digits. -/
theorem parseCount_toString {count : Nat} (fits : count < UInt64.size) :
    parseCount (Utf8.bytes (toString count)) = .ok count := by
  refine bind_eq_ok_iff.mpr ⟨toString count, parseText_bytes _, ?_⟩
  have chars : (toString count).toList = Nat.toDigits 10 count := Nat.toList_repr
  have areDigits : ∀ c ∈ Nat.toDigits 10 count, c.isDigit = true := fun c =>
    Nat.isDigit_of_mem_toDigits (by decide) (by decide)
  have value : (Nat.toDigits 10 count).foldl (fun n c => n * 10 + (c.toNat - '0'.toNat)) 0 =
      count := by
    have gathers := Nat.ofDigitChars_ten_toDigits (n := count)
    simpa only [Nat.ofDigitChars, Nat.mul_comm] using gathers
  unfold parseDigits
  extract_lets digits n
  have unsigned : digits = Nat.toDigits 10 count := by
    simp only [digits, chars]
    split
    · rename_i signed
      exact absurd (areDigits '+' (signed ▸ List.mem_cons_self)) (by decide)
    · rfl
  have shaped : (digits ≠ [] && digits.all (·.isDigit)) = true := by
    rw [unsigned]
    simpa using areDigits
  have read : n = count := by
    simp only [n, unsigned]
    exact value
  rw [if_pos shaped, read, if_pos fits]

theorem parseHive_hiveWord (hive : Hive) : parseHive (hiveWord hive) = .ok hive := by
  cases hive <;> rfl

/-- A level on which no option is pending and no two hyphens have been passed. -/
def Scan.settled (given : Given) : Scan := ⟨given, none, false⟩

section Reading

variable {given next : Given} {level : Level} {choice : Choice} {choices : List Choice}

theorem settle_settled : (Scan.settled given).settle = .ok given := rfl

theorem word_of_long {word name : RawText} {value : Option RawText}
    (form : Word.of word = .long name value) :
    (Scan.settled given).word level word = (Scan.settled given).long level name value := by
  simp only [Scan.word, form]
  rfl

/-- An option that takes a value is known by its long name on the levels that have it, and the
value is taken in. -/
theorem word_of_valueOption {option : ValueOption} {value : RawText}
    (known : level.valueOption? (Utf8.bytes option.name) = some option)
    (sets : given.setOption option value = .ok next) :
    (Scan.settled given).word level (option.word value) = .ok (.settled next) := by
  rw [word_of_long (form_of_valued option value)]
  simp only [Scan.long, known, settle_settled, bind, Except.bind, sets]
  rfl

theorem word_of_verbose (lacks : given.verbose = false) :
    (Scan.settled given).word level (Utf8.bytes "-v") =
      .ok (.settled { given with verbose := true }) := by
  have letters : Word.of (Utf8.bytes "-v") = .letters ['v'.toUInt8] := by decide +kernel
  have raises : given.raise .verbose = .ok { given with verbose := true } := by
    rw [Given.raise, lacks]
    rfl
  have reads : (Scan.settled given).letter level 'v'.toUInt8 =
      .ok (.settled { given with verbose := true }) := by
    simp only [Scan.letter, Level.letter?, if_pos, settle_settled, bind, Except.bind, raises]
    rfl
  simp only [Scan.word, letters, List.foldlM_cons, List.foldlM_nil, reads]
  rfl

theorem word_of_explain (lacks : given.explain = false) :
    (Scan.settled given).word .resolve (Utf8.bytes "--explain") =
      .ok (.settled { given with explain := true }) := by
  have form : Word.of (Utf8.bytes "--explain") = .long (Utf8.bytes "explain") none := by
    decide +kernel
  have raises : given.raise .explain = .ok { given with explain := true } := by
    rw [Given.raise, lacks]
    rfl
  have unvalued : Level.resolve.valueOption? (Utf8.bytes "explain") = none := by decide +kernel
  have known : Level.resolve.flag? (Utf8.bytes "explain") = some .explain := by decide +kernel
  rw [word_of_long form]
  simp only [Scan.long, unvalued, known, settle_settled, bind, Except.bind, raises]
  rfl

theorem push_bytes (given : Given) (text : String) :
    given.push (Utf8.bytes text) =
      .ok { given with positionals := given.positionals ++ [text] } := by
  rw [Given.push, parseText_bytes]
  rfl

/-- Behind two hyphens a word is taken for no option, and what came before it is settled. -/
theorem word_of_positional {scan : Scan} {word : RawText} (escaped : scan.escaped = true)
    (room : scan.positionalCount < 2) (settles : scan.settle = .ok given) :
    scan.word .read word = .ok { scan with given, pending := some (.positional word) } := by
  simp only [Scan.word, escaped, Scan.positional, if_pos room, settles]
  rfl

/-- A value that its option can take fills the place of the option. -/
theorem fill_of_ok {α : Type} {place : Option α} {value : Except Refusal α} {a : α}
    (free : place = none) (reads : value = .ok a) : fill place value = .ok (some a) :=
  fill_eq_ok_iff.mpr ⟨free, a, reads, rfl⟩

/-- **Reading the word of an option takes in what it says.** -/
theorem word_of_choice (has : level.Has choice) (sound : choice.Sound)
    (lacks : given.Lacks choice) :
    (Scan.settled given).word level choice.word = .ok (.settled (given.take choice)) := by
  cases choice with
  | store path =>
    have fills := fill_of_ok lacks (parseFile_eq_ok_iff.mpr ⟨sound, rfl⟩)
    exact word_of_valueOption rfl (map_eq_ok_iff.mpr ⟨_, fills, rfl⟩)
  | settings path =>
    have fills := fill_of_ok lacks (parseFile_eq_ok_iff.mpr ⟨sound, rfl⟩)
    exact word_of_valueOption rfl (map_eq_ok_iff.mpr ⟨_, fills, rfl⟩)
  | verbose => exact word_of_verbose lacks
  | maxChars count =>
    have fills := fill_of_ok lacks (parseCount_toString sound)
    have known : level.valueOption? (Utf8.bytes "max-chars") = some .maxChars := if_neg has
    exact word_of_valueOption known (map_eq_ok_iff.mpr ⟨_, fills, rfl⟩)
  | explain =>
    obtain rfl : level = .resolve := has
    exact word_of_explain lacks
  | hive searched =>
    obtain rfl : level = .read := has
    have fills := fill_of_ok lacks (parseHive_hiveWord searched)
    exact word_of_valueOption rfl (map_eq_ok_iff.mpr ⟨_, fills, rfl⟩)

/-- Options that differ are read one after the other. -/
theorem foldlM_word_choices (has : ∀ choice ∈ choices, level.Has choice)
    (sound : ∀ choice ∈ choices, choice.Sound) (lacks : ∀ choice ∈ choices, given.Lacks choice)
    (distinct : (choices.map Choice.option).Nodup) :
    (choices.map Choice.word).foldlM (Scan.word level) (Scan.settled given) =
      .ok (.settled (choices.foldl Given.take given)) := by
  induction choices generalizing given with
  | nil => rfl
  | cons choice choices ih =>
    obtain ⟨fresh, distinct⟩ := List.nodup_cons.mp distinct
    have first := word_of_choice (has choice List.mem_cons_self) (sound choice List.mem_cons_self)
      (lacks choice List.mem_cons_self)
    -- What was read is another option than all that are to come, so their places stay free.
    have later : ∀ other ∈ choices, (given.take choice).Lacks other := by
      intro other mem
      refine lacks_take (lacks other (List.mem_cons_of_mem _ mem)) fun same => fresh ?_
      exact same ▸ List.mem_map_of_mem mem
    rw [List.map_cons, List.foldlM_cons, first, List.foldl_cons]
    exact ih (fun other mem => has other (List.mem_cons_of_mem _ mem))
      (fun other mem => sound other (List.mem_cons_of_mem _ mem)) later distinct

/-- No option is the name of a subcommand. -/
theorem subcommand?_word (choice : Choice) : subcommand? choice.word = none := by
  have hyphen : choice.word.head? = some 0x2D := by
    cases choice with
    | verbose | explain => decide +kernel
    | store | settings | maxChars | hive => rfl
  have differs {name : RawText} (other : name.head? ≠ some 0x2D) : choice.word ≠ name := by
    rintro rfl
    exact other hyphen
  rw [subcommand?, if_neg (differs (by decide +kernel)), if_neg (differs (by decide +kernel)),
    if_neg (differs (by decide +kernel))]

end Reading

/-! ### Both levels -/

section Levels

variable {given inner outer : Given} {arguments : Arguments}
  {choices before after : List Choice}

/-- The outer level reads words as they come until one is the name of a subcommand. -/
theorem outer_append {words rest : List RawText} {scan : Scan}
    (none : ∀ word ∈ words, subcommand? word = none) :
    scan.outer (words ++ rest) =
      (words.foldlM (Scan.word .outer) scan).bind fun scan => scan.outer rest := by
  induction words generalizing scan with
  | nil => rfl
  | cons word words ih =>
    have here := none word List.mem_cons_self
    rw [List.cons_append, Scan.outer, here, List.foldlM_cons]
    simp only [Option.isSome_none, Bool.and_false, Bool.false_eq_true, if_false, bind]
    cases scan.word .outer word with
    | error refusal => rfl
    | ok next => exact ih fun word mem => none word (List.mem_cons_of_mem _ mem)

/-- The outer level takes in its options and ends at the name of the subcommand. -/
theorem outer_of_choices (common : ∀ choice ∈ choices, Level.outer.Has choice)
    (sound : ∀ choice ∈ choices, choice.Sound) (distinct : (choices.map Choice.option).Nodup)
    (command : Command) (rest : List RawText) :
    ∃ subcommand : Subcommand, subcommand.level? = some command.level ∧
      Scan.start.outer (choices.map Choice.word ++ command.name :: rest) =
        .ok (.settled (choices.foldl Given.take .none), some (subcommand, rest)) := by
  have reads := foldlM_word_choices common sound (fun choice _ => lacks_none choice) distinct
  have unnamed : ∀ word ∈ choices.map Choice.word, subcommand? word = none := by
    simpa using fun choice _ => subcommand?_word choice
  rw [outer_append unnamed]
  cases command with
  | resolve => exact ⟨.resolve, rfl, bind_eq_ok_iff.mpr ⟨_, reads, rfl⟩⟩
  | read => exact ⟨.read, rfl, bind_eq_ok_iff.mpr ⟨_, reads, rfl⟩⟩

/-- Behind two hyphens whatever is written is no option. -/
theorem foldlM_word_tail (command : Command) (free : given.positionals = []) :
    ∃ scan : Scan, command.tail.foldlM (Scan.word command.level) (Scan.settled given) = .ok scan ∧
      scan.settle = .ok { given with positionals := command.positionals } := by
  cases command with
  | resolve =>
    refine ⟨_, rfl, ?_⟩
    rw [settle_settled, Command.positionals, ← free]
  | read keyPath valueName hive maxChars =>
    have form : Word.of (Utf8.bytes "--") = .escape := by decide +kernel
    have escapes : (Scan.settled given).word .read (Utf8.bytes "--") =
        .ok ⟨given, none, true⟩ := by
      simp only [Scan.word, form]
      rfl
    have first : Scan.word .read ⟨given, none, true⟩ (Utf8.bytes keyPath) =
        .ok ⟨given, some (.positional (Utf8.bytes keyPath)), true⟩ :=
      word_of_positional rfl (by simp [Scan.positionalCount, free]) rfl
    have second := @word_of_positional _ ⟨given, some (.positional (Utf8.bytes keyPath)), true⟩
      (Utf8.bytes valueName) rfl (by simp [Scan.positionalCount, free]) (push_bytes given keyPath)
    have last := push_bytes { given with positionals := given.positionals ++ [keyPath] } valueName
    refine ⟨⟨{ given with positionals := given.positionals ++ [keyPath] },
      some (.positional (Utf8.bytes valueName)), true⟩, ?_, ?_⟩
    · simp only [Command.tail, Command.level, List.foldlM_cons, bind, Except.bind, escapes, first,
        second]
      rfl
    · refine last.trans ?_
      rw [free]
      rfl

/-- The inner level takes in its options, and then what is no option. -/
theorem inner_of_choices (command : Command) (has : ∀ choice ∈ choices, command.level.Has choice)
    (sound : ∀ choice ∈ choices, choice.Sound) (distinct : (choices.map Choice.option).Nodup) :
    ∃ scan : Scan,
      Scan.inner command.level (choices.map Choice.word ++ command.tail) = .ok scan ∧
        scan.settle =
          .ok { choices.foldl Given.take .none with positionals := command.positionals } := by
  have reads := foldlM_word_choices has sound (fun choice _ => lacks_none choice) distinct
  obtain ⟨scan, readsTail, settles⟩ := foldlM_word_tail command
    (positionals_foldl_take choices .none)
  refine ⟨scan, ?_, settles⟩
  rw [Scan.inner, List.foldlM_append]
  exact bind_eq_ok_iff.mpr ⟨_, reads, readsTail⟩

/-- The two levels together have been given what the request says, wherever its options stand. -/
theorem above_eq_given (choices : (before ++ after).Perm arguments.choices) :
    (after.foldl Given.take .none).above (before.foldl Given.take .none) = arguments.given := by
  have distinct : ((before ++ after).map Choice.option).Nodup :=
    (choices.map Choice.option).nodup_iff.mpr (nodup_option_choices arguments)
  calc (after.foldl Given.take .none).above (before.foldl Given.take .none)
    _ = after.foldl Given.take (Given.none.above (before.foldl Given.take .none)) :=
      foldl_take_above.symm
    _ = (before ++ after).foldl Given.take .none := by rw [none_above, List.foldl_append]
    _ = arguments.choices.foldl Given.take .none := foldl_take_of_perm choices distinct
    _ = arguments.given := foldl_take_choices arguments

/-- A subcommand makes its command of what its options and its other words have said. -/
theorem command_of_given (maxChars : given.maxChars = arguments.given.maxChars)
    (explain : given.explain = arguments.given.explain)
    (hive : given.hive = arguments.given.hive) :
    Given.command arguments.command.level
      { given with positionals := arguments.command.positionals } = .ok arguments.command := by
  simp only [Arguments.given] at maxChars explain hive
  cases asks : arguments.command with
  | resolve count explains =>
    rw [asks] at maxChars explain
    simp only [Given.command, Command.level, maxChars, explain]
    rfl
  | read keyPath valueName searched count =>
    rw [asks] at maxChars hive
    simp only [Given.command, Command.level, Command.positionals, maxChars, hive]
    rfl

/-- Two levels that have been given what a request says make that request, if the outer one has
been given nothing that belongs to a subcommand. -/
theorem request_of_above (together : inner.above outer = arguments.given)
    (maxChars : outer.maxChars = none) (explain : outer.explain = false)
    (hive : outer.hive = none) :
    Given.command arguments.command.level
        { inner with positionals := arguments.command.positionals } = .ok arguments.command ∧
      arguments = ⟨inner.store <|> outer.store, inner.settings <|> outer.settings <|> none,
        inner.verbose || outer.verbose, arguments.command⟩ := by
  constructor
  · refine command_of_given ?_ ?_ ?_
    all_goals rw [← together]
    · simp [Given.above, maxChars]
    · simp [Given.above, explain]
    · simp [Given.above, hive]
  · have settings : (inner.settings <|> outer.settings <|> none) = arguments.settings := by
      refine Eq.trans ?_ (congrArg Given.settings together)
      simp [Given.above]
    have store : (inner.store <|> outer.store) = arguments.store := congrArg Given.store together
    have verbose : (inner.verbose || outer.verbose) = arguments.verbose :=
      congrArg Given.verbose together
    simp only [settings, store, verbose]

end Levels

/-- Words that write a sound request are read as that request. -/
theorem parse_of_written {arguments : Arguments} {words : List RawText}
    (written : arguments.Written words) (sound : arguments.Sound) :
    Arguments.parse none words = .ok arguments := by
  obtain ⟨before, after, choices, common⟩ := written
  have distinct : ((before ++ after).map Choice.option).Nodup :=
    (choices.map Choice.option).nodup_iff.mpr (nodup_option_choices arguments)
  rw [List.map_append] at distinct
  -- An option is one of the request, on whichever side of the subcommand it stands.
  have amongBefore : ∀ choice ∈ before, choice ∈ arguments.choices :=
    fun choice mem => choices.mem_iff.mp (List.mem_append_left _ mem)
  have amongAfter : ∀ choice ∈ after, choice ∈ arguments.choices :=
    fun choice mem => choices.mem_iff.mp (List.mem_append_right _ mem)
  obtain ⟨subcommand, named, readsOuter⟩ := outer_of_choices common
    (fun choice mem => sound_of_mem_choices sound (amongBefore choice mem))
    distinct.of_append_left arguments.command (after.map Choice.word ++ arguments.command.tail)
  obtain ⟨scan, readsInner, settles⟩ := inner_of_choices arguments.command
    (fun choice mem => has_of_mem_choices (amongAfter choice mem))
    (fun choice mem => sound_of_mem_choices sound (amongAfter choice mem))
    distinct.of_append_right
  obtain ⟨maxChars, explain, hive⟩ := foldl_take_of_outer .none common
  obtain ⟨asks, same⟩ := request_of_above (above_eq_given choices) maxChars explain hive
  exact parse_eq_ok_iff.mpr ⟨_, subcommand, _, _, readsOuter, named,
    request_eq_ok_iff.mpr ⟨scan, _, _, arguments.command, readsInner,
      finish_eq_ok_iff.mpr ⟨settles, fun _ => nofun⟩, asks,
      finish_eq_ok_iff.mpr ⟨settle_settled, fun _ => nofun⟩, same⟩⟩

/-- **Words that write a request are read as that request.** Wherever the options stand that every
level has, and in whatever order any are written, the words are read as the request that they
write, if it is sound. No words are read as a request that is not. -/
theorem parse_written_iff {arguments : Arguments} {words : List RawText}
    (written : arguments.Written words) :
    Arguments.parse none words = .ok arguments ↔ arguments.Sound :=
  ⟨sound_of_parse, parse_of_written written⟩

/-- A request whose texts look like options, like the name of a subcommand, and like nothing, and
with a path that is no text. -/
theorem parse_written_iff_disguised :
    let stored : Path := Utf8.bytes "=read"
    let named : Path := [0x2D, 0x2D, 0xFF]
    let arguments : Arguments := ⟨some stored, some named, true,
      .read "--hive=local-machine" "" .currentUser 18446744073709551615⟩
    let words : List RawText := [Utf8.bytes "-v", Utf8.bytes "--store==read", Utf8.bytes "read",
      Utf8.bytes "--max-chars=18446744073709551615", Utf8.bytes "--settings=" ++ named,
      Utf8.bytes "--hive=current-user", Utf8.bytes "--", Utf8.bytes "--hive=local-machine", []]
    arguments.Written words ∧ arguments.Sound ∧ Arguments.parse none words = .ok arguments := by
  intro stored named arguments words
  let before : List Choice := [.verbose, .store stored]
  let after : List Choice :=
    [.maxChars 18446744073709551615, .settings named, .hive .currentUser]
  have choices : (before ++ after).Perm arguments.choices := by decide +kernel
  have common : ∀ choice ∈ before, Level.outer.Has choice := by simp [before, Level.Has]
  have spelled : before.map Choice.word ++
      arguments.command.name :: (after.map Choice.word ++ arguments.command.tail) = words := by
    decide +kernel
  have written : arguments.Written words := spelled ▸ .intro before after choices common
  have sound : arguments.Sound := ⟨by decide +kernel, by decide, by decide⟩
  exact ⟨written, sound, (parse_written_iff written).mpr sound⟩

end RuntimeLocator.Cli
