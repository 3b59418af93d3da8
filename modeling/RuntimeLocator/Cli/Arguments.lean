/-
The command line: what can be asked for, and how words become a request.

Words are bytes. Those of options and subcommands are known ones, a path may be any, and
every other value must spell a text.

Words are read one after the other on a level: the words before the subcommand are on
the outer level and those after it on its own. Three options exist on every level, and
what the inner level says goes before what the outer one says. An option given as two
words, and a word that is no option, are held back until the next one, or the end, settles
them, so a fault in them may give way to one in a later word.
-/

import RuntimeLocator.Cli.Files
import RuntimeLocator.Lookup.Resolve
import RuntimeLocator.Registry.Hive

namespace RuntimeLocator.Cli

/-- A subcommand with its arguments. -/
inductive Command where
  | resolve (maxChars : Nat) (explain : Bool)
  | read (keyPath valueName : String) (hive : Hive) (maxChars : Nat)
deriving DecidableEq

/-- A request. -/
structure Arguments where
  /-- The snapshot to read instead of the system's registry. -/
  store : Option Path
  /-- The settings file. -/
  settings : Option Path
  verbose : Bool
  command : Command
deriving DecidableEq

/-- Why words are no request: they are refused, or ask for information about the program
instead. -/
inductive Refusal where
  | unknownArgument
  /-- A value is missing, empty, or none of those possible. -/
  | invalidValue
  /-- A value is no number. -/
  | malformedNumber
  /-- A value is no text. -/
  | damagedText
  | invalidSubcommand
  | missingSubcommand
  | missingArgument
  /-- Something is given twice. -/
  | conflict
  /-- A flag is given a value. -/
  | valueForFlag
  | help
  | version
  /-- Nothing is asked for at all. -/
  | nothingAsked
deriving DecidableEq

/-- Asking for information is a success. -/
def Refusal.exitCode : Refusal → Nat
  | .help | .version => 0
  | _ => 2

/-! ### What is on which level -/

/-- The words of the outer level, or those of a subcommand. -/
inductive Level where
  | outer
  | resolve
  | read
deriving DecidableEq

/-- Options that take a value. -/
inductive ValueOption where
  | store
  | settings
  | maxChars
  | hive
deriving DecidableEq

/-- Options that take none. -/
inductive Flag where
  | verbose
  | explain
  | help
  | version
deriving DecidableEq

/-- The option with a value that a long name means on a level. -/
def Level.valueOption? (level : Level) (name : RawText) : Option ValueOption :=
  if name = Utf8.bytes "store" then some .store
  else if name = Utf8.bytes "settings" then some .settings
  else if name = Utf8.bytes "max-chars" then
    if level = .outer then none else some .maxChars
  else if name = Utf8.bytes "hive" then
    if level = .read then some .hive else none
  else none

/-- The flag that a long name means on a level. -/
def Level.flag? (level : Level) (name : RawText) : Option Flag :=
  if name = Utf8.bytes "verbose" then some .verbose
  else if name = Utf8.bytes "help" then some .help
  else if name = Utf8.bytes "version" then
    if level = .outer then some .version else none
  else if name = Utf8.bytes "explain" then
    if level = .resolve then some .explain else none
  else none

/-- The flag that a single letter means on a level. -/
def Level.letter? (level : Level) (letter : UInt8) : Option Flag :=
  if letter = 'v'.toUInt8 then some .verbose
  else if letter = 'h'.toUInt8 then some .help
  else if letter = 'V'.toUInt8 then
    if level = .outer then some .version else none
  else none

/-- The words that can stand for a subcommand. -/
inductive Subcommand where
  | resolve
  | read
  | help
deriving DecidableEq

def subcommand? (word : RawText) : Option Subcommand :=
  if word = Utf8.bytes "resolve" then some .resolve
  else if word = Utf8.bytes "read" then some .read
  else if word = Utf8.bytes "help" then some .help
  else none

/-! ### What has been given so far -/

/-- What the words of a level have said. -/
structure Given where
  store : Option Path
  settings : Option Path
  verbose : Bool
  explain : Bool
  maxChars : Option Nat
  hive : Option Hive
  positionals : List String
deriving DecidableEq

def Given.none : Given := ⟨.none, .none, false, false, .none, .none, []⟩

/-- A value that must spell a text. -/
def parseText (value : RawText) : Except Refusal String :=
  match Utf8.strict? value with
  | some text => .ok text
  | none => .error .damagedText

/-- The digits of a number below `2 ^ 64`, after a plus sign perhaps. -/
def parseDigits (text : String) : Except Refusal Nat :=
  let digits :=
    match text.toList with
    | '+' :: digits => digits
    | digits => digits
  if digits ≠ [] && digits.all (·.isDigit) then
    let n := digits.foldl (fun n c => n * 10 + (c.toNat - 0x30)) 0
    if n < UInt64.size then .ok n else .error .malformedNumber
  else .error .malformedNumber

def parseCount (value : RawText) : Except Refusal Nat :=
  (parseText value).bind parseDigits

/-- The path of a file, which may not be empty. -/
def parseFile (value : RawText) : Except Refusal Path :=
  if value = [] then .error .invalidValue else .ok value

def parseHive (value : RawText) : Except Refusal Hive :=
  if value = Utf8.bytes "local-machine" then .ok .localMachine
  else if value = Utf8.bytes "current-user" then .ok .currentUser
  else .error .invalidValue

/-- Puts a value in a place that must be free. -/
def fill {α : Type} (place : Option α) (value : Except Refusal α) :
    Except Refusal (Option α) :=
  match place with
  | some _ => .error .conflict
  | none => value.map some

/-- Takes in an option with its value. -/
def Given.setOption (given : Given) (option : ValueOption) (value : RawText) :
    Except Refusal Given :=
  match option with
  | .store => (fill given.store (parseFile value)).map fun store => { given with store }
  | .settings =>
    (fill given.settings (parseFile value)).map fun settings => { given with settings }
  | .maxChars =>
    (fill given.maxChars (parseCount value)).map fun maxChars => { given with maxChars }
  | .hive => (fill given.hive (parseHive value)).map fun hive => { given with hive }

/-- Takes in a word that is no option. -/
def Given.push (given : Given) (word : RawText) : Except Refusal Given :=
  (parseText word).map fun text => { given with positionals := given.positionals ++ [text] }

/-- Takes in a flag. -/
def Given.raise (given : Given) : Flag → Except Refusal Given
  | .verbose => if given.verbose then .error .conflict else .ok { given with verbose := true }
  | .explain => if given.explain then .error .conflict else .ok { given with explain := true }
  | .help => .error .help
  | .version => .error .version

/-! ### Reading words -/

/-- The form of a word. -/
inductive Word where
  /-- Two hyphens: no word after it is an option. -/
  | escape
  /-- A long option, with the value behind its first equals sign. -/
  | long (name : RawText) (value : Option RawText)
  /-- Letters behind one hyphen. -/
  | letters (letters : RawText)
  /-- Anything else, a single hyphen included. -/
  | plain
deriving DecidableEq

def Word.of (word : RawText) : Word :=
  match word with
  | [0x2D, 0x2D] => .escape
  | 0x2D :: 0x2D :: bs =>
    let name := bs.takeWhile (· ≠ 0x3D)
    match bs.dropWhile (· ≠ 0x3D) with
    | [] => .long name none
    | _ :: value => .long name (some value)
  | [0x2D] => .plain
  | 0x2D :: bs => .letters bs
  | _ => .plain

/-- What is not settled yet. -/
inductive Pending where
  /-- An option whose value is still to come. -/
  | unvalued (option : ValueOption)
  | valued (option : ValueOption) (value : RawText)
  /-- A word that is no option. -/
  | positional (word : RawText)
deriving DecidableEq

/-- A level while its words are being read. -/
structure Scan where
  given : Given
  pending : Option Pending
  /-- Whether two hyphens have been passed. -/
  escaped : Bool
deriving DecidableEq

def Scan.start : Scan := ⟨.none, none, false⟩

/-- Whether the next word is the value of an option. -/
def Scan.awaitsValue (scan : Scan) : Bool :=
  match scan.pending with
  | some (.unvalued _) => true
  | _ => false

/-- How many words have been no options. -/
def Scan.positionalCount (scan : Scan) : Nat :=
  match scan.pending with
  | some (.positional _) => scan.given.positionals.length + 1
  | _ => scan.given.positionals.length

/-- Settles what is pending. -/
def Scan.settle (scan : Scan) : Except Refusal Given :=
  match scan.pending with
  | none => .ok scan.given
  | some (.unvalued _) => .error .invalidValue
  | some (.valued option value) => scan.given.setOption option value
  | some (.positional word) => scan.given.push word

/-- Reads a word that is no option. -/
def Scan.positional (level : Level) (scan : Scan) (word : RawText) : Except Refusal Scan :=
  match level with
  | .outer =>
    if scan.escaped && (subcommand? word).isSome then .error .unknownArgument
    else .error .invalidSubcommand
  | .resolve => .error .unknownArgument
  | .read =>
    if scan.positionalCount < 2 then do
      let given ← scan.settle
      return { scan with given, pending := some (.positional word) }
    else .error .unknownArgument

/-- Reads a letter behind a hyphen. -/
def Scan.letter (level : Level) (scan : Scan) (letter : UInt8) : Except Refusal Scan :=
  match level.letter? letter with
  | none => .error .unknownArgument
  | some flag => do
    let given ← scan.settle
    let given ← given.raise flag
    return { scan with given, pending := none }

/-- Reads a long option. -/
def Scan.long (level : Level) (scan : Scan) (name : RawText) (value : Option RawText) :
    Except Refusal Scan :=
  match level.valueOption? name with
  | some option => do
    let given ← scan.settle
    match value with
    | none => return { scan with given, pending := some (.unvalued option) }
    | some value =>
      let given ← given.setOption option value
      return { scan with given, pending := none }
  | none =>
    match level.flag? name with
    | none => .error .unknownArgument
    | some flag =>
      if value.isSome then .error .valueForFlag
      else do
        let given ← scan.settle
        let given ← given.raise flag
        return { scan with given, pending := none }

/-- Reads a word on a level. -/
def Scan.word (level : Level) (scan : Scan) (word : RawText) : Except Refusal Scan :=
  if scan.escaped then scan.positional level word
  else
    match Word.of word with
    | .escape => .ok { scan with escaped := true }
    | .long name value => scan.long level name value
    | .letters letters => letters.foldlM (Scan.letter level) scan
    | .plain =>
      match scan.pending with
      | some (.unvalued option) => .ok { scan with pending := some (.valued option word) }
      | _ => scan.positional level word

/-- Reads the words of the outer level up to a subcommand. -/
def Scan.outer (scan : Scan) :
    List RawText → Except Refusal (Scan × Option (Subcommand × List RawText))
  | [] => .ok (scan, none)
  | word :: words =>
    if !scan.escaped && !scan.awaitsValue && (subcommand? word).isSome then
      .ok (scan, (subcommand? word).map (·, words))
    else do
      let scan ← scan.word .outer word
      scan.outer words

/-- Reads all words of a subcommand. -/
def Scan.inner (level : Level) (words : List RawText) : Except Refusal Scan :=
  words.foldlM (Scan.word level) .start

/-! ### Requests -/

/-- Ends a level: what is pending is settled, and a settings file named by the
environment must have a name, unless the level names one itself. -/
def Scan.finish (scan : Scan) (settingsVariable : Option Path) : Except Refusal Given := do
  let given ← scan.settle
  match given.settings, settingsVariable with
  | none, some path =>
    let _ ← parseFile path
    return given
  | _, _ => return given

/-- What is wrong when no subcommand comes. -/
def Given.withoutSubcommand (given : Given) (settingsVariable : Option Path) : Refusal :=
  if given = .none && settingsVariable.isNone then .nothingAsked else .missingSubcommand

/-- The answer to the words after `help`: the name of a subcommand, at most. -/
def helpOn : List RawText → Refusal
  | [] => .help
  | [word] => if (subcommand? word).isSome then .help else .invalidSubcommand
  | _ => .invalidSubcommand

/-- The command that the words of a subcommand have asked for. -/
def Given.command (level : Level) (given : Given) : Except Refusal Command :=
  let maxChars := given.maxChars.getD minPathChars
  match level, given.positionals with
  | .read, [keyPath, valueName] =>
    .ok (.read keyPath valueName (given.hive.getD .localMachine) maxChars)
  | .read, _ => .error .missingArgument
  | _, _ => .ok (.resolve maxChars given.explain)

/-- Reads a subcommand and puts it together with the outer level. -/
def Scan.request (scan : Scan) (settingsVariable : Option Path) (level : Level)
    (words : List RawText) : Except Refusal Arguments := do
  let inner ← Scan.inner level words
  let inner ← inner.finish settingsVariable
  let command ← inner.command level
  let outer ← scan.finish settingsVariable
  return {
    store := inner.store <|> outer.store
    settings := inner.settings <|> outer.settings <|> settingsVariable
    verbose := inner.verbose || outer.verbose
    command }

/-- The request that the words of a command line make. A settings file that the words do
not name may be named by a variable. -/
def Arguments.parse (settingsVariable : Option Path) (words : List RawText) :
    Except Refusal Arguments := do
  match ← Scan.start.outer words with
  | (scan, none) =>
    let given ← scan.finish settingsVariable
    .error (given.withoutSubcommand settingsVariable)
  | (_, some (.help, words)) => .error (helpOn words)
  | (scan, some (.resolve, words)) => scan.request settingsVariable .resolve words
  | (scan, some (.read, words)) => scan.request settingsVariable .read words

end RuntimeLocator.Cli
