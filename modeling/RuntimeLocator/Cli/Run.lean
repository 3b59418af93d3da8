/-
A run of the program: the request is read, the store and the settings it names are
loaded, the lookup is made, and its answer is written.

A run is a function of the words of the command line, the environment of the process,
the directory where the system keeps the user's configuration, the files and the sink that
takes the output.
-/

import RuntimeLocator.Cli.Arguments
import RuntimeLocator.Cli.DotEnv
import RuntimeLocator.Cli.Failure
import RuntimeLocator.Lookup.Store
import RuntimeLocator.Registry.Snapshot
import RuntimeLocator.Settings.Json

namespace RuntimeLocator.Cli

/-! ### Loading -/

/-- The settings file that is used when none is named, given the directory of the user's
configuration. -/
def defaultSettingsPath? (configDirectory : Option Path) : Option Path :=
  configDirectory.map fun directory => (directory.within "fxlocate").within "settings.json"

/-- The variable that names a settings file. -/
def settingsVariable : String := "FXLOCATE_SETTINGS"

/-- The registry that a request reads: that of its snapshot, or else the system's, which
is empty. -/
def loadRegistry (files : Files) : Option Path → Except ConfigFailure Registry
  | none => .ok .empty
  | some path =>
    match files.readText path with
    | .error failure => .error (.unreadableStore path failure)
    | .ok text =>
      match Registry.ofJson text with
      | .error fault => .error (.malformedStore path fault)
      | .ok registry => .ok registry

/-- Reads a settings file, whose settings must obey the rules. -/
def loadSettings (files : Files) (path : Path) : Except SettingsFailure Settings :=
  match files.readText path with
  | .error failure => .error (.unreadable failure)
  | .ok text =>
    match Settings.ofJson text with
    | .error fault => .error (.malformed fault)
    | .ok settings =>
      match settings.firstViolation? with
      | some violation => .error (.violates violation)
      | none => .ok settings

/-- The settings file of a run: the one that is named, or the default one if it is a
file. -/
def settingsPath? (files : Files) (configDirectory named : Option Path) : Option Path :=
  match named with
  | some path => some path
  | none => (defaultSettingsPath? configDirectory).filter files.isFile

/-- The settings of a run. -/
def settingsFor (files : Files) (configDirectory named : Option Path) :
    Except ConfigFailure Settings :=
  match settingsPath? files configDirectory named with
  | none => .ok .standard
  | some path =>
    match loadSettings files path with
    | .error failure => .error (.settings path failure)
    | .ok settings => .ok settings

/-! ### Answers -/

/-- The text that answers a command. -/
def answer (settings : Settings) (store : Store) (env : Environment) :
    Command → Except LookupFailure String
  | .resolve maxChars explain =>
    let run := (resolve settings maxChars).runOn store env .zero
    run.answer.map fun resolution => if explain then resolution.text else resolution.path
  | .read keyPath valueName hive maxChars =>
    let run := (readString hive keyPath valueName maxChars).runOn store env .zero
    run.answer

/-- The line that answers a request, or why there is none. The store is loaded before the
settings, and both are loaded before the lookup. -/
def fulfil (files : Files) (configDirectory : Option Path) (env : Environment)
    (arguments : Arguments) : Except Failure String :=
  match loadRegistry files arguments.store with
  | .error failure => .error (.config failure)
  | .ok registry =>
    match settingsFor files configDirectory arguments.settings with
    | .error failure => .error (.config failure)
    | .ok settings =>
      match answer settings (.ofRegistry registry) env arguments.command with
      | .error failure => .error (.lookup failure)
      | .ok text => .ok (text ++ "\n")

/-- Where output goes: so many bytes are taken, if there is a limit, and then writing
fails. -/
structure Sink where
  limit : Option Nat
  failure : String

/-- A sink that takes everything. -/
def Sink.unlimited : Sink := ⟨none, ""⟩

/-- The bytes that a sink takes, and why it did not take all of them. -/
def Sink.write (sink : Sink) (bytes : List UInt8) : List UInt8 × Option Failure :=
  match sink.limit with
  | none => (bytes, none)
  | some limit =>
    if bytes.length ≤ limit then (bytes, none)
    else (bytes.take limit, some (.output sink.failure))

/-- What came of a run that was asked for something. -/
structure Outcome where
  output : List UInt8
  verbose : Bool
  failure : Option Failure

/-- The code that a run ends with. -/
def Outcome.exitCode (outcome : Outcome) : Nat :=
  match outcome.failure with
  | none => 0
  | some failure => failure.exitCode

/-- The lines that tell the user what went wrong. -/
def Outcome.report (outcome : Outcome) : String :=
  (outcome.failure.map Failure.report).getD ""

/-- Runs the program in a process. A variable may name the settings file, which it does by
its bytes; the lookup reads variables as texts. -/
def run (words : List RawText) (process : ProcessBlock) (configDirectory : Option Path)
    (files : Files) (sink : Sink) : Except Refusal Outcome := do
  let arguments ← Arguments.parse (process.bytes? settingsVariable) words
  match fulfil files configDirectory process.environment arguments with
  | .error failure => return ⟨[], arguments.verbose, some failure⟩
  | .ok text =>
    let (written, failure) := sink.write (Utf8.bytes text)
    return ⟨written, arguments.verbose, failure⟩

/-! ### The program as it is started -/

/-- A directory and those above it, from the inside out, given by the components of its
path. -/
def upwards : List RawText → List Path
  | [] => [Utf8.bytes "/"]
  | component :: components =>
    (upwards components).map (fun path => Utf8.bytes "/" ++ component ++ path) ++
      [Utf8.bytes "/"]

/-- Where an environment file is looked for: in the working directory and then in those
above it. -/
def environmentFiles (workingDirectory : List RawText) : List Path :=
  (upwards workingDirectory).map (·.within ".env")

/-- The first of some paths that leads to a regular file. A path of which that cannot be
told ends the search, unless nothing is there. -/
def firstFile? (files : Files) : List Path → Option Path
  | [] => none
  | path :: paths =>
    match files.look path with
    | .ok true => some path
    | .ok false | .error .notFound => firstFile? files paths
    | .error _ => none

/-- The process after the nearest environment file was loaded; `none` if the file sets a
value that no variable can have. -/
def startProcess (workingDirectory : List RawText) (process : ProcessBlock) (files : Files) :
    Option ProcessBlock :=
  match firstFile? files (environmentFiles workingDirectory) with
  | none => some process
  | some path =>
    match files.read path with
    | .error _ => some process
    | .ok bytes => DotEnv.load process bytes

/-- The files that a run may look at. -/
def wantedFiles (words : List RawText) (process : ProcessBlock)
    (configDirectory : Option Path) : List Path :=
  match Arguments.parse (process.bytes? settingsVariable) words with
  | .error _ => []
  | .ok arguments =>
    arguments.store.toList ++
      (arguments.settings <|> defaultSettingsPath? configDirectory).toList

/-- How the program ends. -/
inductive Ending where
  /-- Its environment file stopped it before it read its words. -/
  | aborted
  /-- Its words were refused or asked about the program itself. -/
  | refused (refusal : Refusal)
  | completed (outcome : Outcome)

/-- The code that the program ends with. -/
def Ending.exitCode : Ending → Nat
  | .aborted => 101
  | .refused refusal => refusal.exitCode
  | .completed outcome => outcome.exitCode

/-- Starts the program: the environment file is loaded first. Where the user's configuration
is kept may depend on what that file sets. -/
def start (words : List RawText) (workingDirectory : List RawText) (process : ProcessBlock)
    (configDirectory : ProcessBlock → Option Path) (files : Files) (sink : Sink) : Ending :=
  match startProcess workingDirectory process files with
  | none => .aborted
  | some process =>
    match run words process (configDirectory process) files sink with
    | .error refusal => .refused refusal
    | .ok outcome => .completed outcome

end RuntimeLocator.Cli
