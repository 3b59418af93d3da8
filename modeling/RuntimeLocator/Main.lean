/-
The program. It gathers the environment and the files that a run may look at, starts the
run, and hands on what the run wrote.
-/

import RuntimeLocator.Cli.Run

namespace RuntimeLocator.Cli

/-- The number of a system error, whichever sign it was reported with. -/
def errorNumber (code : UInt32) : Nat :=
  if code < 0x80000000 then code.toNat else (0 - code).toNat

/-- What a system error means for the reading of a file. -/
def FileFailure.ofNumber (number : Nat) (details : String) : FileFailure :=
  if number = 2 then .notFound
  else if number = 20 then .notDirectory
  else if number = 21 then .isDirectory
  else if number = 36 then .nameTooLong
  else .other (details.capitalize ++ " (os error " ++ toString number ++ ")")

/-- Why a file could not be read. -/
def FileFailure.ofError : IO.Error → FileFailure
  | .noFileOrDirectory _ code details
  | .inappropriateType _ code details
  | .invalidArgument _ code details
  | .permissionDenied _ code details
  | .resourceExhausted _ code details => .ofNumber (errorNumber code) details
  | error => .other (toString error)

/-- Whether a path leads to a regular file. -/
def leadsToFile (path : String) : IO (Except FileFailure Bool) := do
  let look : IO IO.FS.Metadata := do (← IO.FS.realPath path).metadata
  match ← look.toBaseIO with
  | .ok metadata => return .ok (metadata.type == .file)
  | .error error => return .error (.ofError error)

/-- Copies of what paths lead to, with the reason where none could be made. Only a path that
is a text can be followed here. -/
def copies (paths : List Path) : IO (List Copy) :=
  paths.mapM fun path => do
    match Utf8.strict? path with
    | none =>
      let failure := FileFailure.other "The path is no text"
      return ⟨path, .error failure, .error failure⟩
    | some text =>
      let look ← leadsToFile text
      match ← (IO.FS.readBinFile text).toBaseIO with
      | .ok data => return ⟨path, look, .ok data.toList⟩
      | .error error => return ⟨path, look, .error (.ofError error)⟩

/-- The directory of the user's configuration, where a variable names it or the home
directory. The system's list of users is not searched. -/
def configDirectory (process : ProcessBlock) : Option Path :=
  match process.bytes? "XDG_CONFIG_HOME", process.bytes? "HOME" with
  | some (0x2F :: path), _ => some (0x2F :: path)
  | _, some (b :: home) => some (Path.within (b :: home) ".config")
  | _, _ => none

/-- The variables that a run with the standard settings looks at. -/
def usualVariables : List String :=
  [settingsVariable, "XDG_CONFIG_HOME", "HOME", Settings.standard.versionVariable,
    Settings.standard.rootVariable]

/-- The environment of this process. Where the system does not show all of it, the
variables that are usually looked at stand for it. -/
def processBlock : IO ProcessBlock := do
  match ← (IO.FS.readBinFile "/proc/self/environ").toBaseIO with
  | .ok data => return .ofEntries data.toList
  | .error _ =>
    usualVariables.filterMapM fun name => do
      return (← IO.getEnv name).map fun value => (name, Utf8.bytes value)

/-- The components of the path of the working directory. -/
def workingDirectory : IO (List RawText) := do
  let path := (← IO.currentDir).toString
  return (Tree.components (Utf8.bytes path)).filter (· ≠ [])

/-- Writes output; the answer is why that failed, if it did. -/
def writeOutput (bytes : List UInt8) : IO (Option Failure) := do
  let output ← IO.getStdout
  let write : IO Unit := do
    output.write ⟨bytes.toArray⟩
    output.flush
  match ← write.toBaseIO with
  | .ok () => return none
  | .error error => return some (.output (toString error))

end RuntimeLocator.Cli

open RuntimeLocator RuntimeLocator.Cli in
/-- Runs the program and ends with its exit code. -/
def main (words : List String) : IO UInt32 := do
  let words := words.map Utf8.bytes
  let process ← processBlock
  let place ← workingDirectory
  let nearby ← copies (environmentFiles place)
  let started := (startProcess place process (.ofCopies nearby)).getD process
  let named ← copies (wantedFiles words started (configDirectory started))
  let ending :=
    start words place process configDirectory (.ofCopies (nearby ++ named)) .unlimited
  let .completed outcome := ending | return ending.exitCode.toUInt32
  match ← writeOutput outcome.output with
  | some failure =>
    IO.eprint failure.report
    return failure.exitCode.toUInt32
  | none =>
    IO.eprint outcome.report
    return ending.exitCode.toUInt32
