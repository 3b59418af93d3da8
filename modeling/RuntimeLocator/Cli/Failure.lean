/-
Failures of a run: what the user is told, and the exit code that goes with it.
-/

import RuntimeLocator.Cli.Files
import RuntimeLocator.Json.Fault
import RuntimeLocator.Lookup.Failure
import RuntimeLocator.Settings

namespace RuntimeLocator.Cli

/-- Why a settings file could not be used. -/
inductive SettingsFailure where
  | unreadable (failure : FileFailure)
  | malformed (fault : Json.Fault)
  | violates (violation : Settings.Violation)

def SettingsFailure.message : SettingsFailure → String
  | .unreadable failure => failure.message
  | .malformed fault => fault.message
  | .violates violation => violation.message

/-- Why the configuration of a run could not be loaded. -/
inductive ConfigFailure where
  | unreadableStore (path : Path) (failure : FileFailure)
  | malformedStore (path : Path) (fault : Json.Fault)
  | settings (path : Path) (failure : SettingsFailure)

/-- What every failure to load the configuration is announced by. -/
def configurationError (text : String) : String :=
  "Configuration error: " ++ text

def ConfigFailure.message : ConfigFailure → String
  | .unreadableStore path failure =>
    configurationError ("Failed to read store file " ++ path.display ++ ": " ++ failure.message)
  | .malformedStore path fault =>
    configurationError ("Invalid store file " ++ path.display ++ ": " ++ fault.message)
  | .settings path failure =>
    "Failed to load settings from " ++ path.display ++ ": " ++ configurationError failure.message

/-- Why a run failed. -/
inductive Failure where
  | lookup (failure : LookupFailure)
  | config (failure : ConfigFailure)
  /-- The output could not be written. -/
  | output (description : String)

def Failure.message : Failure → String
  | .lookup failure => failure.message
  | .config failure => failure.message
  | .output description => "IO error: " ++ description

def Failure.exitCode : Failure → Nat
  | .lookup _ => 1
  | .output _ => 74
  | .config _ => 78

/-- The result that a failed lookup is reported as. -/
def Failure.result : Failure → Option Int32
  | .lookup failure => some failure.result
  | _ => none

/-- The 32 bits of a result in eight hexadecimal digits. -/
def resultText (result : Int32) : String :=
  let digits := Nat.toDigits 16 result.toUInt32.toNat
  "0x" ++ String.ofList (List.replicate (8 - digits.length) '0' ++ digits)

/-- The lines that tell the user of a failure. -/
def Failure.report (failure : Failure) : String :=
  "error: " ++ failure.message ++ "\n" ++
    (match failure.result with
    | some result => "hresult: " ++ resultText result ++ "\n"
    | none => "")

end RuntimeLocator.Cli
