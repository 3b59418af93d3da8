/-
Reading one plain string from a store: the key is opened, the value is asked for once,
and the key is released, whatever the answer was.
-/

import RuntimeLocator.Lookup.Failure
import RuntimeLocator.Lookup.Script

namespace RuntimeLocator

/-- The largest capacity, in characters, whose size in bytes a store can be asked for. -/
def maxReadChars : Nat := 0x7FFFFFFF

/-- The string that a value is. No other kind of value is one, not even a string that
holds variables to expand. -/
def Value.plainString (keyPath valueName : String) : Value → Except LookupFailure String
  | .string text => .ok text
  | value => .error (.unsupportedKind keyPath valueName value.kind)

/-- Reads a string of at most `maxChars` characters of two bytes each. -/
def readString (hive : Hive) (keyPath valueName : String) (maxChars : Nat) :
    Script (Except LookupFailure String) :=
  if maxReadChars < maxChars then
    .done (.error (.invalidCapacity maxChars))
  else
    .call (.openKey hive keyPath) fun
      | .error failure => .done (.error (.store failure))
      | .ok () =>
        .call (.query valueName (UInt32.ofNat (2 * maxChars))) fun answer =>
          .call .close fun _ =>
            .done <|
              match answer with
              | .error failure => .error (.store failure)
              | .ok value => value.plainString keyPath valueName

end RuntimeLocator
