/-
Failures of a lookup: why no string was read or no path was composed.
-/

import RuntimeLocator.Registry.Failure
import RuntimeLocator.Registry.Value

namespace RuntimeLocator

/-- Why a lookup failed. Sizes are counted in characters of 16 bits. -/
inductive LookupFailure where
  /-- The capacity has no size in bytes that a store could be asked for. -/
  | invalidCapacity (maxChars : Nat)
  /-- The store failed to open the key or to read the value. -/
  | store (failure : StoreFailure)
  /-- The value is not a plain string. -/
  | unsupportedKind (keyPath valueName : String) (found : Kind)
  /-- The capacity is too small for any path. -/
  | bufferTooSmall (capacity minimum : Nat)
  /-- The path does not fit the buffer. -/
  | capacityExceeded (required capacity : Nat)
deriving DecidableEq

/-- Whether a failure is a want of memory. -/
def LookupFailure.isOutOfMemory : LookupFailure → Bool
  | .bufferTooSmall .. | .capacityExceeded .. => true
  | _ => false

/-- The status code of a failure; a want of memory has none. -/
def LookupFailure.status : LookupFailure → Option UInt32
  | .invalidCapacity _ => some 87
  | .store failure => some failure.code
  | .unsupportedKind .. => some 1630
  | .bufferTooSmall .. | .capacityExceeded .. => none

/-- The result that a failure is reported as. -/
def LookupFailure.result (failure : LookupFailure) : Int32 :=
  match failure.status with
  | some code => resultOfStatus code
  | none => outOfMemoryResult

def LookupFailure.message : LookupFailure → String
  | .invalidCapacity maxChars =>
    "buffer capacity of " ++ toString maxChars ++ " characters exceeds the supported maximum"
  | .store failure => failure.message
  | .unsupportedKind keyPath valueName found =>
    "value '" ++ valueName ++ "' under '" ++ keyPath ++ "' has unsupported type " ++ found.text
  | .bufferTooSmall capacity minimum =>
    "path buffer of " ++ toString capacity ++ " characters is below the minimum of " ++
      toString minimum
  | .capacityExceeded required capacity =>
    "path needs " ++ toString required ++ " characters but the buffer holds " ++
      toString capacity

end RuntimeLocator
