/-
Values as the bytes that the registry holds for them: `Value.ofNative` decodes bytes of
any shape under a kind, and `Value.native` is the proper encoding of a value.
-/

import RuntimeLocator.Registry.Value

namespace RuntimeLocator

/-- The whole 16-bit units of some bytes, low byte first. A last odd byte is left out. -/
def littleEndianUnits : List UInt8 → List UInt16
  | low :: high :: rest => UInt16.ofNat (low.toNat + 256 * high.toNat) :: littleEndianUnits rest
  | _ => []

/-- The first `count` bytes of a number, low byte first. -/
def littleEndianBytes : Nat → Nat → List UInt8
  | 0, _ => []
  | count + 1, n => UInt8.ofNat n :: littleEndianBytes count (n / 256)

/-- The number that some bytes stand for, low byte first. -/
def littleEndianNumber (data : List UInt8) : Nat :=
  data.foldr (fun b n => b.toNat + 256 * n) 0

/-- The runs of units between terminators, the empty ones included. -/
def splitAtTerminators : List UInt16 → List (List UInt16)
  | [] => [[]]
  | u :: us =>
    match splitAtTerminators us with
    | [] => [[]]
    | run :: runs => if u = 0 then [] :: run :: runs else (u :: run) :: runs

/-- The text up to the first terminator, which may be missing. -/
def Value.nativeText (data : List UInt8) : String :=
  Utf16.decode ((littleEndianUnits data).takeWhile (· ≠ 0))

/-- Decodes the bytes of a value of a given kind. What stands after the terminator of a
string is left out, and so are empty items of a list. A number of the wrong length is
kept raw, so that nothing is reinterpreted. -/
def Value.ofNative (kind : Kind) (data : List UInt8) : Value :=
  match kind with
  | .string => .string (Value.nativeText data)
  | .expandString => .expandString (Value.nativeText data)
  | .multiString =>
    let runs := splitAtTerminators (littleEndianUnits data)
    .multiString ((runs.filter (!·.isEmpty)).map Utf16.decode)
  | .dword =>
    if data.length = 4 then .dword (UInt32.ofNat (littleEndianNumber data))
    else .raw kind.code data
  | .qword =>
    if data.length = 8 then .qword (UInt64.ofNat (littleEndianNumber data))
    else .raw kind.code data
  | .binary => .binary data
  | .other code => .raw code data

/-- The bytes of some units, low byte first. -/
def unitBytes (units : List UInt16) : List UInt8 :=
  units.flatMap fun u => littleEndianBytes 2 u.toNat

/-- The bytes of a text with its terminator. -/
def textBytes (text : String) : List UInt8 :=
  unitBytes (Utf16.encode text ++ [0])

/-- The bytes that the registry holds for a value. -/
def Value.native : Value → List UInt8
  | .string text | .expandString text => textBytes text
  | .multiString items => items.flatMap textBytes ++ unitBytes [0]
  | .dword n => littleEndianBytes 4 n.toNat
  | .qword n => littleEndianBytes 8 n.toNat
  | .binary data | .raw _ data => data

end RuntimeLocator
