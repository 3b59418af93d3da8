/-
Values in the registry, their kinds and the space they take.
-/

import RuntimeLocator.Text.Utf16

namespace RuntimeLocator

/-- The kind of a stored value. Kinds that have no constructor keep their code. -/
inductive Kind where
  | string
  | expandString
  | binary
  | dword
  | multiString
  | qword
  | other (code : UInt32)
deriving DecidableEq

/-- The kind with a given code. -/
def Kind.ofCode (code : UInt32) : Kind :=
  if code = 1 then .string
  else if code = 2 then .expandString
  else if code = 3 then .binary
  else if code = 4 then .dword
  else if code = 7 then .multiString
  else if code = 11 then .qword
  else .other code

def Kind.code : Kind → UInt32
  | .string => 1
  | .expandString => 2
  | .binary => 3
  | .dword => 4
  | .multiString => 7
  | .qword => 11
  | .other code => code

/-- The name of a kind in messages. -/
def Kind.text : Kind → String
  | .string => "REG_SZ"
  | .expandString => "REG_EXPAND_SZ"
  | .binary => "REG_BINARY"
  | .dword => "REG_DWORD"
  | .multiString => "REG_MULTI_SZ"
  | .qword => "REG_QWORD"
  | .other code => "type " ++ toString code.toNat

/-- A stored value. Data of a kind that is not modelled, or of the wrong length for its
kind, is kept raw with the code it came with. -/
inductive Value where
  | string (text : String)
  | expandString (text : String)
  | multiString (items : List String)
  | dword (n : UInt32)
  | qword (n : UInt64)
  | binary (data : List UInt8)
  | raw (code : UInt32) (data : List UInt8)
deriving DecidableEq

/-- The kind of a value. Raw data is of no modelled kind, whatever its code. -/
def Value.kind : Value → Kind
  | .string _ => .string
  | .expandString _ => .expandString
  | .multiString _ => .multiString
  | .dword _ => .dword
  | .qword _ => .qword
  | .binary _ => .binary
  | .raw code _ => .other code

/-- The bytes that a text takes with its terminator. -/
def textSize (text : String) : Nat :=
  (Utf16.units text + 1) * 2

/-- The bytes that a value takes in the registry. A list of strings ends with a
terminator of its own. -/
def Value.storedSize : Value → Nat
  | .string text | .expandString text => textSize text
  | .multiString items => items.foldr (textSize · + ·) 2
  | .dword _ => 4
  | .qword _ => 8
  | .binary data | .raw _ data => data.length

end RuntimeLocator
