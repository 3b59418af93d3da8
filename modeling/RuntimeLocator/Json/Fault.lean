/-
What can be wrong with a JSON document: it ends too early, it is not JSON, or it is
JSON of another shape than the one asked for. Each cause is a constructor, and the
wording stands in one function for each type.
-/

import RuntimeLocator.Decimal.Shortest
import RuntimeLocator.Text.Quoted

namespace RuntimeLocator.Json

/-- What a document that ends too early ends in. -/
inductive Unfinished where
  | list
  | object
  | string
  | value
deriving DecidableEq

/-- The ways in which a text is not JSON. -/
inductive Flaw where
  | colonExpected
  | listCommaOrEndExpected
  | objectCommaOrEndExpected
  | identExpected
  | valueExpected
  | invalidEscape
  | invalidNumber
  | numberOutOfRange
  | controlCharacter
  | keyNotString
  | loneSurrogate
  | trailingComma
  | trailingCharacters
  | hexEscapeUnfinished
deriving DecidableEq

/-- What a document holds in a place, as far as it was read to tell. -/
inductive Found where
  | null
  | boolean (b : Bool)
  | integer (n : Int)
  | float (x : Float)
  | string (s : String)
  | sequence
  | map
  | unitVariant

/-- The ways in which a well-formed document has the wrong shape. -/
inductive Mismatch where
  | wrongType (found : Found) (expected : String)
  | wrongValue (found : Found) (expected : String)
  | wrongLength (length : Nat) (expected : String)
  | unknownVariant (name : String) (known : List String)
  | missingField (name : String)
  | duplicateField (name : String)

/-- The first thing that is wrong with a document, in reading order. -/
inductive Fault where
  | ended (inside : Unfinished)
  | malformed (flaw : Flaw)
  | wrongShape (mismatch : Mismatch)

/-! ### Wording -/

/-- Floating-point numbers in messages: positional from `0.00001` to sixteen digits
before the point, and from `1e+16` on with an exponent. -/
def floatLayout : Decimal.Layout := ⟨-4, 16⟩

def Unfinished.message : Unfinished → String
  | .list => "EOF while parsing a list"
  | .object => "EOF while parsing an object"
  | .string => "EOF while parsing a string"
  | .value => "EOF while parsing a value"

def Flaw.message : Flaw → String
  | .colonExpected => "expected `:`"
  | .listCommaOrEndExpected => "expected `,` or `]`"
  | .objectCommaOrEndExpected => "expected `,` or `\x7d`"
  | .identExpected => "expected ident"
  | .valueExpected => "expected value"
  | .invalidEscape => "invalid escape"
  | .invalidNumber => "invalid number"
  | .numberOutOfRange => "number out of range"
  | .controlCharacter => "control character (\\u0000-\\u001F) found while parsing a string"
  | .keyNotString => "key must be a string"
  | .loneSurrogate => "lone leading surrogate in hex escape"
  | .trailingComma => "trailing comma"
  | .trailingCharacters => "trailing characters"
  | .hexEscapeUnfinished => "unexpected end of hex escape"

def Found.message : Found → String
  | .null => "null"
  | .boolean b => "boolean `" ++ (if b then "true" else "false") ++ "`"
  | .integer n => "integer `" ++ toString n ++ "`"
  | .float x => "floating point `" ++ floatLayout.render x ++ "`"
  | .string s => "string " ++ Quoted.quote s
  | .sequence => "sequence"
  | .map => "map"
  | .unitVariant => "unit variant"

/-- Two names are joined by `or`; more are introduced by `one of`. -/
def knownNames : List String → String
  | [a, b] => "`" ++ a ++ "` or `" ++ b ++ "`"
  | names => "one of " ++ ", ".intercalate (names.map fun name => "`" ++ name ++ "`")

def Mismatch.message : Mismatch → String
  | .wrongType found expected => "invalid type: " ++ found.message ++ ", expected " ++ expected
  | .wrongValue found expected => "invalid value: " ++ found.message ++ ", expected " ++ expected
  | .wrongLength length expected =>
    "invalid length " ++ toString length ++ ", expected " ++ expected
  | .unknownVariant name known =>
    "unknown variant `" ++ name ++ "`, expected " ++ knownNames known
  | .missingField name => "missing field `" ++ name ++ "`"
  | .duplicateField name => "duplicate field `" ++ name ++ "`"

def Fault.message : Fault → String
  | .ended inside => inside.message
  | .malformed flaw => flaw.message
  | .wrongShape mismatch => mismatch.message

end RuntimeLocator.Json
