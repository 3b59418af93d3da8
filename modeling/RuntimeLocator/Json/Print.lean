/-
Compact JSON text: no white space, members in the order given, and escapes only where
JSON demands them.
-/

namespace RuntimeLocator.Json.Print

/-- A digit of a hexadecimal number, in lower case. -/
def hexDigit (n : Nat) : Char :=
  Nat.digitChar n

/-- A character as it stands in a string: quotes, backslashes and controls are
escaped, the five controls that have a letter of their own by that letter. -/
def stringChar (c : Char) : List Char :=
  match c with
  | '"' => ['\\', '"']
  | '\\' => ['\\', '\\']
  | '\x08' => ['\\', 'b']
  | '\x0c' => ['\\', 'f']
  | '\n' => ['\\', 'n']
  | '\r' => ['\\', 'r']
  | '\t' => ['\\', 't']
  | c =>
    if c.toNat < 0x20 then
      ['\\', 'u', '0', '0', hexDigit (c.toNat / 16), hexDigit (c.toNat % 16)]
    else [c]

def string (s : String) : List Char :=
  '"' :: s.toList.flatMap stringChar ++ ['"']

def natural (n : Nat) : List Char :=
  Nat.toDigits 10 n

def boolean (b : Bool) : List Char :=
  if b then ['t', 'r', 'u', 'e'] else ['f', 'a', 'l', 's', 'e']

/-- Texts with a comma between each two. -/
def separated : List (List Char) → List Char
  | [] => []
  | [text] => text
  | text :: texts => text ++ ',' :: separated texts

def sequence (elements : List (List Char)) : List Char :=
  '[' :: separated elements ++ [']']

def member (name : String) (value : List Char) : List Char :=
  string name ++ ':' :: value

def object (members : List (String × List Char)) : List Char :=
  '\x7b' :: separated (members.map fun m => member m.1 m.2) ++ ['\x7d']

end RuntimeLocator.Json.Print
