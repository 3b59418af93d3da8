/-
Quoted text, as messages show it: between double quotes, with a backslash before a
quote or a backslash, and with every character that cannot be seen on its own
written by its code point.
-/

import RuntimeLocator.Text.Quoted.Table
import RuntimeLocator.Text.Ranges

namespace RuntimeLocator.Quoted

/-- Whether a character is shown as itself. -/
def isShown (c : Char) : Bool :=
  !inRanges combining c.toNat && !inRanges invisible c.toNat

/-- A character by its code point, in lower-case hexadecimal digits. -/
def byCode (c : Char) : List Char :=
  '\\' :: 'u' :: '\x7b' :: Nat.toDigits 16 c.toNat ++ ['\x7d']

/-- A character as it stands between the quotes. -/
def quoteChar (c : Char) : List Char :=
  if c = '\x00' then ['\\', '0']
  else if c = '\t' then ['\\', 't']
  else if c = '\n' then ['\\', 'n']
  else if c = '\r' then ['\\', 'r']
  else if c = '"' then ['\\', '"']
  else if c = '\\' then ['\\', '\\']
  else if isShown c then [c]
  else byCode c

/-- A text between quotes. -/
def quote (s : String) : String :=
  String.ofList ('"' :: s.toList.flatMap quoteChar ++ ['"'])

end RuntimeLocator.Quoted
