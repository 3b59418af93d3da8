/-
Environments: named variables and how they are looked up.
-/

import RuntimeLocator.Text.Utf8

namespace RuntimeLocator

/-- An environment answers for each name with its value, if the variable is set. -/
structure Environment where
  lookup : String → Option String

namespace Environment

/-- The value of a variable; an empty one counts as not set. -/
def nonEmpty (env : Environment) (name : String) : Option String :=
  (env.lookup name).filter (· ≠ "")

/-- The environment with these variables; of two values for one name the later holds. -/
def ofPairs (pairs : List (String × String)) : Environment where
  lookup name := (pairs.reverse.find? (·.1 == name)).map (·.2)

end Environment

/-- The environment block of a process: variables with the bytes of their values, no
name twice. -/
abbrev ProcessBlock := List (String × List UInt8)

namespace ProcessBlock

/-- The block in which a variable has this value. -/
def set (block : ProcessBlock) (name : String) (value : List UInt8) : ProcessBlock :=
  block.filter (·.1 != name) ++ [(name, value)]

/-- The block that these settings make, applied in order. -/
def ofSettings (settings : List (String × List UInt8)) : ProcessBlock :=
  settings.foldl (fun block v => block.set v.1 v.2) []

/-- The variables of a list of texts `name=value`, each of which a NUL ends. An entry
without a name, and one whose name is no text, is left out. -/
def ofEntries (data : List UInt8) : ProcessBlock :=
  (Utf8.splitAt 0 data).filterMap fun entry =>
    match Utf8.strict? (entry.takeWhile (· ≠ 0x3D)), entry.dropWhile (· ≠ 0x3D) with
    | some name, _ :: value => if name.isEmpty then none else some (name, value)
    | _, _ => none

/-- The text of a variable as the block holds it. -/
def entryBytes (v : String × List UInt8) : List UInt8 :=
  Utf8.bytes v.1 ++ Utf8.bytes "=" ++ v.2

/-- What follows `start` at the front of some bytes. -/
def after? (start bytes : List UInt8) : Option (List UInt8) :=
  if start.isPrefixOf bytes then some (bytes.drop start.length) else none

/-- The bytes of a variable. It is looked up by the text `name=` at the front of an entry,
so a name that holds an equals sign itself can still be found. An empty name, and one
with a NUL, is found nowhere. -/
def bytes? (block : ProcessBlock) (name : String) : Option (List UInt8) :=
  if name.isEmpty || name.toList.contains '\x00' then none
  else block.findSome? fun v => after? (Utf8.bytes name ++ Utf8.bytes "=") (entryBytes v)

/-- The environment of a process. A value that is no text has its damaged parts
replaced. -/
def environment (block : ProcessBlock) : Environment where
  lookup name := (block.bytes? name).map Utf8.lenient

end ProcessBlock

end RuntimeLocator
