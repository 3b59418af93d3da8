/-
The registry held in memory: hives, the keys under them and the values of each key.

Keys and values keep the spelling they were given, while paths and names are compared
by their folding: lower case, and for paths without backslashes at either end. Where
several spellings fold alike, the first in order is the one that is found.
-/

import RuntimeLocator.Registry.Failure
import RuntimeLocator.Registry.Hive
import RuntimeLocator.Registry.NameMap
import RuntimeLocator.Registry.Value
import RuntimeLocator.Text.LowerCase

namespace RuntimeLocator

/-- A path without the backslashes at its ends. -/
def trimPath (path : String) : String :=
  let inner := path.toList.dropWhile (· == '\\')
  String.ofList (inner.reverse.dropWhile (· == '\\')).reverse

/-- The form in which key paths are compared. -/
def foldPath (path : String) : String :=
  LowerCase.lower (trimPath path)

/-- The form in which value names are compared. -/
def foldName (name : String) : String :=
  LowerCase.lower name

/-- Whether two value names are the same but for case. -/
def sameName (a b : String) : Bool :=
  foldName a == foldName b

/-- A key: its values, and whether it refuses to be read. -/
structure Key where
  values : NameMap Value
  accessDenied : Bool
deriving DecidableEq

def Key.empty : Key := ⟨.empty, false⟩

/-- Gives a value to a name. The first name that is the same but for case gives way to
the new spelling. -/
def Key.setValue (key : Key) (name : String) (value : Value) : Key :=
  let kept :=
    match key.values.firstName? (sameName · name) with
    | some old => key.values.erase old
    | none => key.values
  { key with values := kept.insert name value }

/-- Reads a value into at most `maxBytes` bytes. A size beyond 32 bits is reported as the
largest that 32 bits hold. -/
def queryValue (values : NameMap Value) (name : String) (maxBytes : UInt32) :
    Except StoreFailure Value :=
  match values.firstValue? (sameName · name) with
  | none => .error .notFound
  | some value =>
    if maxBytes.toNat < value.storedSize then
      .error (.moreData (UInt32.ofNat (min value.storedSize (UInt32.size - 1))) maxBytes)
    else .ok value

/-- The keys of each hive; a hive that was never mentioned is absent. -/
structure Registry where
  machine : Option (NameMap Key)
  user : Option (NameMap Key)
deriving DecidableEq

namespace Registry

def empty : Registry := ⟨none, none⟩

/-- The keys of a hive, if it is there. -/
def keys? (registry : Registry) : Hive → Option (NameMap Key)
  | .localMachine => registry.machine
  | .currentUser => registry.user

/-- The registry with these keys in a hive. -/
def setKeys (registry : Registry) (hive : Hive) (keys : NameMap Key) : Registry :=
  match hive with
  | .localMachine => { registry with machine := some keys }
  | .currentUser => { registry with user := some keys }

/-- The first key of a hive whose path folds like `path`. -/
def find? (registry : Registry) (hive : Hive) (path : String) : Option Key :=
  match registry.keys? hive with
  | none => none
  | some keys => keys.firstValue? (foldPath · == foldPath path)

/-- Changes the key at a path, which is made first if there is none. -/
def modifyKey (registry : Registry) (hive : Hive) (path : String) (change : Key → Key) :
    Registry :=
  let keys := (registry.keys? hive).getD .empty
  let name := (keys.firstName? (foldPath · == foldPath path)).getD (trimPath path)
  registry.setKeys hive (keys.insert name (change ((keys.get? name).getD .empty)))

/-- Makes a key, if it is not there. -/
def addKey (registry : Registry) (hive : Hive) (path : String) : Registry :=
  registry.modifyKey hive path id

/-- Gives a value to a name under a key. -/
def setValue (registry : Registry) (hive : Hive) (path name : String) (value : Value) :
    Registry :=
  registry.modifyKey hive path (·.setValue name value)

/-- Gives a plain string to a name under a key. -/
def setString (registry : Registry) (hive : Hive) (path name text : String) : Registry :=
  registry.setValue hive path name (.string text)

/-- Makes a key refuse to be read. -/
def denyAccess (registry : Registry) (hive : Hive) (path : String) : Registry :=
  registry.modifyKey hive path fun key => { key with accessDenied := true }

/-- Opens a key for reading: the values that it has now. -/
def openKey (registry : Registry) (hive : Hive) (path : String) :
    Except StoreFailure (NameMap Value) :=
  match registry.find? hive path with
  | none => .error .notFound
  | some key => if key.accessDenied then .error .accessDenied else .ok key.values

end Registry

end RuntimeLocator
