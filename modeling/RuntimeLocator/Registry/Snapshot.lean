/-
Snapshots: a registry as JSON text. Paths and names are taken exactly as they are
written, so a snapshot may hold several spellings that fold alike.
-/

import RuntimeLocator.Registry.Basic
import RuntimeLocator.Registry.Value.Json

namespace RuntimeLocator

open Json

namespace NameMap

/-- Reads an object as a map. A name that comes twice keeps its last value. -/
def reader {α : Type} (value : Reader α) : Reader (NameMap α) :=
  Reader.object
    (fun entries name => do
      let a ← Reader.member value
      return entries.insert name a)
    .empty

def print {α : Type} (value : α → List Char) (m : NameMap α) : List Char :=
  Print.object (m.entries.map fun e => (e.1, value e.2))

end NameMap

namespace Key

def fields : List (Reader.Field Key) := [
  { name := "values"
    read := fun key => do
      let values ← NameMap.reader Value.reader
      return { key with values } },
  { name := "access_denied"
    read := fun key => do
      let accessDenied ← Reader.boolean
      return { key with accessDenied } }]

/-- Reads a key; a field that is not written has the value of an empty key. -/
def reader : Reader Key :=
  Reader.record "struct MemoryKeyEntry" (fun _ => none) fields .empty

def print (key : Key) : List Char :=
  Print.object [
    ("values", key.values.print Value.print),
    ("access_denied", Print.boolean key.accessDenied)]

end Key

namespace Registry

/-- Reads the hives of a registry. A hive that comes twice keeps its last keys. -/
def reader : Reader Registry :=
  Reader.object
    (fun registry name => do
      let hive ← Hive.named name
      let keys ← Reader.member (NameMap.reader Key.reader)
      return registry.setKeys hive keys)
    .empty

/-- The member that a hive is written as, if it is there. -/
def hiveMember (registry : Registry) (hive : Hive) : Option (String × List Char) :=
  (registry.keys? hive).map fun keys => (hive.name, keys.print Key.print)

def print (registry : Registry) : List Char :=
  Print.object ([Hive.localMachine, Hive.currentUser].filterMap registry.hiveMember)

/-- The registry that a snapshot describes. -/
def ofJson (text : String) : Except Fault Registry :=
  Reader.decode reader text

/-- The snapshot of a registry. -/
def toJson (registry : Registry) : String :=
  String.ofList registry.print

end Registry

end RuntimeLocator
