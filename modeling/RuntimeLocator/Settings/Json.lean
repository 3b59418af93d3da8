/-
Settings as JSON: a record in which every field may be left out.
-/

import RuntimeLocator.Registry.Value.Json
import RuntimeLocator.Settings

namespace RuntimeLocator.Settings

open Json

/-- The field of an item. -/
def itemField (item : Item) : Reader.Field Settings where
  name := item.name
  read settings := do
    let text ← Reader.string
    return settings.set item text

def hiveField : Reader.Field Settings where
  name := "hive"
  read settings := do
    let hive ← Hive.reader
    return { settings with hive }

/-- The fields in the order in which they are written. -/
def fields : List (Reader.Field Settings) := [
  itemField .versionVariable,
  itemField .rootVariable,
  hiveField,
  itemField .installRootKey,
  itemField .installRootValue,
  itemField .installPathKey,
  itemField .installPathValue,
  itemField .productDirectory]

/-- Reads settings; a field that is not written keeps its standard value. -/
def reader : Reader Settings :=
  Reader.record "struct ResolverSettings" (fun _ => none) fields .standard

def itemMember (settings : Settings) (item : Item) : String × List Char :=
  (item.name, Print.string (settings.get item))

def print (settings : Settings) : List Char :=
  Print.object [
    settings.itemMember .versionVariable,
    settings.itemMember .rootVariable,
    ("hive", settings.hive.print),
    settings.itemMember .installRootKey,
    settings.itemMember .installRootValue,
    settings.itemMember .installPathKey,
    settings.itemMember .installPathValue,
    settings.itemMember .productDirectory]

/-- The settings that a text describes. -/
def ofJson (text : String) : Except Fault Settings :=
  Reader.decode reader text

def toJson (settings : Settings) : String :=
  String.ofList settings.print

end RuntimeLocator.Settings
