/-
The names and locations that are consulted to find the runtime, and the rules that a
set of them must obey.
-/

import RuntimeLocator.Registry.Hive
import RuntimeLocator.Path.Buffer
import RuntimeLocator.Text.Blank

namespace RuntimeLocator

/-- The names and locations consulted during resolution. -/
structure Settings where
  /-- The variable that pins a version. -/
  versionVariable : String
  /-- The variable that takes the place of the registered install root. -/
  rootVariable : String
  /-- The hive of both registered locations. -/
  hive : Hive
  installRootKey : String
  installRootValue : String
  installPathKey : String
  installPathValue : String
  /-- The directory that ends every resolved path. -/
  productDirectory : String
deriving DecidableEq

namespace Settings

/-- The settings of the private-runtime convention. -/
def standard : Settings where
  versionVariable := "COMPLUS_Version"
  rootVariable := "COMPLUS_InstallRoot"
  hive := .localMachine
  installRootKey := "Software\\Microsoft\\.NETFramework"
  installRootValue := "InstallRoot"
  installPathKey := "Software\\Microsoft\\Net Framework Setup\\NDP\\v4\\Client"
  installPathValue := "InstallPath"
  productDirectory := "WPF"

/-- The settings that are texts, in their order. -/
inductive Item where
  | versionVariable
  | rootVariable
  | installRootKey
  | installRootValue
  | installPathKey
  | installPathValue
  | productDirectory
deriving DecidableEq

/-- The name of an item in settings files and messages. -/
def Item.name : Item → String
  | .versionVariable => "version_override_var"
  | .rootVariable => "root_override_var"
  | .installRootKey => "install_root_key"
  | .installRootValue => "install_root_value"
  | .installPathKey => "install_path_key"
  | .installPathValue => "install_path_value"
  | .productDirectory => "product_subdir"

/-- Every item, in order. -/
def Item.all : List Item := [
  .versionVariable, .rootVariable, .installRootKey, .installRootValue,
  .installPathKey, .installPathValue, .productDirectory]

def get (settings : Settings) : Item → String
  | .versionVariable => settings.versionVariable
  | .rootVariable => settings.rootVariable
  | .installRootKey => settings.installRootKey
  | .installRootValue => settings.installRootValue
  | .installPathKey => settings.installPathKey
  | .installPathValue => settings.installPathValue
  | .productDirectory => settings.productDirectory

def set (settings : Settings) (item : Item) (text : String) : Settings :=
  match item with
  | .versionVariable => { settings with versionVariable := text }
  | .rootVariable => { settings with rootVariable := text }
  | .installRootKey => { settings with installRootKey := text }
  | .installRootValue => { settings with installRootValue := text }
  | .installPathKey => { settings with installPathKey := text }
  | .installPathValue => { settings with installPathValue := text }
  | .productDirectory => { settings with productDirectory := text }

/-! ### Rules -/

/-- How settings break the rules. -/
inductive Violation where
  /-- The item is empty but for white space. -/
  | blank (item : Item)
  /-- The key path begins with a separator. -/
  | leadingSeparator (item : Item) (text : String)
  /-- The product directory is more than one component. -/
  | severalComponents (text : String)
deriving DecidableEq

def Violation.message : Violation → String
  | .blank item => "Setting '" ++ item.name ++ "' cannot be empty"
  | .leadingSeparator item text =>
    "Setting '" ++ item.name ++ "' must not start with a separator: " ++ text
  | .severalComponents text =>
    "Product subdirectory must be a single path segment, got " ++ text

def beginsWithSeparator (text : String) : Bool :=
  text.toList.head?.any Path.isSeparator

/-- The rules in their order, each with what breaks it: no item is blank, no key path
begins with a separator, and the product directory is one component. -/
def violations (settings : Settings) : List Violation :=
  (Item.all.filter fun item => Blank.isBlankText (settings.get item)).map .blank ++
  (([.installRootKey, .installPathKey] : List Item).filter fun item =>
    beginsWithSeparator (settings.get item)).map
      (fun item => .leadingSeparator item (settings.get item)) ++
  (if settings.productDirectory.toList.any Path.isSeparator then
    [.severalComponents settings.productDirectory] else [])

/-- The first rule that settings break, if any. -/
def firstViolation? (settings : Settings) : Option Violation :=
  settings.violations.head?

end Settings

end RuntimeLocator
