/-
The two top-level hierarchies of the registry.
-/

namespace RuntimeLocator

/-- A top-level hierarchy: the settings of the machine or those of the current user. -/
inductive Hive where
  | localMachine
  | currentUser
deriving DecidableEq

/-- The name of a hive in snapshots and settings. -/
def Hive.name : Hive → String
  | .localMachine => "LocalMachine"
  | .currentUser => "CurrentUser"

/-- The name of a hive as the registry itself writes it. -/
def Hive.rootName : Hive → String
  | .localMachine => "HKEY_LOCAL_MACHINE"
  | .currentUser => "HKEY_CURRENT_USER"

end RuntimeLocator
