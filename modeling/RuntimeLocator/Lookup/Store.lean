/-
Stores that lookups read from, and the host that puts a store and an environment
together. The host counts how many keys it opened and how many of them are not yet
released.
-/

import RuntimeLocator.Environment
import RuntimeLocator.Lookup.Script
import RuntimeLocator.Registry.Basic

namespace RuntimeLocator

/-- An open key answers for each name and number of bytes. -/
abbrev OpenKey := String → UInt32 → Except StoreFailure Value

/-- A store opens keys. -/
structure Store where
  openKey : Hive → String → Except StoreFailure OpenKey

namespace Store

/-- The store of a registry held in memory. -/
def ofRegistry (registry : Registry) : Store where
  openKey hive path := (registry.openKey hive path).map queryValue

/-- The store of a platform that has no registry: nothing is found in it. -/
def system : Store :=
  ofRegistry .empty

/-- A store that opens no key. -/
def refusingOpen (failure : StoreFailure) : Store where
  openKey _ _ := .error failure

/-- A store whose keys answer every query alike, however many bytes are offered. -/
def answering (answer : Except StoreFailure Value) : Store where
  openKey _ _ := .ok fun _ _ => answer

end Store

/-- How many keys were opened, and how many of these are not yet released. -/
structure Counters where
  opened : Nat
  live : Nat
deriving DecidableEq

def Counters.zero : Counters := ⟨0, 0⟩

/-- The counters after one more key was opened. -/
def Counters.opening (counters : Counters) : Counters :=
  ⟨counters.opened + 1, counters.live + 1⟩

/-- The counters after a key was released. -/
def Counters.releasing (counters : Counters) : Counters :=
  ⟨counters.opened, counters.live - 1⟩

/-- What a host remembers: its counters and the key that is open. -/
structure HostState where
  counters : Counters
  current : Option OpenKey

/-- Answers calls from an environment and a store. -/
def Store.host (store : Store) (env : Environment) : Script.Host HostState where
  reply
    | .getVariable name, state => (env.lookup name, state)
    | .openKey hive path, state =>
      match store.openKey hive path with
      | .error failure => (.error failure, state)
      | .ok key => (.ok (), ⟨state.counters.opening, some key⟩)
    | .query name maxBytes, state =>
      match state.current with
      | none => (.error .notFound, state)
      | some key => (key name maxBytes, state)
    | .close, state =>
      match state.current with
      | none => ((), state)
      | some _ => ((), ⟨state.counters.releasing, none⟩)

/-- Runs a script on a store and an environment, going on from these counters. -/
def Script.runOn {α : Type} (script : Script α) (store : Store) (env : Environment)
    (counters : Counters) : Script.Run α HostState :=
  script.run (store.host env) ⟨counters, none⟩

end RuntimeLocator
