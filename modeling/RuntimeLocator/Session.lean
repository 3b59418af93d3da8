/-
Sessions: registries and open keys under names, with steps that change and consult them.

Registries that come from one another by changing or copying form a family. A family
shares its counters, though not its contents. A key that was opened answers from the
values it had at that moment and belongs to the family it was opened from.
-/

import RuntimeLocator.Lookup.ReadString
import RuntimeLocator.Lookup.Resolve
import RuntimeLocator.Lookup.Store
import RuntimeLocator.Registry.Snapshot
import RuntimeLocator.Settings.Json

namespace RuntimeLocator

namespace Session

/-- A registry of a session, with the family it belongs to. -/
structure Member where
  registry : Registry
  family : Nat

/-- A key that is open, with the family it was opened from. -/
structure Handle where
  values : NameMap Value
  family : Nat

/-- A change to a registry. -/
inductive Change where
  | addKey (hive : Hive) (path : String)
  | setValue (hive : Hive) (path name : String) (value : Value)
  | setString (hive : Hive) (path name text : String)
  | denyAccess (hive : Hive) (path : String)

def Change.apply : Change → Registry → Registry
  | .addKey hive path, registry => registry.addKey hive path
  | .setValue hive path name value, registry => registry.setValue hive path name value
  | .setString hive path name text, registry => registry.setString hive path name text
  | .denyAccess hive path, registry => registry.denyAccess hive path

/-- What a step does. Most steps are about the registry that they name. -/
inductive Action where
  /-- Puts an empty registry of a new family in place. -/
  | fresh
  /-- Puts the registry of a snapshot in place, in a new family. -/
  | load (json : String)
  | change (change : Change)
  /-- Copies the registry to another name; the copy stays in the family. -/
  | copy (target : String)
  | openKey (hive : Hive) (path : String) (handle : String)
  | query (handle : String) (name : String) (maxBytes : UInt32)
  | close (handle : String)
  | read (hive : Hive) (path name : String) (maxChars : Nat)
  /-- Resolves with the settings of a text, or with the standard ones. -/
  | resolve (env : Environment) (maxChars : Nat) (settings : Option String)

/-- What a step answers. -/
inductive Answer where
  /-- The registry was put in place or changed. -/
  | changed (registry : Registry)
  | malformed (fault : Json.Fault)
  | copied
  | opened
  | closed
  | noHandle
  | value (value : Value)
  | storeFailure (failure : StoreFailure)
  | read (answer : Except LookupFailure String)
  | resolved (answer : Except LookupFailure Resolution)

end Session

/-- A session: registries and handles by name, the latest first, and the counters of the
families, of which there are as many as there are counters. -/
structure Session where
  members : List (String × Session.Member)
  handles : List (String × Session.Handle)
  counters : List Counters

namespace Session

def empty : Session := ⟨[], [], []⟩

def member? (session : Session) (name : String) : Option Member :=
  (session.members.find? (·.1 == name)).map (·.2)

def handle? (session : Session) (name : String) : Option Handle :=
  (session.handles.find? (·.1 == name)).map (·.2)

def countersOf (session : Session) (family : Nat) : Counters :=
  (session.counters[family]?).getD .zero

def putMember (session : Session) (name : String) (member : Member) : Session :=
  { session with members := (name, member) :: session.members.filter (·.1 != name) }

def dropHandle (session : Session) (name : String) : Session :=
  { session with handles := session.handles.filter (·.1 != name) }

def setCounters (session : Session) (family : Nat) (counters : Counters) : Session :=
  { session with counters := session.counters.set family counters }

/-- Puts a registry in place as the only one of a new family. -/
def putFresh (session : Session) (name : String) (registry : Registry) : Session :=
  let session := session.putMember name ⟨registry, session.counters.length⟩
  { session with counters := session.counters ++ [.zero] }

/-- The session in which a name surely has a registry: an empty one if it had none. -/
def mention (session : Session) (name : String) : Session × Member :=
  match session.member? name with
  | some member => (session, member)
  | none => (session.putFresh name .empty, ⟨.empty, session.counters.length⟩)

/-- Releases the handle of a name, if there is one. -/
def release (session : Session) (name : String) : Session :=
  match session.handle? name with
  | none => session
  | some handle =>
    (session.setCounters handle.family (session.countersOf handle.family).releasing).dropHandle name

/-- Opens a key under a handle's name. A handle that had the name is released after the
key was opened; it stays if that fails. -/
def openHandle (session : Session) (member : Member) (hive : Hive) (path name : String) :
    Session × Answer :=
  match member.registry.openKey hive path with
  | .error failure => (session, .storeFailure failure)
  | .ok values =>
    let counted :=
      session.setCounters member.family (session.countersOf member.family).opening
    let released := counted.release name
    ({ released with handles := (name, ⟨values, member.family⟩) :: released.handles }, .opened)

/-- Runs a script on a registry, on the counters of its family. -/
def runScript {α : Type} (session : Session) (member : Member) (env : Environment)
    (script : Script α) : Session × α :=
  let run := script.runOn (.ofRegistry member.registry) env (session.countersOf member.family)
  (session.setCounters member.family run.state.counters, run.answer)

/-- The settings of a text, or the standard ones. -/
def settingsOf : Option String → Except Json.Fault Settings
  | none => .ok .standard
  | some text => Settings.ofJson text

/-- Takes one action on the registry of a name, which is made if it is not there. -/
def step (before : Session) (name : String) (action : Action) : Session × Answer :=
  let (session, member) := before.mention name
  match action with
  | .fresh => (session.putFresh name .empty, .changed .empty)
  | .load json =>
    match Registry.ofJson json with
    | .error fault => (session, .malformed fault)
    | .ok registry => (session.putFresh name registry, .changed registry)
  | .change change =>
    let registry := change.apply member.registry
    (session.putMember name ⟨registry, member.family⟩, .changed registry)
  | .copy target => (session.putMember target member, .copied)
  | .openKey hive path handle => session.openHandle member hive path handle
  | .query handle name maxBytes =>
    match session.handle? handle with
    | none => (session, .noHandle)
    | some handle =>
      match queryValue handle.values name maxBytes with
      | .error failure => (session, .storeFailure failure)
      | .ok value => (session, .value value)
  | .close handle =>
    match session.handle? handle with
    | none => (session, .noHandle)
    | some _ => (session.release handle, .closed)
  | .read hive path name maxChars =>
    let (session, answer) :=
      session.runScript member (.ofPairs []) (readString hive path name maxChars)
    (session, .read answer)
  | .resolve env maxChars settings =>
    match settingsOf settings with
    | .error fault => (session, .malformed fault)
    | .ok settings =>
      let (session, answer) :=
        session.runScript member env (RuntimeLocator.resolve settings maxChars)
      (session, .resolved answer)

/-- The counters of the registry of a name. -/
def countersFor (session : Session) (name : String) : Counters :=
  match session.member? name with
  | none => .zero
  | some member => session.countersOf member.family

/-- Takes actions one after the other; each answer comes with the counters, afterwards,
of the registry that its action named. -/
def run (session : Session) : List (String × Action) → Session × List (Answer × Counters)
  | [] => (session, [])
  | (name, action) :: actions =>
    let (session, answer) := session.step name action
    let (final, answers) := session.run actions
    (final, (answer, session.countersFor name) :: answers)

end Session

end RuntimeLocator
