/-
Families of registries in a session.

A registry that is put in place anew gets a family whose number no registry, handle or
counter had before (`member?_putFresh`, `counters_putFresh`), and a step touches no registry
but the one it puts in place (`member?_step_of_ne_target`). With the texts that registries and
settings are read back from, this says what a session holds after it loads a snapshot
(`snapshots_roundtrip`).
-/

import RuntimeLocator.Proofs.Settings.Json
import RuntimeLocator.Session

namespace RuntimeLocator.Session

/-! ### Members -/

/-- Taking out one name hides no other. -/
theorem find?_filter_of_ne {α : Type} {name other : String} (differs : other ≠ name)
    (entries : List (String × α)) :
    (entries.filter (·.1 != name)).find? (·.1 == other) = entries.find? (·.1 == other) := by
  rw [List.find?_filter]
  congr 1
  funext entry
  by_cases named : entry.1 = other <;> simp [named, differs]

/-- The member of a name is the last one that was put in place under it. -/
theorem member?_putMember (session : Session) (name other : String) (member : Member) :
    (session.putMember name member).member? other =
      if other = name then some member else session.member? other := by
  by_cases same : other = name
  · subst same
    simp [putMember, member?]
  · have differs : (name == other) = false := by simpa using fun eq => same eq.symm
    rw [if_neg same]
    simp [putMember, member?, differs, find?_filter_of_ne same]

theorem member?_putFresh (session : Session) (name : String) (registry : Registry) :
    (session.putFresh name registry).member? name =
      some ⟨registry, session.counters.length⟩ :=
  (member?_putMember session name name _).trans (if_pos rfl)

theorem counters_putFresh (session : Session) (name : String) (registry : Registry) :
    (session.putFresh name registry).counters = session.counters ++ [.zero] := rfl

/-- Mentioning a name gives no family back. -/
theorem length_counters_le_mention (session : Session) (name : String) :
    session.counters.length ≤ (session.mention name).1.counters.length := by
  unfold mention
  split
  · exact Nat.le_refl _
  · rw [counters_putFresh, List.length_append]
    exact Nat.le_add_right _ _

/-! ### Steps -/

/-- The name under which an action puts a registry in place. -/
def Action.target? (name : String) : Action → Option String
  | .fresh | .load _ | .change _ => some name
  | .copy target => some target
  | _ => none

section Step

variable {session : Session} {name other : String} {member : Member}

theorem mention_of_member? (found : session.member? name = some member) :
    session.mention name = (session, member) := by
  simp only [mention, found]

theorem member?_mention (found : session.member? other = some member) (name : String) :
    (session.mention name).1.member? other = some member := by
  rw [mention]
  cases mentioned : session.member? name with
  | some _ => exact found
  | none =>
    have differs : other ≠ name := by
      rintro rfl
      rw [mentioned] at found
      cases found
    exact (member?_putMember session name other _).trans ((if_neg differs).trans found)

theorem members_release (session : Session) (name : String) :
    (session.release name).members = session.members := by
  rw [release]
  split <;> rfl

theorem members_openHandle (session : Session) (member : Member) (hive : Hive)
    (path name : String) :
    (session.openHandle member hive path name).1.members = session.members := by
  rw [openHandle]
  cases member.registry.openKey hive path with
  | error failure => rfl
  | ok values => exact members_release _ name

/-- A step puts a registry in place under its target alone. -/
theorem member?_step_of_ne_target {action : Action} (found : session.member? other = some member)
    (elsewhere : action.target? name ≠ some other) :
    (session.step name action).1.member? other = some member := by
  have mentioned := member?_mention found name
  have placed (registry : Member) {target : String} (differs : some target ≠ some other) :
      ((session.mention name).1.putMember target registry).member? other = some member :=
    (member?_putMember _ target other registry).trans
      ((if_neg fun same => differs (congrArg some same.symm)).trans mentioned)
  cases action with
  | fresh => exact placed _ elsewhere
  | load json =>
    simp only [step]
    split
    · exact mentioned
    · exact placed _ elsewhere
  | change change => exact placed _ elsewhere
  | copy target => exact placed _ elsewhere
  | openKey hive path handle =>
    rw [member?] at mentioned ⊢
    rw [← mentioned, ← members_openHandle (session.mention name).1 (session.mention name).2 hive
      path handle]
    rfl
  | query handle title maxBytes =>
    simp only [step]
    split
    · exact mentioned
    · split <;> exact mentioned
  | close handle =>
    simp only [step]
    split
    · exact mentioned
    · rw [member?, members_release]
      exact mentioned
  | read hive path title maxChars => exact mentioned
  | resolve env maxChars settings =>
    simp only [step]
    split <;> exact mentioned

end Step

/-! ### Snapshots -/

/-- **What is written is read back.** The snapshot of a registry describes that registry:
its hives, keys, values and denials, and nothing else. A session that loads it holds the
registry in a family that was not there before, with nothing counted. Settings are read
back likewise. -/
theorem snapshots_roundtrip :
    (∀ registry : Registry,
      Registry.ofJson registry.toJson = .ok registry ∧
      ∀ (session : Session) (name : String), ∃ after family,
        session.step name (.load registry.toJson) = (after, .changed registry) ∧
        after.member? name = some ⟨registry, family⟩ ∧
        session.counters.length ≤ family ∧
        after.counters[family]? = some .zero) ∧
    ∀ settings : Settings, Settings.ofJson settings.toJson = .ok settings := by
  refine ⟨fun registry => ⟨registry.ofJson_toJson, fun session name => ?_⟩,
    Settings.ofJson_toJson⟩
  have mentioned := session.length_counters_le_mention name
  refine ⟨(session.mention name).1.putFresh name registry, _, ?_,
    member?_putFresh _ name registry, mentioned, ?_⟩
  · simp only [step, registry.ofJson_toJson]
  · rw [counters_putFresh, List.getElem?_concat_length]

end RuntimeLocator.Session
