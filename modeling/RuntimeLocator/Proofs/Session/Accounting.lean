/-
Accounting of open keys in a session.

Each family counts the keys that were opened in it and those that are not yet released. An
account of a session (`Accounted`) gives the first number, and a second one for keys that were
opened and have no name yet; the rest of those not released are the handles that the session
holds. Every step keeps a session accounted (`Accounted.step`), with what it opens added
(`opens`), and so does every run.
-/

import RuntimeLocator.Proofs.Lookup.Answers
import RuntimeLocator.Proofs.Session.Families

namespace RuntimeLocator.Session

/-! ### Opens and handles -/

/-- How many handles of a family are held. -/
def held (session : Session) (family : Nat) : Nat :=
  session.handles.countP (·.2.family == family)

/-- The calls that an action makes on the registry it is about. -/
def callsOf (session : Session) (member : Member) : Action → List Call
  | .openKey hive path _ => [.openKey hive path]
  | .read hive path name maxChars =>
    ((readString hive path name maxChars).runOn (.ofRegistry member.registry) (.ofPairs [])
      (session.countersOf member.family)).calls
  | .resolve env maxChars settings =>
    match settingsOf settings with
    | .error _ => []
    | .ok settings =>
      ((RuntimeLocator.resolve settings maxChars).runOn (.ofRegistry member.registry) env
        (session.countersOf member.family)).calls
  | _ => []

/-- How many keys a step opens in a family. -/
def opens (before : Session) (name : String) (action : Action) (family : Nat) : Nat :=
  let member := (before.mention name).2
  if family = member.family then
    (Store.ofRegistry member.registry).openings ((before.mention name).1.callsOf member action)
  else 0

/-- How many keys some actions open in a family, one after the other. -/
def openings (session : Session) (family : Nat) : List (String × Action) → Nat
  | [] => 0
  | (name, action) :: actions =>
    session.opens name action family + (session.step name action).1.openings family actions

/-! ### Counters -/

section Counters

variable {session : Session} {family : Nat}

theorem countersOf_setCounters (known : family < session.counters.length) (counters : Counters)
    (other : Nat) :
    (session.setCounters family counters).countersOf other =
      if other = family then counters else session.countersOf other := by
  rw [countersOf, setCounters, List.getElem?_set]
  by_cases same : family = other
  · subst same
    rw [if_pos rfl, if_pos rfl, if_pos known]
    rfl
  · rw [if_neg same, if_neg fun eq => same eq.symm]
    rfl

/-- A new family has counted nothing, like one that is not there. -/
theorem countersOf_putFresh (session : Session) (name : String) (registry : Registry)
    (family : Nat) :
    (session.putFresh name registry).countersOf family = session.countersOf family := by
  rw [countersOf, counters_putFresh, List.getElem?_append]
  split
  · rfl
  · rename_i beyond
    rw [countersOf, List.getElem?_eq_none (Nat.not_lt.mp beyond)]
    cases family - session.counters.length <;> rfl

theorem lt_length_counters_of_live (counts : 0 < (session.countersOf family).live) :
    family < session.counters.length := by
  by_contra beyond
  rw [countersOf, List.getElem?_eq_none (Nat.not_lt.mp beyond)] at counts
  exact absurd counts (Nat.lt_irrefl 0)

end Counters

/-! ### Handles -/

section Handles

variable {session : Session} {name : String} {handle : Handle}

theorem mem_handles_of_handle? (found : session.handle? name = some handle) :
    (name, handle) ∈ session.handles := by
  obtain ⟨entry, first, rfl⟩ := Option.map_eq_some_iff.mp found
  have named : entry.1 = name := by simpa using List.find?_some first
  subst named
  exact List.mem_of_find?_eq_some first

theorem handle?_eq_none_iff :
    session.handle? name = none ↔ name ∉ session.handles.map (·.1) := by
  rw [handle?, Option.map_eq_none_iff, List.find?_eq_none]
  constructor
  · intro absent mem
    obtain ⟨entry, mem, named⟩ := List.mem_map.mp mem
    exact absent entry mem (beq_iff_eq.mpr named)
  · intro absent entry mem named
    exact absent (List.mem_map.mpr ⟨entry, mem, beq_iff_eq.mp named⟩)

theorem not_mem_names_dropHandle (session : Session) (name : String) :
    name ∉ (session.dropHandle name).handles.map (·.1) := by
  simp [dropHandle]

theorem nodup_names_dropHandle (distinct : (session.handles.map (·.1)).Nodup) (name : String) :
    ((session.dropHandle name).handles.map (·.1)).Nodup :=
  distinct.sublist (List.filter_sublist.map _)

/-- Dropping the handle of a name takes one from its family. -/
theorem held_dropHandle (distinct : (session.handles.map (·.1)).Nodup)
    (found : session.handle? name = some handle) (family : Nat) :
    session.held family =
      (session.dropHandle name).held family + if family = handle.family then 1 else 0 := by
  obtain ⟨front, back, split⟩ := List.append_of_mem (mem_handles_of_handle? found)
  have others : ∀ entry ∈ front ++ back, entry.1 ≠ name := by
    rw [split, List.map_append, List.map_cons, List.nodup_middle] at distinct
    intro entry mem named
    rw [← List.map_append] at distinct
    exact (List.nodup_cons.mp distinct).1 (List.mem_map.mpr ⟨entry, mem, named⟩)
  have kept : session.handles.filter (·.1 != name) = front ++ back := by
    rw [split, List.filter_append, List.filter_cons_of_neg (by simp), ← List.filter_append]
    exact List.filter_eq_self.mpr fun entry mem => bne_iff_ne.mpr (others entry mem)
  rw [held, held, dropHandle, kept, split]
  simp only [List.countP_append, List.countP_cons, beq_iff_eq, eq_comm (a := handle.family)]
  omega

end Handles

/-! ### Accounts -/

/-- An account of a session: how many keys were opened in each family, and the family of a key
that was opened and has no name yet, if there is one. -/
structure Accounted (session : Session) (opened : Nat → Nat) (inHand : Option Nat) : Prop where
  distinct : (session.handles.map (·.1)).Nodup
  families : ∀ entry ∈ session.members, entry.2.family < session.counters.length
  counted : ∀ family, session.countersOf family =
    ⟨opened family, session.held family + if inHand = some family then 1 else 0⟩

theorem accounted_empty : empty.Accounted (fun _ => 0) none where
  distinct := List.nodup_nil
  families _ mem := nomatch mem
  counted _ := rfl

section Accounted

variable {session : Session} {opened : Nat → Nat} {inHand : Option Nat} {name : String}
  {member : Member} {handle : Handle}

/-- A handle that is held was counted, so there is something to release. -/
theorem Accounted.live_pos (account : session.Accounted opened inHand)
    (found : (name, handle) ∈ session.handles) :
    0 < (session.countersOf handle.family).live := by
  have one : 0 < session.held handle.family :=
    List.countP_pos_iff.mpr ⟨_, found, beq_self_eq_true _⟩
  rw [account.counted]
  exact Nat.add_pos_left one _

theorem Accounted.putMember (account : session.Accounted opened inHand)
    (known : member.family < session.counters.length) (name : String) :
    (session.putMember name member).Accounted opened inHand where
  distinct := account.distinct
  families entry mem := by
    rcases List.mem_cons.mp mem with rfl | mem
    · exact known
    · exact account.families entry (List.mem_filter.mp mem).1
  counted := account.counted

theorem Accounted.putFresh (account : session.Accounted opened inHand) (name : String)
    (registry : Registry) : (session.putFresh name registry).Accounted opened inHand where
  distinct := account.distinct
  families entry mem := by
    rw [counters_putFresh, List.length_append]
    rcases List.mem_cons.mp mem with rfl | mem
    · exact Nat.lt_succ_self _
    · exact Nat.lt_succ_of_lt (account.families entry (List.mem_filter.mp mem).1)
  counted family := (countersOf_putFresh session name registry family).trans
    (account.counted family)

theorem Accounted.mention (account : session.Accounted opened inHand) (name : String) :
    (session.mention name).1.Accounted opened inHand ∧
      (session.mention name).2.family < (session.mention name).1.counters.length := by
  rw [Session.mention]
  cases found : session.member? name with
  | some member =>
    obtain ⟨entry, first, rfl⟩ := Option.map_eq_some_iff.mp found
    exact ⟨account, account.families entry (List.mem_of_find?_eq_some first)⟩
  | none =>
    refine ⟨account.putFresh name .empty, ?_⟩
    dsimp only
    rw [counters_putFresh, List.length_append]
    exact Nat.lt_succ_self _

/-- A key that is opened is in hand. -/
theorem Accounted.opening (account : session.Accounted opened none) {family : Nat}
    (known : family < session.counters.length) :
    (session.setCounters family (session.countersOf family).opening).Accounted
      (fun other => opened other + if other = family then 1 else 0) (some family) where
  distinct := account.distinct
  families entry mem := by
    rw [setCounters, List.length_set]
    exact account.families entry mem
  counted other := by
    rw [countersOf_setCounters known]
    by_cases same : other = family
    · subst same
      simp [account.counted, Counters.opening, held, setCounters]
    · simp [account.counted, held, setCounters, same, eq_comm (a := family)]

/-- The handle of a name is released, and its name becomes free. -/
theorem Accounted.release (account : session.Accounted opened inHand) (name : String) :
    (session.release name).Accounted opened inHand ∧
      name ∉ (session.release name).handles.map (·.1) := by
  rw [Session.release]
  cases found : session.handle? name with
  | none => exact ⟨account, handle?_eq_none_iff.mp found⟩
  | some handle =>
    have live := account.live_pos (mem_handles_of_handle? found)
    have known := lt_length_counters_of_live live
    refine ⟨⟨nodup_names_dropHandle account.distinct name, ?_, ?_⟩,
      not_mem_names_dropHandle session name⟩
    · intro entry mem
      change entry.2.family < (session.counters.set _ _).length
      rw [List.length_set]
      exact account.families entry mem
    · intro family
      have count := held_dropHandle account.distinct found family
      change (session.setCounters _ _).countersOf family =
        ⟨opened family, (session.dropHandle name).held family + _⟩
      rw [countersOf_setCounters known]
      by_cases same : family = handle.family
      · subst same
        rw [if_pos rfl] at count
        rw [if_pos rfl, account.counted, count]
        refine congrArg (Counters.mk _) ?_
        dsimp only
        omega
      · rw [if_neg same] at count
        rw [if_neg same, account.counted, count, Nat.add_zero]

/-- A key in hand takes a name that is free. -/
theorem Accounted.hold (account : session.Accounted opened (some handle.family))
    (free : name ∉ session.handles.map (·.1)) :
    Accounted { session with handles := (name, handle) :: session.handles } opened none where
  distinct := List.nodup_cons.mpr ⟨free, account.distinct⟩
  families := account.families
  counted family := by
    have before := account.counted family
    simp only [Option.some.injEq] at before
    rw [held, List.countP_cons, ← held]
    simp only [beq_iff_eq, reduceCtorEq, if_false, Nat.add_zero]
    exact before

/-- A key that is opened is counted, and held under its name if it could be opened. -/
theorem Accounted.openHandle (account : session.Accounted opened none)
    (known : member.family < session.counters.length) (hive : Hive) (path name : String) :
    (session.openHandle member hive path name).1.Accounted
      (fun family => opened family + if family = member.family then
        (Store.ofRegistry member.registry).openings [.openKey hive path] else 0) none := by
  rw [Session.openHandle]
  cases attempt : member.registry.openKey hive path with
  | error failure =>
    have none : (Store.ofRegistry member.registry).openings [.openKey hive path] = 0 := by
      simp [Store.openings, Store.opens, Store.ofRegistry, attempt, Except.map, Except.isOk,
        Except.toBool]
    simpa only [none, ite_self, Nat.add_zero] using account
  | ok values =>
    have one : (Store.ofRegistry member.registry).openings [.openKey hive path] = 1 := by
      simp [Store.openings, Store.opens, Store.ofRegistry, attempt, Except.map, Except.isOk,
        Except.toBool]
    rw [one]
    obtain ⟨released, free⟩ := (account.opening known).release name
    exact released.hold free

/-- A script that releases what it opens is counted with what it opened. -/
theorem Accounted.runScript {α : Type} (account : session.Accounted opened none)
    (known : member.family < session.counters.length) (env : Environment) (script : Script α)
    (balanced : ∀ start : HostState,
      let run := script.run ((Store.ofRegistry member.registry).host env) start
      (Store.ofRegistry member.registry).Balanced start.counters run.calls run.state.counters) :
    (session.runScript member env script).1.Accounted
      (fun family => opened family + if family = member.family then
        (Store.ofRegistry member.registry).openings
          (script.runOn (.ofRegistry member.registry) env
            (session.countersOf member.family)).calls else 0) none where
  distinct := account.distinct
  families entry mem := by
    rw [Session.runScript, setCounters, List.length_set]
    exact account.families entry mem
  counted family := by
    rw [Session.runScript, Script.runOn, countersOf_setCounters known]
    by_cases same : family = member.family
    · subst same
      rw [if_pos rfl, if_pos rfl, (balanced _).counted, account.counted]
      rfl
    · rw [if_neg same, if_neg same, account.counted]
      rfl

/-- A step that opens no key is counted as none. -/
theorem Accounted.idle {before after : Session} (account : after.Accounted opened none)
    {name : String} {action : Action}
    (quiet : (before.mention name).1.callsOf (before.mention name).2 action = []) :
    after.Accounted (fun family => opened family + before.opens name action family) none := by
  have none (family : Nat) : before.opens name action family = 0 := by
    simp [opens, quiet, Store.openings]
  simpa only [none, Nat.add_zero] using account

/-- **A step keeps a session accounted**, with the keys that it opens. -/
theorem Accounted.step (account : session.Accounted opened none) (name : String)
    (action : Action) :
    (session.step name action).1.Accounted
      (fun family => opened family + session.opens name action family) none := by
  obtain ⟨mentioned, known⟩ := account.mention name
  cases action with
  | fresh => exact (mentioned.putFresh name .empty).idle rfl
  | load json =>
    refine Accounted.idle ?_ rfl
    simp only [Session.step]
    cases Registry.ofJson json with
    | error fault => exact mentioned
    | ok registry => exact mentioned.putFresh name registry
  | change change =>
    refine Accounted.idle (mentioned.putMember ?_ name) rfl
    exact known
  | copy target =>
    refine Accounted.idle (mentioned.putMember ?_ target) rfl
    exact known
  | openKey hive path handle => exact mentioned.openHandle known hive path handle
  | query handle title maxBytes =>
    refine Accounted.idle ?_ rfl
    simp only [Session.step]
    split
    · exact mentioned
    · split <;> exact mentioned
  | close handle =>
    refine Accounted.idle ?_ rfl
    simp only [Session.step]
    split
    · exact mentioned
    · exact (mentioned.release handle).1
  | read hive path title maxChars =>
    exact mentioned.runScript known _ _ fun start =>
      balanced_readString _ _ hive path title maxChars start
  | resolve env maxChars settings =>
    cases chosen : settingsOf settings with
    | error fault =>
      refine Accounted.idle ?_ ?_
      · simpa only [Session.step, chosen] using mentioned
      · simp only [callsOf, chosen]
    | ok chosenSettings =>
      have resolved := mentioned.runScript known env
        (RuntimeLocator.resolve chosenSettings maxChars) fun start =>
          balanced_resolve _ env chosenSettings maxChars start
      simpa only [Session.step, opens, callsOf, chosen] using resolved

theorem Accounted.run (account : session.Accounted opened none)
    (actions : List (String × Action)) :
    (session.run actions).1.Accounted
      (fun family => opened family + session.openings family actions) none := by
  induction actions generalizing session opened with
  | nil => exact account
  | cons step actions ih =>
    obtain ⟨name, action⟩ := step
    have later := ih (account.step name action)
    simp only [Nat.add_assoc] at later
    exact later

end Accounted

end RuntimeLocator.Session
