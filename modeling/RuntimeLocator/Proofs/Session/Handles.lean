/-
Handles of a session: what they answer, and how they are counted.

A handle holds the values that its key had when it was opened. It goes when it is closed or
when another key is opened under its name, and no other step touches it
(`handle?_step_of_not_frees`), so what it answers does not depend on what becomes of the
registry it came from. With the account that a session keeps of each family, this is all there
is to say of open keys (`handles_accounted`).
-/

import RuntimeLocator.Proofs.Session.Accounting

namespace RuntimeLocator.Session

/-! ### Handles that stay -/

/-- Whether a step that answers so frees a handle: it closes the handle, or opens another key
under its name. -/
def Action.Frees (handle : String) : Action → Answer → Prop
  | .close name, _ => name = handle
  | .openKey _ _ name, .opened => name = handle
  | _, _ => False

/-- No step of some actions frees a handle. -/
def Keeps (session : Session) (handle : String) : List (String × Action) → Prop
  | [] => True
  | (name, action) :: actions =>
    ¬ action.Frees handle (session.step name action).2 ∧
      (session.step name action).1.Keeps handle actions

/-- What a query of a handle answers. -/
def Answer.ofQuery : Except StoreFailure Value → Answer
  | .ok found => .value found
  | .error failure => .storeFailure failure

section Handles

variable {session : Session} {name handle : String}

theorem handles_mention (session : Session) (name : String) :
    (session.mention name).1.handles = session.handles := by
  rw [mention]
  split <;> rfl

theorem handle?_mention (session : Session) (name handle : String) :
    (session.mention name).1.handle? handle = session.handle? handle := by
  rw [handle?, handle?, handles_mention]

theorem handle?_release_of_ne (session : Session) (other : handle ≠ name) :
    (session.release name).handle? handle = session.handle? handle := by
  rw [release]
  split
  · rfl
  · exact congrArg (Option.map (·.2)) (find?_filter_of_ne other session.handles)

/-- A handle that is closed is gone. -/
theorem handle?_step_close (session : Session) (name handle : String) :
    (session.step name (.close handle)).1.handle? handle = none := by
  simp only [step]
  split
  · assumption
  · rename_i held found
    rw [release, found]
    exact handle?_eq_none_iff.mpr (not_mem_names_dropHandle _ handle)

/-- A key that is opened has its values of that moment under the name, and no other handle
changes. -/
theorem handle?_openHandle (session : Session) (member : Member) (hive : Hive)
    (path name : String) :
    match member.registry.openKey hive path with
    | .error failure =>
      session.openHandle member hive path name = (session, .storeFailure failure)
    | .ok values =>
      (session.openHandle member hive path name).2 = .opened ∧
        ∀ handle, (session.openHandle member hive path name).1.handle? handle =
          if handle = name then some ⟨values, member.family⟩ else session.handle? handle := by
  rw [openHandle]
  cases member.registry.openKey hive path with
  | error failure => rfl
  | ok values =>
    refine ⟨rfl, fun handle => ?_⟩
    by_cases same : handle = name
    · subst same
      simp [handle?]
    · have kept := handle?_release_of_ne
        (session.setCounters member.family (session.countersOf member.family).opening) same
      rw [if_neg same, ← show _ = session.handle? handle from kept]
      simp [handle?, eq_comm (a := name), same]

/-- A step changes no handle but one that it frees. -/
theorem handle?_step_of_not_frees {action : Action}
    (stays : ¬ action.Frees handle (session.step name action).2) :
    (session.step name action).1.handle? handle = session.handle? handle := by
  have mentioned := handle?_mention session name handle
  rw [← mentioned]
  cases action with
  | fresh => rfl
  | load json =>
    simp only [step]
    split <;> rfl
  | change change => rfl
  | copy target => rfl
  | openKey hive path other =>
    have opens := handle?_openHandle (session.mention name).1 (session.mention name).2 hive path
      other
    change ¬ Action.Frees handle _
      ((session.mention name).1.openHandle (session.mention name).2 hive path other).2 at stays
    change ((session.mention name).1.openHandle (session.mention name).2 hive path other).1.handle?
      handle = _
    split at opens
    · rw [opens]
    · obtain ⟨answers, handles⟩ := opens
      rw [answers] at stays
      rw [handles, if_neg fun same => stays same.symm]
  | query other title maxBytes =>
    simp only [step]
    split
    · rfl
    · split <;> rfl
  | close other =>
    simp only [step]
    split
    · rfl
    · exact handle?_release_of_ne _ fun same => stays same.symm
  | read hive path title maxChars => rfl
  | resolve env maxChars settings =>
    simp only [step]
    split <;> rfl

theorem handle?_run_of_keeps {actions : List (String × Action)}
    (keeps : session.Keeps handle actions) :
    (session.run actions).1.handle? handle = session.handle? handle := by
  induction actions generalizing session with
  | nil => rfl
  | cons step actions ih =>
    obtain ⟨name, action⟩ := step
    obtain ⟨stays, later⟩ := keeps
    exact (ih later).trans (handle?_step_of_not_frees stays)

theorem step_query {held : Handle} (found : session.handle? handle = some held)
    (asker title : String) (maxBytes : UInt32) :
    (session.step asker (.query handle title maxBytes)).2 =
      .ofQuery (queryValue held.values title maxBytes) := by
  simp only [step, handle?_mention, found]
  cases queryValue held.values title maxBytes <;> rfl

/-- A key is opened only on a registry that is there. -/
theorem exists_of_opened {hive : Hive} {path : String}
    (opened : (session.step name (.openKey hive path handle)).2 = .opened) :
    ∃ member values, session.member? name = some member ∧
      member.registry.openKey hive path = .ok values ∧
      (session.step name (.openKey hive path handle)).1.handle? handle =
        some ⟨values, member.family⟩ := by
  change ((session.mention name).1.openHandle (session.mention name).2 hive path handle).2 = _
    at opened
  have opens := handle?_openHandle (session.mention name).1 (session.mention name).2 hive path
    handle
  split at opens
  · rw [opens] at opened
    cases opened
  · rename_i values readable
    have held := opens.2 handle
    rw [if_pos rfl] at held
    refine ⟨(session.mention name).2, values, ?_, readable, held⟩
    cases found : session.member? name with
    | some member => simp only [mention, found]
    | none =>
      -- An empty registry has no key to open.
      rw [mention, found] at readable
      cases hive <;> cases readable

theorem opened_of_openKey {member : Member} {hive : Hive} {path : String}
    {values : NameMap Value} (found : session.member? name = some member)
    (readable : member.registry.openKey hive path = .ok values) :
    (session.step name (.openKey hive path handle)).2 = .opened := by
  have opens := handle?_openHandle session member hive path handle
  rw [readable] at opens
  simp only [step, mention, found]
  exact opens.1

end Handles

/-! ### Lookups -/

/-- Reads and resolutions. -/
def Action.isLookup : Action → Bool
  | .read .. | .resolve .. => true
  | _ => false

theorem handles_step_of_isLookup {action : Action} (looks : action.isLookup = true)
    (session : Session) (name : String) :
    (session.step name action).1.handles = session.handles := by
  rw [← handles_mention session name]
  cases action with
  | read hive path title maxChars => rfl
  | resolve env maxChars settings =>
    simp only [step]
    split <;> rfl
  | _ => cases looks

theorem openings_callsOf_le_one (session : Session) (member : Member) (action : Action) :
    (Store.ofRegistry member.registry).openings (session.callsOf member action) ≤ 1 := by
  cases action with
  | openKey hive path handle => exact List.countP_le_length
  | read hive path title maxChars => exact (balanced_readString _ _ _ _ _ _ _).atMostOne
  | resolve env maxChars settings =>
    rw [callsOf]
    cases settingsOf settings with
    | error fault => exact Nat.zero_le 1
    | ok settings => exact (balanced_resolve _ _ _ _ _).atMostOne
  | _ => exact Nat.zero_le 1

/-- No step opens more than one key. -/
theorem opens_le_one (session : Session) (name : String) (action : Action) (family : Nat) :
    session.opens name action family ≤ 1 := by
  simp only [opens]
  split
  · exact openings_callsOf_le_one _ _ action
  · exact Nat.zero_le 1

/-! ### Families as groups -/

/-- No registry and no handle is in a family. -/
def Vacant (session : Session) (family : Nat) : Prop :=
  (∀ name member, session.member? name = some member → member.family ≠ family) ∧
    ∀ name handle, session.handle? name = some handle → handle.family ≠ family

/-- The families of a session are the groups of registries that come from one another by
changing and copying. -/
structure Grouped (session : Session) : Prop where
  fresh : ∀ name, ∃ family, session.Vacant family ∧
    (session.step name .fresh).1.member? name = some ⟨.empty, family⟩
  loaded : ∀ name json registry, Registry.ofJson json = .ok registry →
    ∃ family, session.Vacant family ∧
      (session.step name (.load json)).1.member? name = some ⟨registry, family⟩
  changed : ∀ name member change, session.member? name = some member →
    (session.step name (.change change)).1.member? name =
      some ⟨change.apply member.registry, member.family⟩
  copied : ∀ name member target, session.member? name = some member →
    (session.step name (.copy target)).1.member? target = some member
  kept : ∀ name action other member, session.member? other = some member →
    action.target? name ≠ some other →
    (session.step name action).1.member? other = some member

section Grouped

variable {session : Session} {opened : Nat → Nat}

/-- What has no counters yet is vacant. -/
theorem Accounted.vacant (account : session.Accounted opened none) {family : Nat}
    (new : session.counters.length ≤ family) : session.Vacant family := by
  constructor
  · intro name member found
    obtain ⟨entry, first, rfl⟩ := Option.map_eq_some_iff.mp found
    have known := account.families entry (List.mem_of_find?_eq_some first)
    exact Nat.ne_of_lt (Nat.lt_of_lt_of_le known new)
  · intro name handle found
    have known := lt_length_counters_of_live (account.live_pos (mem_handles_of_handle? found))
    exact Nat.ne_of_lt (Nat.lt_of_lt_of_le known new)

theorem Accounted.grouped (account : session.Accounted opened none) : session.Grouped where
  fresh name := ⟨_, account.vacant (session.length_counters_le_mention name),
    member?_putFresh _ name .empty⟩
  loaded name json registry decodes := by
    simp only [Session.step, decodes]
    exact ⟨_, account.vacant (session.length_counters_le_mention name),
      member?_putFresh _ name registry⟩
  changed name member change found := by
    rw [Session.step, mention_of_member? found]
    exact (member?_putMember session name name _).trans (if_pos rfl)
  copied name member target found := by
    rw [Session.step, mention_of_member? found]
    exact (member?_putMember session target target _).trans (if_pos rfl)
  kept name action other member found elsewhere := member?_step_of_ne_target found elsewhere

end Grouped

/-! ### All runs -/

/-- **Open keys are counted exactly, and answer from what they were opened on.** After any
actions, each family has counted the keys that were opened in it, and as live those of its
handles that are held; so whatever is released was counted, and what is closed is held no more.
A lookup leaves the live keys as they were and opens one key at most. A handle answers from the
values that its key had, for as long as no step frees it. -/
theorem handles_accounted (actions : List (String × Action)) :
    let session := (empty.run actions).1
    session.Grouped ∧ (session.handles.map (·.1)).Nodup ∧
    (∀ family, session.countersOf family =
      ⟨empty.openings family actions, session.held family⟩) ∧
    (∀ name member, session.member? name = some member → session.countersFor name =
      ⟨empty.openings member.family actions, session.held member.family⟩) ∧
    (∀ handle opened, session.handle? handle = some opened →
      0 < (session.countersOf opened.family).live) ∧
    (∀ name handle, (session.step name (.close handle)).1.handle? handle = none) ∧
    (∀ name action, action.isLookup = true → ∀ family,
      let before := session.countersOf family
      let after := (session.step name action).1.countersOf family
      after.live = before.live ∧ before.opened ≤ after.opened ∧
        after.opened ≤ before.opened + 1) ∧
    ∀ name hive path handle,
      let opening := session.step name (.openKey hive path handle)
      opening.2 = .opened → ∃ member values, session.member? name = some member ∧
        member.registry.openKey hive path = .ok values ∧
        ∀ later, opening.1.Keeps handle later →
          (opening.1.run later).1.handle? handle = some ⟨values, member.family⟩ ∧
          ∀ asker title maxBytes,
            ((opening.1.run later).1.step asker (.query handle title maxBytes)).2 =
              .ofQuery (queryValue values title maxBytes) := by
  intro session
  have account : session.Accounted (fun family => empty.openings family actions) none := by
    simpa only [Nat.zero_add] using accounted_empty.run actions
  have counted (family : Nat) : session.countersOf family =
      ⟨empty.openings family actions, session.held family⟩ := account.counted family
  refine ⟨account.grouped, account.distinct, counted, ?observed, ?underflow,
    session.handle?_step_close, ?lookups, ?snapshots⟩
  case observed =>
    intro name member found
    rw [countersFor, found]
    exact counted member.family
  case underflow =>
    intro handle opened found
    exact account.live_pos (mem_handles_of_handle? found)
  case lookups =>
    intro name action looks family
    dsimp only
    have after := (account.step name action).counted family
    have most := session.opens_le_one name action family
    have kept : (session.step name action).1.held family = session.held family := by
      rw [held, held, handles_step_of_isLookup looks]
    rw [after, counted, kept]
    exact ⟨rfl, Nat.le_add_right _ _, Nat.add_le_add_left most _⟩
  case snapshots =>
    intro name hive path handle opening opened
    obtain ⟨member, values, found, readable, held⟩ := exists_of_opened opened
    refine ⟨member, values, found, readable, ?_⟩
    intro later keeps
    have stays := (handle?_run_of_keeps keeps).trans held
    exact ⟨stays, fun asker title maxBytes => step_query stays asker title maxBytes⟩

deriving instance DecidableEq for Member, Handle

/-- A key is opened on a copy of a registry, and another on the registry itself. The value is
changed, the copy makes way for an empty registry, and its handle is closed: the second handle
still answers as before. -/
theorem handles_accounted_copies :
    let root (text : String) : Action := .change (.setString .localMachine "Fw" "Root" text)
    let read : Action := .read .localMachine "Fw" "Root" 260
    let drive := Registry.empty.setString .localMachine "Fw" "Root" "C:\\Fw"
    let values : NameMap Value :=
      ⟨[("Root", .string "C:\\Fw")], List.pairwise_singleton _ _⟩
    let session := (empty.run [("a", root "C:\\Fw"), ("a", .copy "b"),
      ("b", .openKey .localMachine "fw" "first"), ("a", read)]).1
    let opening := session.step "a" (.openKey .localMachine "FW\\" "second")
    let later := [("a", root "D:\\Fw"), ("b", .fresh), ("b", .close "first")]
    session.countersOf 0 = ⟨2, 1⟩ ∧
    (session.member? "b" = some ⟨drive, 0⟩ ∧ session.countersFor "b" = ⟨2, 1⟩) ∧
    (session.handle? "first" = some ⟨values, 0⟩ ∧ 0 < (session.countersOf 0).live) ∧
    (read.isLookup = true ∧ ((session.step "b" read).1.countersOf 0).live = 1) ∧
    opening.2 = .opened ∧ opening.1.Keeps "second" later ∧
    ((opening.1.run later).1.step "b" (.query "second" "ROOT" 64)).2 =
      .value (.string "C:\\Fw") := by
  intro root read drive values session opening later
  obtain ⟨-, -, counted, observed, underflow, -, lookups, snapshots⟩ :=
    handles_accounted [("a", root "C:\\Fw"), ("a", .copy "b"),
      ("b", .openKey .localMachine "fw" "first"), ("a", read)]
  have original : session.member? "a" = some ⟨drive, 0⟩ := by decide +kernel
  have copied : session.member? "b" = some ⟨drive, 0⟩ := by decide +kernel
  have first : session.handle? "first" = some ⟨values, 0⟩ := by decide +kernel
  have counts : session.countersOf 0 = ⟨2, 1⟩ := (counted 0).trans (by decide +kernel)
  have reports : session.countersFor "b" = ⟨2, 1⟩ :=
    (observed "b" _ copied).trans ((counted 0).symm.trans counts)
  have looked := (lookups "b" read rfl 0).1
  rw [counts] at looked
  have readable : drive.openKey .localMachine "FW\\" = .ok values := by decide +kernel
  have opened : opening.2 = .opened := opened_of_openKey original readable
  have keeps : opening.1.Keeps "second" later :=
    ⟨id, id, (by decide : ¬ "first" = "second"), trivial⟩
  obtain ⟨member, found, there, holds, answers⟩ := snapshots _ _ _ _ opened
  obtain rfl := Option.some.inj (original.symm.trans there)
  obtain rfl := Except.ok.inj (readable.symm.trans holds)
  have answer : queryValue values "ROOT" 64 = .ok (.string "C:\\Fw") := by decide +kernel
  have asked := (answers later keeps).2 "b" "ROOT" 64
  rw [answer] at asked
  exact ⟨counts, ⟨copied, reports⟩, ⟨first, underflow "first" _ first⟩, ⟨rfl, looked⟩, opened,
    keeps, asked⟩

end RuntimeLocator.Session
