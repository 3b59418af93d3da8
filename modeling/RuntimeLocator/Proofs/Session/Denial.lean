/-
Denial of keys: once denied, always denied.

A change denies the path that it is about to deny, in every spelling, and no change lifts a
denial (`isDenied_apply_iff`). So after a run of changes those paths are denied that were denied
before and those that the run denied (`isDenied_foldl_iff`). In a session a denial lasts as long
as no other registry is put in place, whatever else is done (`Denies.run`), and one who meets it
leaves no trace (`denial_is_permanent`).
-/

import RuntimeLocator.Proofs.Session.Families
import RuntimeLocator.Proofs.Lookup.Answers
import RuntimeLocator.Proofs.Registry.ReadBack

namespace RuntimeLocator

open Session (Change)

/-! ### Denied paths of a registry -/

namespace Registry

variable {registry : Registry} {hive changed : Hive} {path other key : String}

/-- Whether the key that is found at a path refuses to be read. -/
def isDenied (registry : Registry) (hive : Hive) (path : String) : Bool :=
  (registry.find? hive path).any Key.accessDenied

theorem openKey_of_isDenied (denied : registry.isDenied hive path = true) :
    registry.openKey hive path = .error .accessDenied := by
  rw [isDenied] at denied
  rw [openKey]
  cases found : registry.find? hive path with
  | none =>
    rw [found] at denied
    cases denied
  | some key =>
    rw [found, Option.any_some] at denied
    simp only [denied, if_true]

/-- A denial holds for every spelling of its path. -/
theorem isDenied_congr (same : foldPath other = foldPath path) :
    registry.isDenied hive other = registry.isDenied hive path := by
  rw [isDenied, isDenied, registry.find?_congr hive same]

/-- A path is denied if the key that a change of it starts from is: the key that is made where
there is none is not denied. -/
theorem isDenied_eq_foundKey : registry.isDenied hive path =
    (registry.foundKey hive path).accessDenied := by
  rw [isDenied, foundKey]
  cases registry.find? hive path <;> rfl

theorem isDenied_modifyKey (change : Key → Key) :
    (registry.modifyKey changed key change).isDenied hive path =
      if hive = changed ∧ foldPath path = foldPath key then
        (change (registry.foundKey changed key)).accessDenied
      else registry.isDenied hive path := by
  rw [isDenied, find?_modifyKey]
  split <;> rfl

/-- A change that leaves the access to its key as it is denies nothing and lifts no denial. -/
theorem isDenied_modifyKey_of_keeps {change : Key → Key}
    (keeps : ∀ key : Key, (change key).accessDenied = key.accessDenied) :
    (registry.modifyKey changed key change).isDenied hive path = registry.isDenied hive path := by
  rw [isDenied_modifyKey]
  split
  · rename_i here
    obtain ⟨rfl, same⟩ := here
    rw [keeps, ← isDenied_eq_foundKey, isDenied_congr same]
  · rfl

end Registry

/-- Whether a change denies a path. -/
def Session.Change.Denies (hive : Hive) (path : String) : Change → Prop
  | .denyAccess changed key => hive = changed ∧ foldPath path = foldPath key
  | _ => False

section Changes

variable {hive : Hive} {path : String}

/-- After a change a path is denied if it was denied before or is denied by the change. -/
theorem isDenied_apply_iff {registry : Registry} {change : Change} :
    (change.apply registry).isDenied hive path = true ↔
      registry.isDenied hive path = true ∨ change.Denies hive path := by
  cases change with
  | addKey changed key =>
    have kept : (registry.addKey changed key).isDenied hive path = registry.isDenied hive path :=
      Registry.isDenied_modifyKey_of_keeps fun _ => rfl
    simp only [Change.apply, kept, Change.Denies, or_false]
  | setValue changed key name value =>
    have kept : (registry.setValue changed key name value).isDenied hive path =
        registry.isDenied hive path := Registry.isDenied_modifyKey_of_keeps fun _ => rfl
    simp only [Change.apply, kept, Change.Denies, or_false]
  | setString changed key name text =>
    have kept : (registry.setString changed key name text).isDenied hive path =
        registry.isDenied hive path := Registry.isDenied_modifyKey_of_keeps fun _ => rfl
    simp only [Change.apply, kept, Change.Denies, or_false]
  | denyAccess changed key =>
    simp only [Change.apply, Registry.denyAccess, Registry.isDenied_modifyKey, Change.Denies]
    by_cases here : hive = changed ∧ foldPath path = foldPath key
    · simp [here]
    · simp [here]

/-- After a run of changes those paths are denied that were denied before, and those that some
change of the run denies. -/
theorem isDenied_foldl_iff {changes : List Change} {registry : Registry} :
    (changes.foldl (fun registry change => change.apply registry) registry).isDenied hive path =
        true ↔
      registry.isDenied hive path = true ∨ ∃ change ∈ changes, change.Denies hive path := by
  induction changes generalizing registry with
  | nil => simp
  | cons change changes ih =>
    rw [List.foldl_cons, ih, isDenied_apply_iff, List.exists_mem_cons_iff, or_assoc]

end Changes

/-! ### Denied paths in a session -/

namespace Session

/-- The registry of a name denies a path. -/
def Denies (session : Session) (name : String) (hive : Hive) (path : String) : Prop :=
  ∃ member, session.member? name = some member ∧ member.registry.isDenied hive path = true

/-- A step that puts no registry in place under a name, but for changes of the one that is
there. -/
def Retains (name : String) (step : String × Action) : Prop :=
  step.2.target? step.1 = some name → ∃ change, step.2 = .change change

theorem retains_change {name asked : String} {change : Change} :
    Retains name (asked, .change change) :=
  fun _ => ⟨change, rfl⟩

section Steps

variable {session : Session} {name asked : String} {hive : Hive} {path other : String}

/-- A change puts the registry in place that it makes of the one there, or of an empty one. -/
theorem member?_step_change (session : Session) (name : String) (change : Change) :
    let member := (session.mention name).2
    (session.step name (.change change)).1.member? name =
      some ⟨change.apply member.registry, member.family⟩ :=
  (member?_putMember _ name name _).trans (if_pos rfl)

theorem denies_step_denyAccess (session : Session) (name : String) (hive : Hive)
    (path : String) :
    (session.step name (.change (.denyAccess hive path))).1.Denies name hive path :=
  ⟨_, member?_step_change session name _, isDenied_apply_iff.mpr (.inr ⟨rfl, rfl⟩)⟩

theorem Denies.congr (denies : session.Denies name hive path)
    (same : foldPath other = foldPath path) : session.Denies name hive other := by
  obtain ⟨member, found, denied⟩ := denies
  exact ⟨member, found, (Registry.isDenied_congr same).trans denied⟩

/-- A denial outlasts every step that puts no other registry in place. -/
theorem Denies.step (denies : session.Denies name hive path) {action : Action}
    (retains : Retains name (asked, action)) :
    (session.step asked action).1.Denies name hive path := by
  obtain ⟨member, found, denied⟩ := denies
  by_cases here : action.target? asked = some name
  · -- Under this name nothing but a change is put in place, and no change lifts a denial.
    obtain ⟨change, rfl⟩ := retains here
    obtain rfl : asked = name := Option.some.inj here
    refine ⟨_, member?_step_change session asked change, isDenied_apply_iff.mpr (.inl ?_)⟩
    rw [mention_of_member? found]
    exact denied
  · exact ⟨member, member?_step_of_ne_target found here, denied⟩

theorem Denies.run (denies : session.Denies name hive path) {actions : List (String × Action)}
    (retain : ∀ step ∈ actions, Retains name step) :
    (session.run actions).1.Denies name hive path := by
  induction actions generalizing session with
  | nil => exact denies
  | cons step actions ih =>
    obtain ⟨asked, action⟩ := step
    have next := denies.step (retain _ List.mem_cons_self)
    exact ih next fun step mem => retain step (List.mem_cons_of_mem _ mem)

/-! ### What a denial answers -/

theorem setCounters_countersOf (session : Session) (family : Nat) :
    session.setCounters family (session.countersOf family) = session := by
  have same : session.counters.set family (session.countersOf family) = session.counters := by
    rcases Nat.lt_or_ge family session.counters.length with known | unknown
    · rw [countersOf, List.getElem?_eq_getElem known]
      exact List.set_getElem_self known
    · exact List.set_eq_of_length_le unknown
  rw [setCounters, same]

/-- One who opens a denied path is told so, and the session stays as it is. -/
theorem Denies.step_openKey (denies : session.Denies name hive path) (handle : String) :
    session.step name (.openKey hive path handle) = (session, .storeFailure .accessDenied) := by
  obtain ⟨member, found, denied⟩ := denies
  simp only [Session.step, mention_of_member? found, openHandle,
    Registry.openKey_of_isDenied denied]

/-- So is one who reads a value there, at every capacity that a store can be asked for. -/
theorem Denies.step_read (denies : session.Denies name hive path) (valueName : String)
    {maxChars : Nat} (fits : maxChars ≤ 2147483647) :
    session.step name (.read hive path valueName maxChars) =
      (session, .read (.error (.store .accessDenied))) := by
  obtain ⟨member, found, denied⟩ := denies
  have refused : (Store.ofRegistry member.registry).openKey hive path = .error .accessDenied := by
    simp only [Store.ofRegistry, Registry.openKey_of_isDenied denied]
    rfl
  have ran : (readString hive path valueName maxChars).runOn (.ofRegistry member.registry)
      (.ofPairs []) (session.countersOf member.family) =
        ⟨.error (.store .accessDenied), [.openKey hive path],
          ⟨session.countersOf member.family, none⟩⟩ :=
    run_readString_of_reads (.openFails fits (reply_openKey_of_error refused))
  simp only [Session.step, mention_of_member? found, runScript, ran, setCounters_countersOf]

end Steps

/-- **A denial is permanent, and it covers every spelling.** Whatever keys a registry holds,
once a path is denied no run of changes opens it again under any spelling. Nor does a session
in which anything else is done, as long as no other registry is put in place: who opens the path
or reads from it is refused, and the counters and handles stay as they are. -/
theorem denial_is_permanent {hive : Hive} {path other : String}
    (same : foldPath other = foldPath path) :
    (∀ (registry : Registry) (changes : List Change),
      (changes.foldl (fun registry change => change.apply registry)
        (registry.denyAccess hive path)).openKey hive other = .error .accessDenied) ∧
    ∀ (session : Session) (name : String) (actions : List (String × Action)),
      (∀ step ∈ actions, Retains name step) →
      let after := (session.run ((name, .change (.denyAccess hive path)) :: actions)).1
      (∀ handle : String, after.step name (.openKey hive other handle) =
        (after, .storeFailure .accessDenied)) ∧
      ∀ (valueName : String) (maxChars : Nat), maxChars ≤ 2147483647 →
        after.step name (.read hive other valueName maxChars) =
          (after, .read (.error (.store .accessDenied))) := by
  constructor
  · intro registry changes
    apply Registry.openKey_of_isDenied
    have denied : ((Change.denyAccess hive path).apply registry).isDenied hive path = true :=
      isDenied_apply_iff.mpr (.inr ⟨rfl, rfl⟩)
    rw [isDenied_foldl_iff, Registry.isDenied_congr same]
    exact .inl denied
  · intro session name actions retain after
    have denies : after.Denies name hive other :=
      ((denies_step_denyAccess session name hive path).run retain).congr same
    exact ⟨denies.step_openKey, fun valueName _ fits => denies.step_read valueName fits⟩

/-- A key with two spellings, one of them denied through a third; then the key is changed under
each of them, and other registries come and go. -/
theorem denial_is_permanent_spelledTwice :
    let registry : Registry := ⟨some ⟨[("K", .empty), ("k", .empty)], by decide⟩, none⟩
    let session : Session := ⟨[("r", ⟨registry, 0⟩)], [], [.zero]⟩
    let actions : List (String × Action) :=
      [("r", .change (.setString .localMachine "k" "V" "text")), ("q", .fresh),
        ("r", .copy "q"), ("q", .fresh), ("r", .change (.addKey .localMachine "\\K\\"))]
    let after := (session.run (("r", .change (.denyAccess .localMachine "\\k")) :: actions)).1
    foldPath "K\\" = foldPath "\\k" ∧ (∀ step ∈ actions, Retains "r" step) ∧
      after.step "r" (.openKey .localMachine "K\\" "h") = (after, .storeFailure .accessDenied) ∧
      after.step "r" (.read .localMachine "K\\" "V" 2147483647) =
        (after, .read (.error (.store .accessDenied))) := by
  intro registry session actions after
  have same : foldPath "K\\" = foldPath "\\k" := by decide +kernel
  have retain : ∀ step ∈ actions, Retains "r" step := by
    simp only [actions, List.forall_mem_cons]
    refine ⟨retains_change, ?_, ?_, ?_, retains_change, List.forall_mem_nil _⟩
    all_goals exact fun here => absurd here (by decide)
  obtain ⟨opens, reads⟩ := (denial_is_permanent same).2 session "r" actions retain
  exact ⟨same, retain, opens "h", reads "V" 2147483647 (Nat.le_refl _)⟩

end Session

end RuntimeLocator
