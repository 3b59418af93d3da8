/-
What a registry holds at one place: under one name of the key at one path.

A `Finding` is all that can be learnt by opening the key and asking it for the name, in
however many bytes (`ask_eq_finding`). Changes to other places are not seen there, even
where they make the key (`ask_foldl_of_not_concerns`).
-/

import RuntimeLocator.Proofs.Registry.ReadBack

namespace RuntimeLocator

open Session (Change)

/-- What stands at a place: no key, a key that refuses to be read, or a key with its first
value under the name. -/
inductive Finding where
  | missing
  | denied
  | readable (first : Option Value)
deriving DecidableEq

/-- What is answered to one who opens the key and asks for the name. -/
def Finding.answer (maxBytes : UInt32) : Finding → Except StoreFailure Value
  | .missing => .error .notFound
  | .denied => .error .accessDenied
  | .readable none => .error .notFound
  | .readable (some value) => value.within maxBytes

/-- What a registry holds at a place. -/
def Registry.finding (registry : Registry) (hive : Hive) (path name : String) : Finding :=
  match registry.find? hive path with
  | none => .missing
  | some key =>
    if key.accessDenied then .denied else .readable (key.values.firstValue? (sameName · name))

theorem ask_eq_finding (registry : Registry) (hive : Hive) (path name : String)
    (maxBytes : UInt32) :
    (Store.ofRegistry registry).ask hive path name maxBytes =
      (registry.finding hive path name).answer maxBytes := by
  rw [ask_ofRegistry_eq, Registry.finding]
  cases registry.find? hive path with
  | none => rfl
  | some key =>
    cases denied : key.accessDenied with
    | true => simp [denied, Finding.answer]
    | false =>
      have first : key.values.firstValue? (sameName · name) =
          key.values.folded foldName (foldName name) := rfl
      simp only [denied, Bool.false_eq_true, if_false, queryValue_eq, first]
      cases key.values.folded foldName (foldName name) <;> rfl

/-! ### Changes to other places -/

/-- Whether a change is about a place, so that answers there may be others after it. A key
that is made holds nothing, so it answers as if it were not there. -/
def Session.Change.Concerns (hive : Hive) (path name : String) : Change → Prop
  | .addKey _ _ => False
  | .setValue changed key title _ | .setString changed key title _ =>
    hive = changed ∧ foldPath path = foldPath key ∧ foldName name = foldName title
  | .denyAccess changed key => hive = changed ∧ foldPath path = foldPath key

section Elsewhere

variable {hive : Hive} {path name : String}

theorem ask_addKey (registry : Registry) (changed : Hive) (key : String) (maxBytes : UInt32) :
    (Store.ofRegistry (registry.addKey changed key)).ask hive path name maxBytes =
      (Store.ofRegistry registry).ask hive path name maxBytes := by
  rw [ask_ofRegistry_eq, ask_ofRegistry_eq, Registry.addKey, Registry.find?_modifyKey]
  by_cases here : hive = changed ∧ foldPath path = foldPath key
  · obtain ⟨rfl, same⟩ := here
    rw [if_pos ⟨rfl, same⟩, registry.find?_congr hive same, Registry.foundKey]
    cases registry.find? hive key <;> rfl
  · rw [if_neg here]

theorem ask_apply_of_not_concerns {registry : Registry} {change : Change}
    (elsewhere : ¬ change.Concerns hive path name) (maxBytes : UInt32) :
    (Store.ofRegistry (change.apply registry)).ask hive path name maxBytes =
      (Store.ofRegistry registry).ask hive path name maxBytes := by
  cases change with
  | addKey changed key => exact ask_addKey registry changed key maxBytes
  | setValue changed key title value =>
    exact (ask_setValue_eq registry changed hive key title path name value maxBytes).trans
      (if_neg elsewhere)
  | setString changed key title text =>
    exact (ask_setValue_eq registry changed hive key title path name (.string text)
      maxBytes).trans (if_neg elsewhere)
  | denyAccess changed key =>
    have kept : (registry.denyAccess changed key).find? hive path = registry.find? hive path :=
      (registry.find?_modifyKey changed key _ hive path).trans (if_neg elsewhere)
    rw [ask_ofRegistry_eq, ask_ofRegistry_eq, Change.apply, kept]

/-- However often other places are changed, what is answered at a place stays. -/
theorem ask_foldl_of_not_concerns {changes : List Change} (registry : Registry)
    (elsewhere : ∀ change ∈ changes, ¬ change.Concerns hive path name) (maxBytes : UInt32) :
    (Store.ofRegistry (changes.foldl (fun registry change => change.apply registry)
        registry)).ask hive path name maxBytes =
      (Store.ofRegistry registry).ask hive path name maxBytes := by
  induction changes generalizing registry with
  | nil => rfl
  | cons change changes ih =>
    rw [List.foldl_cons, ih _ fun c mem => elsewhere c (List.mem_cons_of_mem _ mem)]
    exact ask_apply_of_not_concerns (elsewhere change List.mem_cons_self) maxBytes

end Elsewhere

end RuntimeLocator
