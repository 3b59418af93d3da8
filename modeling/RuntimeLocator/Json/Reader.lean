/-
Readers: functions that take a value from the front of a text or report the first
fault they meet. A reader never gives back more text than it was given, which is
part of its type, so a loop over a reader ends (`Reader.iterate`).
-/

import RuntimeLocator.Json.Fault

namespace RuntimeLocator.Json

/-- Takes a value from the front of a text; what is left is no longer than the text. -/
structure Reader (α : Type) where
  run : List Char → Except Fault (α × List Char)
  length_le : ∀ {s a r}, run s = .ok (a, r) → r.length ≤ s.length

namespace Reader

variable {α β σ : Type}

protected def pure (a : α) : Reader α where
  run s := .ok (a, s)
  length_le h := by
    obtain ⟨-, rfl⟩ := Prod.mk.inj (Except.ok.inj h)
    exact Nat.le_refl _

/-- One reader after the other; the first fault ends the reading. -/
protected def bind (x : Reader α) (f : α → Reader β) : Reader β where
  run s :=
    match x.run s with
    | .error fault => .error fault
    | .ok (a, r) => (f a).run r
  length_le h := by
    split at h
    · cases h
    · rename_i a r hx
      exact Nat.le_trans ((f a).length_le h) (x.length_le hx)

instance : Monad Reader where
  pure := Reader.pure
  bind := Reader.bind

@[simp] theorem run_pure (a : α) (s : List Char) : (pure a : Reader α).run s = .ok (a, s) := rfl

theorem run_bind (x : Reader α) (f : α → Reader β) (s : List Char) :
    (x >>= f).run s =
      match x.run s with
      | .error fault => .error fault
      | .ok (a, r) => (f a).run r := rfl

/-- A first step that succeeds hands its rest on. -/
theorem run_bind_of_ok {x : Reader α} {f : α → Reader β} {s r : List Char} {a : α}
    (h : x.run s = .ok (a, r)) : (x >>= f).run s = (f a).run r := by
  rw [run_bind, h]

/-- Reports a fault. -/
def fail (fault : Fault) : Reader α where
  run _ := .error fault
  length_le h := by cases h

/-- The next character, which stays in the text. -/
def peek : Reader (Option Char) where
  run s := .ok (s.head?, s)
  length_le h := by
    obtain ⟨-, rfl⟩ := Prod.mk.inj (Except.ok.inj h)
    exact Nat.le_refl _

/-- Passes over the next character, of which there must be one. -/
def advance : Reader Unit where
  run
    | [] => .error (.ended .value)
    | _ :: s => .ok ((), s)
  length_le {s _ _} h := by
    cases s with
    | nil => cases h
    | cons c s =>
      obtain ⟨-, rfl⟩ := Prod.mk.inj (Except.ok.inj h)
      exact Nat.le_succ _

@[simp] theorem run_peek (s : List Char) : peek.run s = .ok (s.head?, s) := rfl

@[simp] theorem run_advance (c : Char) (s : List Char) : advance.run (c :: s) = .ok ((), s) := rfl

@[simp] theorem run_fail (fault : Fault) (s : List Char) :
    (fail fault : Reader α).run s = .error fault := rfl

/-- JSON's white space. -/
def isSpace (c : Char) : Bool :=
  c == ' ' || c == '\t' || c == '\n' || c == '\r'

/-- Passes over white space. -/
def blank : Reader Unit where
  run s := .ok ((), s.dropWhile isSpace)
  length_le h := by
    obtain ⟨-, rfl⟩ := Prod.mk.inj (Except.ok.inj h)
    exact (List.dropWhile_sublist isSpace).length_le

@[simp] theorem run_blank (s : List Char) : blank.run s = .ok ((), s.dropWhile isSpace) := rfl

/-- The first character after white space, which stays in the text. -/
def peekAfterBlank : Reader (Option Char) := do
  blank
  peek

@[simp] theorem run_peekAfterBlank (s : List Char) :
    peekAfterBlank.run s = .ok ((s.dropWhile isSpace).head?, s.dropWhile isSpace) := rfl

/-- Passes over the given characters, which must come next. -/
def word : List Char → Reader Unit
  | [] => pure ()
  | c :: cs => do
    match ← peek with
    | none => fail (.ended .value)
    | some d =>
      if d = c then do
        advance
        word cs
      else fail (.malformed .identExpected)

/-! ### Readers that take something -/

/-- A reader that takes at least one character whenever it succeeds. -/
def Consumes (x : Reader α) : Prop :=
  ∀ ⦃s a r⦄, x.run s = .ok (a, r) → r.length < s.length

theorem consumes_fail (fault : Fault) : (fail fault : Reader α).Consumes := nofun

theorem consumes_advance : advance.Consumes := by
  intro s _ r h
  cases s with
  | nil => cases h
  | cons c s =>
    obtain ⟨-, rfl⟩ := Prod.mk.inj (Except.ok.inj h)
    exact Nat.lt_succ_self _

theorem consumes_bind_left {x : Reader α} (f : α → Reader β) (hx : x.Consumes) :
    (x >>= f).Consumes := by
  intro s b r h
  rw [run_bind] at h
  split at h
  · cases h
  · rename_i a t ht
    exact Nat.lt_of_le_of_lt ((f a).length_le h) (hx ht)

theorem consumes_bind_right (x : Reader α) {f : α → Reader β} (hf : ∀ a, (f a).Consumes) :
    (x >>= f).Consumes := by
  intro s b r h
  rw [run_bind] at h
  split at h
  · cases h
  · rename_i a t ht
    exact Nat.lt_of_lt_of_le (hf a h) (x.length_le ht)

theorem consumes_word (c : Char) (cs : List Char) : (word (c :: cs)).Consumes := by
  unfold word
  refine consumes_bind_right _ fun next => ?_
  cases next with
  | none => exact consumes_fail _
  | some d =>
    dsimp only
    split
    · exact consumes_bind_left _ consumes_advance
    · exact consumes_fail _

/-- A reader that takes at least one character whenever it succeeds with a value that
satisfies `p`. -/
def ConsumesIf (p : α → Prop) (x : Reader α) : Prop :=
  ∀ ⦃s a r⦄, x.run s = .ok (a, r) → p a → r.length < s.length

theorem Consumes.consumesIf {x : Reader α} (p : α → Prop) (hx : x.Consumes) : x.ConsumesIf p :=
  fun _ _ _ h _ => hx h

theorem consumesIf_pure {p : α → Prop} {a : α} (ha : ¬ p a) :
    (pure a : Reader α).ConsumesIf p := by
  intro s b r h hb
  obtain ⟨rfl, -⟩ := Prod.mk.inj (Except.ok.inj h)
  exact absurd hb ha

theorem consumesIf_bind {x : Reader α} {f : α → Reader β} {p : α → Prop} {q : β → Prop}
    (hx : x.ConsumesIf p) (hf : ∀ a, ¬ p a → (f a).ConsumesIf q) : (x >>= f).ConsumesIf q := by
  intro s b r h hb
  rw [run_bind] at h
  split at h
  · cases h
  · rename_i a t ht
    by_cases ha : p a
    · exact Nat.lt_of_le_of_lt ((f a).length_le h) (hx ht ha)
    · exact Nat.lt_of_lt_of_le (hf a ha h hb) (x.length_le ht)

theorem consumesIf_bind_right (x : Reader α) {f : α → Reader β} {q : β → Prop}
    (hf : ∀ a, (f a).ConsumesIf q) : (x >>= f).ConsumesIf q := by
  intro s b r h hb
  rw [run_bind] at h
  split at h
  · cases h
  · rename_i a t ht
    exact Nat.lt_of_lt_of_le (hf a h hb) (x.length_le ht)

/-! ### Loops -/

/-- A step that goes on only after taking something from the text. -/
def Progresses (step : σ → Reader (Option σ)) : Prop :=
  ∀ state, (step state).ConsumesIf (·.isSome)

/-- Repeats a step until it answers `none`, and gives the last state. -/
def iterateRun (step : σ → Reader (Option σ)) (progress : Progresses step) (state : σ)
    (s : List Char) : Except Fault (σ × List Char) :=
  match _taken : (step state).run s with
  | .error fault => .error fault
  | .ok (none, r) => .ok (state, r)
  | .ok (some state', r) => iterateRun step progress state' r
termination_by s.length
decreasing_by exact progress _ _taken rfl

theorem length_iterateRun_le {step : σ → Reader (Option σ)} {progress : Progresses step}
    {state final : σ} {s r : List Char}
    (h : iterateRun step progress state s = .ok (final, r)) : r.length ≤ s.length := by
  fun_induction iterateRun step progress state s with
  | case1 => cases h
  | case2 state s r' hs =>
    obtain ⟨-, rfl⟩ := Prod.mk.inj (Except.ok.inj h)
    exact (step state).length_le hs
  | case3 state s state' r' hs ih =>
    exact Nat.le_trans (ih h) ((step state).length_le hs)

/-- The reader that repeats a step until it answers `none`. -/
def iterate (step : σ → Reader (Option σ)) (progress : Progresses step) (state : σ) :
    Reader σ where
  run := iterateRun step progress state
  length_le := length_iterateRun_le

/-- A loop does one step and, unless that was the last, goes on from the new state. -/
theorem run_iterate (step : σ → Reader (Option σ)) (progress : Progresses step) (state : σ)
    (s : List Char) :
    (iterate step progress state).run s =
      match (step state).run s with
      | .error fault => .error fault
      | .ok (none, r) => .ok (state, r)
      | .ok (some state', r) => (iterate step progress state').run r := by
  show iterateRun step progress state s = _
  rw [iterateRun]
  split <;> simp_all [iterate]

end Reader

end RuntimeLocator.Json
