/-
Paths never outgrow their buffers.

A buffer takes the path that a join would give in a buffer without end, whole, or it
refuses it and stays as it was; the report of a refusal names the room that the join
would have needed (`tryAppend_spec`). One append keeps the capacity, so every run of
appends does, and what holds of one append holds at each point of a run
(`paths_within_capacity`, which also says it of resolutions).
-/

import Mathlib.Data.List.TakeWhile
import RuntimeLocator.Lookup.Store
import RuntimeLocator.Proofs.Lookup.Resolution

namespace RuntimeLocator

open Script

namespace PathBuffer

/-! ### One path -/

theorem hold_eq_ok_iff {path : String} {capacity : Nat} {buffer : PathBuffer} :
    hold path capacity = .ok buffer ↔ buffer.path = path ∧ buffer.capacity = capacity := by
  unfold hold
  split
  · rename_i fits
    constructor
    · intro held
      cases held
      exact ⟨rfl, rfl⟩
    · rintro ⟨rfl, rfl⟩
      rfl
  · rename_i overflows
    constructor
    · intro held
      cases held
    · rintro ⟨rfl, rfl⟩
      exact absurd buffer.fits overflows

theorem hold_eq_error_iff {path : String} {capacity : Nat} {failure : LookupFailure} :
    hold path capacity = .error failure ↔
      capacity < Utf16.units path + 1 ∧
        failure = .capacityExceeded (Utf16.units path + 1) capacity := by
  unfold hold
  split
  · rename_i fits
    simp only [reduceCtorEq, false_iff, not_and]
    intro overflows
    exact absurd fits (Nat.not_le.mpr overflows)
  · rename_i overflows
    rw [Except.error.injEq, eq_comm]
    exact (and_iff_right (Nat.not_le.mp overflows)).symm

/-! ### One append -/

/-- An append that succeeds leaves the joined path in a buffer of the same capacity. -/
theorem append_eq_ok_iff {buffer next : PathBuffer} {component : String} :
    buffer.append component = .ok next ↔
      next.path = Path.join buffer.path component ∧ next.capacity = buffer.capacity :=
  hold_eq_ok_iff

/-- An append fails exactly when the joined path leaves no room for a terminator. -/
theorem append_eq_error_iff {buffer : PathBuffer} {component : String}
    {failure : LookupFailure} :
    buffer.append component = .error failure ↔
      buffer.capacity < Utf16.units (Path.join buffer.path component) + 1 ∧
        failure = .capacityExceeded (Utf16.units (Path.join buffer.path component) + 1)
          buffer.capacity :=
  hold_eq_error_iff

@[simp] theorem capacity_tryAppend (buffer : PathBuffer) (component : String) :
    (buffer.tryAppend component).1.capacity = buffer.capacity := by
  unfold tryAppend
  split
  · rename_i next appends
    exact (append_eq_ok_iff.mp appends).2
  · rfl

/-- What a caller sees of one append. -/
inductive Attempt (buffer : PathBuffer) (component : String) :
    PathBuffer × Option LookupFailure → Prop where
  /-- The joined path fits and is taken as it is. -/
  | taken {next : PathBuffer}
      (path : next.path = Path.join buffer.path component)
      (capacity : next.capacity = buffer.capacity) :
      Attempt buffer component (next, none)
  /-- The joined path does not fit, and the buffer stays as it was. -/
  | refused {required : Nat}
      (needs : required = (Utf16.encode (Path.join buffer.path component)).length + 1)
      (overflows : buffer.capacity < required) :
      Attempt buffer component (buffer, some (.capacityExceeded required buffer.capacity))

theorem tryAppend_spec (buffer : PathBuffer) (component : String) :
    Attempt buffer component (buffer.tryAppend component) := by
  unfold tryAppend
  cases appends : buffer.append component with
  | ok next =>
    obtain ⟨path, capacity⟩ := append_eq_ok_iff.mp appends
    exact .taken path capacity
  | error failure =>
    obtain ⟨overflows, rfl⟩ := append_eq_error_iff.mp appends
    exact .refused (by rw [Utf16.length_encode]) overflows

/-! ### Runs of appends -/

@[simp] theorem capacity_appendEach (buffer : PathBuffer) (components : List String) :
    (buffer.appendEach components).1.capacity = buffer.capacity := by
  induction components generalizing buffer with
  | nil => rfl
  | cons component components ih =>
    exact (ih (buffer.tryAppend component).1).trans (capacity_tryAppend buffer component)

/-- A run goes on from where the run before it left the buffer. -/
theorem appendEach_append (buffer : PathBuffer) (before after : List String) :
    buffer.appendEach (before ++ after) =
      (((buffer.appendEach before).1.appendEach after).1,
        (buffer.appendEach before).2 ++ ((buffer.appendEach before).1.appendEach after).2) := by
  induction before generalizing buffer with
  | nil => rfl
  | cons component before ih =>
    simp only [List.cons_append, appendEach, ih]

/-- A buffer with room enough takes the joined path, so the join is what an append gives
where nothing bounds it. -/
theorem append_of_room {buffer : PathBuffer} {component : String}
    (room : (Utf16.encode (Path.join buffer.path component)).length < buffer.capacity) :
    (buffer.append component).map PathBuffer.path = .ok (Path.join buffer.path component) := by
  rw [Utf16.length_encode] at room
  cases appends : buffer.append component with
  | ok next =>
    rw [← (append_eq_ok_iff.mp appends).1]
    rfl
  | error failure =>
    have overflows := (append_eq_error_iff.mp appends).1
    exact absurd room (Nat.not_lt.mpr (Nat.le_of_lt_succ overflows))

/-- Separators alone are taken without a longer path to check. -/
theorem tryAppend_of_separators {buffer : PathBuffer} {component : String}
    (separators : component.toList.all Path.isSeparator = true) :
    buffer.tryAppend component = (buffer, none) := by
  have nothing : component.toList.dropWhile Path.isSeparator = [] :=
    List.dropWhile_eq_nil_iff.mpr (List.all_eq_true.mp separators)
  have same : Path.join buffer.path component = buffer.path := by
    simp [Path.join, Path.joinChars, nothing]
  have appends : buffer.append component = .ok buffer :=
    append_eq_ok_iff.mpr ⟨same.symm, rfl⟩
  simp [tryAppend, appends]

end PathBuffer

/-! ### Resolutions -/

theorem capacity_of_versioned {seeded versioned : PathBuffer} {version : Option String}
    (pins : Versioned seeded version versioned) : versioned.capacity = seeded.capacity := by
  cases pins with
  | unpinned => rfl
  | pinned appends => exact (PathBuffer.append_eq_ok_iff.mp appends).2

theorem units_lt_of_composed {settings : Settings} {maxChars : Nat} {source : RootSource}
    {root : String} {version : Option String} {resolution : Resolution}
    (composed : Composed settings maxChars source root version (.ok resolution)) :
    Utf16.units resolution.path + 1 ≤ maxChars := by
  cases composed with
  | @succeeds _ seeded versioned final seeds pins appends =>
    calc Utf16.units final.path + 1 ≤ final.capacity := final.fits
      _ = versioned.capacity := (PathBuffer.append_eq_ok_iff.mp appends).2
      _ = seeded.capacity := capacity_of_versioned pins
      _ = maxChars := (PathBuffer.hold_eq_ok_iff.mp seeds).2

/-- **No path outgrows its capacity.** At every point of a run of appends the path leaves
room for a terminator, and the next append either takes the joined path whole or leaves the
buffer as it is and reports what the join would need; any buffer with that much room would
take the join. Separators alone are always taken, and change nothing. A path that is
resolved leaves room for a terminator too, whatever the host answers. -/
theorem paths_within_capacity :
    (∀ (root : String) (capacity : Nat) (start : PathBuffer),
      PathBuffer.hold root capacity = .ok start →
      ∀ components : List String,
        let now := (start.appendEach components).1
        now.capacity = capacity ∧ (Utf16.encode now.path).length + 1 ≤ capacity ∧
        ∀ component : String,
          let next := now.tryAppend component
          start.appendEach (components ++ [component]) =
              (next.1, (start.appendEach components).2 ++ [(next.1.path, next.2)]) ∧
            PathBuffer.Attempt now component next ∧
            (component.toList.all Path.isSeparator = true → next = (now, none)) ∧
            ∀ roomy : PathBuffer, roomy.path = now.path →
              (Utf16.encode (Path.join now.path component)).length < roomy.capacity →
              (roomy.append component).map PathBuffer.path =
                .ok (Path.join now.path component)) ∧
    ∀ (σ : Type) (host : Host σ) (settings : Settings) (maxChars : Nat) (start : σ)
      (resolution : Resolution),
      ((resolve settings maxChars).run host start).answer = .ok resolution →
        (Utf16.encode resolution.path).length + 1 ≤ maxChars := by
  refine ⟨fun root capacity start held components => ?_,
    fun σ host settings maxChars start resolution answers => ?_⟩
  · have kept : (start.appendEach components).1.capacity = capacity := by
      rw [PathBuffer.capacity_appendEach]
      exact (PathBuffer.hold_eq_ok_iff.mp held).2
    refine ⟨kept, ?_, fun component => ⟨?_, PathBuffer.tryAppend_spec _ _,
      PathBuffer.tryAppend_of_separators, ?_⟩⟩
    · rw [Utf16.length_encode, ← kept]
      exact PathBuffer.fits _
    · exact PathBuffer.appendEach_append start components [component]
    · intro roomy path room
      rw [← path] at room ⊢
      exact PathBuffer.append_of_room room
  · obtain ⟨root, -, composed⟩ := exists_supplied_of_answer_ok answers
    rw [Utf16.length_encode]
    exact units_lt_of_composed composed

/-- A drive in a buffer of eight units takes one short component and has no room for the
next, and a store that ignores how many bytes it is offered makes no path too long. -/
theorem paths_within_capacity_drive :
    let start : PathBuffer := ⟨"C:\\", 8, by decide⟩
    let now := (start.appendEach ["WPF"]).1
    let roomy : PathBuffer := ⟨"C:\\WPF", 9, by decide⟩
    let host := (Store.answering (.ok (.string "C:\\Fw"))).host (.ofPairs [])
    let resolution : Resolution := ⟨"C:\\Fw\\WPF", .registeredInstallPath, none⟩
    (PathBuffer.hold "C:\\" 8 = .ok start ∧
      (Utf16.encode now.path).length + 1 ≤ 8 ∧ PathBuffer.Attempt now "b" (now.tryAppend "b")) ∧
    ("\\/".toList.all Path.isSeparator = true ∧ now.tryAppend "\\/" = (now, none)) ∧
    (roomy.path = now.path ∧ (Utf16.encode (Path.join now.path "b")).length < roomy.capacity ∧
      (roomy.append "b").map PathBuffer.path = .ok (Path.join now.path "b")) ∧
    ((resolve .standard 260).run host ⟨.zero, none⟩).answer = .ok resolution ∧
    (Utf16.encode resolution.path).length + 1 ≤ 260 := by
  intro start now roomy host resolution
  have held : PathBuffer.hold "C:\\" 8 = .ok start := by decide
  have answers : ((resolve .standard 260).run host ⟨.zero, none⟩).answer = .ok resolution := by
    decide
  have separators : "\\/".toList.all Path.isSeparator = true := by decide
  have same : roomy.path = now.path := by decide
  have room : (Utf16.encode (Path.join now.path "b")).length < roomy.capacity := by decide
  obtain ⟨-, fits, next⟩ := paths_within_capacity.1 "C:\\" 8 start held ["WPF"]
  exact ⟨⟨held, fits, (next "b").2.1⟩, ⟨separators, (next "\\/").2.2.1 separators⟩,
    ⟨same, room, (next "b").2.2.2 roomy same room⟩, answers,
    paths_within_capacity.2 _ host .standard 260 ⟨.zero, none⟩ resolution answers⟩

end RuntimeLocator
