/-
Terminators inside of texts.

Where the bytes of a value are decoded, a text ends at its first terminator, and what stands
after it is left out (`nativeText_textBytes_eq`). A registry that is held in memory has no
bytes to decode: it answers with the text that it was given, and neither a read nor a
resolution looks for a terminator in it. So a text that is read ends at its first terminator
only where it has none, and a path has a terminator wherever one of its parts does
(`terminators_kept`).
-/

import RuntimeLocator.Proofs.Lookup.Room
import RuntimeLocator.Proofs.Path.Components
import RuntimeLocator.Proofs.Registry.Native
import RuntimeLocator.Proofs.Registry.Snapshot

namespace RuntimeLocator

/-! ### Texts up to their terminator -/

/-- A text before its first terminator, or all of it. -/
def upToTerminator (text : String) : String :=
  String.ofList (text.toList.takeWhile (· ≠ '\x00'))

section Texts

variable {text : String}

theorem not_mem_upToTerminator (text : String) : '\x00' ∉ (upToTerminator text).toList := by
  rw [upToTerminator, String.toList_ofList]
  intro mem
  simpa using List.mem_takeWhile_imp mem

theorem upToTerminator_eq_self_iff : upToTerminator text = text ↔ '\x00' ∉ text.toList := by
  constructor
  · intro whole
    rw [← whole]
    exact not_mem_upToTerminator text
  · intro visible
    have kept : text.toList.takeWhile (· ≠ '\x00') = text.toList := by
      refine List.takeWhile_eq_self_iff.mpr fun c mem => decide_eq_true ?_
      rintro rfl
      exact visible mem
    rw [upToTerminator, kept, String.ofList_toList]

/-- The units before the first zero unit are those of the characters before the first
terminator: the terminator is the only character with a zero unit. -/
theorem takeWhile_flatMap_encodeChar (chars : List Char) (rest : List UInt16) :
    (chars.flatMap Utf16.encodeChar ++ 0 :: rest).takeWhile (· ≠ 0) =
      (chars.takeWhile (· ≠ '\x00')).flatMap Utf16.encodeChar := by
  -- By the characters: either all units of one are passed over, or it has the first zero unit.
  induction chars with
  | nil => simp
  | cons c chars ih =>
    by_cases ends : c = '\x00'
    · subst ends
      rfl
    · have visible := Utf16.ne_zero_of_mem_encodeChar ends
      have goesOn : (c :: chars).takeWhile (· ≠ '\x00') = c :: chars.takeWhile (· ≠ '\x00') :=
        List.takeWhile_cons_of_pos (decide_eq_true ends)
      rw [List.flatMap_cons, List.append_assoc,
        List.takeWhile_append_of_pos fun u mem => decide_eq_true (visible u mem), ih, goesOn,
        List.flatMap_cons]

/-- The bytes that a registry holds for a text are decoded up to the first terminator. -/
theorem nativeText_textBytes_eq (text : String) :
    Value.nativeText (textBytes text) = upToTerminator text := by
  have units : littleEndianUnits (textBytes text) = Utf16.encode text ++ [0] := by
    have read := littleEndianUnits_textBytes_append text []
    rwa [List.append_nil] at read
  have before : (Utf16.encode text ++ [0]).takeWhile (· ≠ 0) =
      Utf16.encode (upToTerminator text) := by
    rw [Utf16.encode, takeWhile_flatMap_encodeChar, Utf16.encode, upToTerminator,
      String.toList_ofList]
  rw [Value.nativeText, units, before, Utf16.decode_encode]

end Texts

/-! ### Paths -/

namespace Path

variable {c : Char}

theorem mem_resolved_iff (visible : isSeparator c = false) {settings : Settings}
    {version : Option String} {root : String} :
    c ∈ (resolved settings version root).toList ↔
      c ∈ root.toList ∨ (∃ pinned ∈ version, c ∈ pinned.toList) ∨
        c ∈ settings.productDirectory.toList := by
  rw [resolved, mem_join_iff visible, ← or_assoc]
  cases version with
  | none => simp [versioned]
  | some pinned => simp [versioned, mem_join_iff visible]

end Path

/-! ### Reads and resolutions -/

section Registry

variable {registry : Registry} {env : Environment} {counters : Counters}

/-- A read that succeeds on a registry gives the text of a value as it was stored. -/
theorem finding_of_readString {hive : Hive} {keyPath valueName text : String} {maxChars : Nat}
    (reads : ((readString hive keyPath valueName maxChars).runOn (.ofRegistry registry) env
      counters).answer = .ok text) :
    registry.finding hive keyPath valueName = .readable (some (.string text)) := by
  rw [Script.runOn, answer_readString] at reads
  obtain ⟨-, stored, -⟩ := readString_eq_ok_iff.mp reads
  exact root?_value_eq_some_iff.mp stored

/-- A resolution that succeeds under a tier that reads its root was composed of the text of a
value as it was stored. -/
theorem finding_of_resolve {settings : Settings} {maxChars : Nat} {resolution : Resolution}
    (resolves : ((resolve settings maxChars).runOn (.ofRegistry registry) env counters).answer =
      .ok resolution)
    {keyPath valueName : String}
    (registered : (env.tier settings).origin = .value keyPath valueName) :
    ∃ root : String,
      registry.finding settings.hive keyPath valueName = .readable (some (.string root)) ∧
      resolution.path = Path.resolved settings resolution.version root := by
  rw [Script.runOn, answer_resolve] at resolves
  obtain ⟨-, -, root, stored, -, rfl⟩ := (resolution_eq_ok_iff rfl).mp resolves
  rw [registered] at stored
  exact ⟨root, root?_value_eq_some_iff.mp stored, rfl⟩

/-- **A terminator inside of a stored text is kept.** A read that succeeds gives the text as it
was stored, which is the text up to its terminator only where it has none. The path of a
resolution whose root is stored has a terminator exactly where the root, the version or the
product directory has one. The bytes of the same text are decoded up to the terminator. -/
theorem terminators_kept (registry : Registry) (env : Environment) (counters : Counters) :
    (∀ (hive : Hive) (keyPath valueName : String) (maxChars : Nat) (text : String),
      ((readString hive keyPath valueName maxChars).runOn (.ofRegistry registry) env
        counters).answer = .ok text →
      ∃ stored : String,
        registry.finding hive keyPath valueName = .readable (some (.string stored)) ∧
        text = stored ∧
        (text = upToTerminator stored ∧ '\x00' ∉ text.toList ↔ '\x00' ∉ stored.toList)) ∧
    (∀ (settings : Settings) (maxChars : Nat) (resolution : Resolution)
      (keyPath valueName : String),
      ((resolve settings maxChars).runOn (.ofRegistry registry) env counters).answer =
        .ok resolution →
      (env.tier settings).origin = .value keyPath valueName →
      ∃ stored : String,
        registry.finding settings.hive keyPath valueName = .readable (some (.string stored)) ∧
        ('\x00' ∈ resolution.path.toList ↔
          '\x00' ∈ stored.toList ∨ (∃ version ∈ resolution.version, '\x00' ∈ version.toList) ∨
            '\x00' ∈ settings.productDirectory.toList)) ∧
    ∀ text : String,
      Value.ofNative .string (Value.string text).native = .string (upToTerminator text) := by
  refine ⟨?_, ?_, ?_⟩
  · intro hive keyPath valueName maxChars text reads
    refine ⟨text, finding_of_readString reads, rfl, ?_⟩
    constructor
    · exact fun ends => ends.2
    · exact fun visible => ⟨(upToTerminator_eq_self_iff.mpr visible).symm, visible⟩
  · intro settings maxChars resolution keyPath valueName resolves registered
    obtain ⟨root, stored, path⟩ := finding_of_resolve resolves registered
    refine ⟨root, stored, ?_⟩
    rw [path]
    exact Path.mem_resolved_iff (by decide)
  · intro text
    exact congrArg Value.string (nativeText_textBytes_eq text)

/-- A root without a terminator, read and resolved under a pinned version. -/
theorem terminators_kept_installed :
    let env : Environment := .ofPairs [("V", "v4")]
    let resolution : Resolution := ⟨"C:\\Fw\\v4\\WPF", .registeredInstallRoot, some "v4"⟩
    ((readString .localMachine "Fw" "Root" 260).runOn (.ofRegistry installed) env .zero).answer =
        .ok "C:\\Fw" ∧
      ((resolve briefSettings 260).runOn (.ofRegistry installed) env .zero).answer =
        .ok resolution ∧
      (env.tier briefSettings).origin = .value "Fw" "Root" ∧
      (∃ stored : String,
        installed.finding .localMachine "Fw" "Root" = .readable (some (.string stored)) ∧
        "C:\\Fw" = stored ∧
        ("C:\\Fw" = upToTerminator stored ∧ '\x00' ∉ "C:\\Fw".toList ↔
          '\x00' ∉ stored.toList)) ∧
      ∃ stored : String,
        installed.finding .localMachine "Fw" "Root" = .readable (some (.string stored)) ∧
        ('\x00' ∈ resolution.path.toList ↔
          '\x00' ∈ stored.toList ∨ (∃ version ∈ resolution.version, '\x00' ∈ version.toList) ∨
            '\x00' ∈ briefSettings.productDirectory.toList) := by
  intro env resolution
  have reads : ((readString .localMachine "Fw" "Root" 260).runOn (.ofRegistry installed) env
      .zero).answer = .ok "C:\\Fw" := by decide +kernel
  have resolves : ((resolve briefSettings 260).runOn (.ofRegistry installed) env .zero).answer =
      .ok resolution := by decide +kernel
  obtain ⟨whole, composed, -⟩ := terminators_kept installed env .zero
  exact ⟨reads, resolves, rfl, whole _ _ _ _ _ reads, composed _ _ _ _ _ resolves rfl⟩

end Registry

/-- A registry with a terminator inside of an install path. -/
def terminatedInside : Registry where
  machine := some ⟨[("Ndp", ⟨⟨[("Path", .string "a\x00b")], by decide⟩, false⟩)], by simp⟩
  user := none

def terminatedInsideJson : String :=
  "\x7b\"LocalMachine\":\x7b\"Ndp\":\x7b\"values\":\x7b" ++
    "\"Path\":\x7b\"String\":\"a\\u0000b\"\x7d" ++
    "\x7d,\"access_denied\":false\x7d\x7d\x7d"

/-- A snapshot of which a text is read, and a path composed, beyond the terminator. -/
theorem read_beyond_terminator :
    Registry.ofJson terminatedInsideJson = .ok terminatedInside ∧
      ((readString .localMachine "Ndp" "Path" 260).runOn (.ofRegistry terminatedInside)
        (.ofPairs []) .zero).answer = .ok "a\x00b" ∧
      upToTerminator "a\x00b" = "a" ∧
      ((resolve briefSettings 260).runOn (.ofRegistry terminatedInside) (.ofPairs [])
        .zero).answer = .ok ⟨"a\x00b\\WPF", .registeredInstallPath, none⟩ := by
  have written : terminatedInside.toJson = terminatedInsideJson := by decide +kernel
  refine ⟨?_, by decide +kernel, by decide, by decide +kernel⟩
  rw [← written]
  exact terminatedInside.ofJson_toJson

end RuntimeLocator
