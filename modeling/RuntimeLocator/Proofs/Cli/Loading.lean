/-
What a run loads before it looks anything up: a registry and settings.

A file holds a text if its bytes are those of the text. A registry comes from the snapshot that a
request names and is empty without one. Settings come from the file that is named or else from
the default one, where that is a regular file, and they must obey every rule; only where neither
is there are they the standard ones. Loading succeeds with just what is said so
(`loadRegistry_eq_ok_iff`, `settingsFor_eq_ok_iff`), and so with at most one registry and one set
of settings.
-/

import RuntimeLocator.Cli.Run

namespace RuntimeLocator.Cli

/-! ### What files hold -/

/-- A copy of a file that holds a text. -/
def Copy.ofText (path : Path) (text : String) : Copy :=
  ⟨path, .ok true, .ok (Utf8.bytes text)⟩

/-- The file at a path holds a text. -/
def Files.Holds (files : Files) (path : Path) (text : String) : Prop :=
  files.read path = .ok (Utf8.bytes text)

/-- The file at a path holds settings that obey the rules. -/
def Files.Gives (files : Files) (path : Path) (settings : Settings) : Prop :=
  ∃ text, files.Holds path text ∧ Settings.ofJson text = .ok settings ∧ settings.violations = []

/-- Where the registry of a request comes from: a request that names no snapshot reads the
registry of the system, which is empty. -/
inductive LoadsRegistry (files : Files) : Option Path → Registry → Prop where
  | system : LoadsRegistry files none .empty
  | snapshot {path : Path} {text : String} {registry : Registry} (holds : files.Holds path text)
      (decodes : Registry.ofJson text = .ok registry) : LoadsRegistry files (some path) registry

/-- Where the settings of a run come from, given the directory of the user's configuration and the
file that is named for them. -/
inductive LoadsSettings (files : Files) (configDirectory : Option Path) :
    Option Path → Settings → Prop where
  | named {path : Path} {settings : Settings} (gives : files.Gives path settings) :
      LoadsSettings files configDirectory (some path) settings
  | usual {path : Path} {settings : Settings}
      (usually : defaultSettingsPath? configDirectory = some path)
      (there : files.isFile path = true) (gives : files.Gives path settings) :
      LoadsSettings files configDirectory none settings
  | standard (absent : ∀ path, defaultSettingsPath? configDirectory = some path →
      files.isFile path = false) :
      LoadsSettings files configDirectory none .standard

/-- What a request is answered with is loaded. -/
structure Loads (files : Files) (configDirectory : Option Path) (arguments : Arguments)
    (registry : Registry) (settings : Settings) : Prop where
  registry : LoadsRegistry files arguments.store registry
  settings : LoadsSettings files configDirectory arguments.settings settings

section Loading

variable {files : Files} {configDirectory : Option Path} {path : Path} {text : String}
  {registry : Registry} {settings : Settings}

/-! ### Reading files -/

theorem readText_eq_ok_iff : files.readText path = .ok text ↔ files.Holds path text := by
  rw [Files.readText, Files.Holds]
  cases files.read path with
  | error failure => simp only [reduceCtorEq]
  | ok data =>
    simp only [Except.ok.injEq, ← Utf8.strict?_eq_some_iff]
    cases Utf8.strict? data with
    | none => simp only [reduceCtorEq]
    | some decoded => simp only [Except.ok.injEq, Option.some_inj]

theorem loadRegistry_eq_ok_iff {snapshot : Option Path} :
    loadRegistry files snapshot = .ok registry ↔ LoadsRegistry files snapshot registry := by
  constructor
  case mp =>
    intro loads
    unfold loadRegistry at loads
    split at loads
    case h_1 =>
      cases loads
      exact .system
    case h_2 path =>
      split at loads
      case h_1 => cases loads
      case h_2 text holds =>
        split at loads
        case h_1 => cases loads
        case h_2 decoded decodes =>
          cases loads
          exact .snapshot (readText_eq_ok_iff.mp holds) decodes
  case mpr =>
    intro loads
    cases loads with
    | system => rfl
    | snapshot holds decodes => simp only [loadRegistry, readText_eq_ok_iff.mpr holds, decodes]

theorem loadSettings_eq_ok_iff :
    loadSettings files path = .ok settings ↔ files.Gives path settings := by
  constructor
  case mp =>
    intro loads
    unfold loadSettings at loads
    split at loads
    case h_1 => cases loads
    case h_2 text holds =>
      split at loads
      case h_1 => cases loads
      case h_2 decoded decodes =>
        split at loads
        case h_1 => cases loads
        case h_2 lawful =>
          cases loads
          exact ⟨text, readText_eq_ok_iff.mp holds, decodes, List.head?_eq_none_iff.mp lawful⟩
  case mpr =>
    rintro ⟨text, holds, decodes, lawful⟩
    have obeys : settings.firstViolation? = none := List.head?_eq_none_iff.mpr lawful
    simp only [loadSettings, readText_eq_ok_iff.mpr holds, decodes, obeys]

/-! ### Which settings -/

theorem settingsPath?_eq_some_iff {named : Option Path} :
    settingsPath? files configDirectory named = some path ↔
      named = some path ∨
        named = none ∧ defaultSettingsPath? configDirectory = some path ∧
          files.isFile path = true := by
  cases named with
  | none => simp only [settingsPath?, Option.filter_eq_some_iff, reduceCtorEq, false_or, true_and]
  | some named => simp only [settingsPath?, reduceCtorEq, false_and, or_false]

theorem settingsPath?_eq_none_iff {named : Option Path} :
    settingsPath? files configDirectory named = none ↔
      named = none ∧
        ∀ path, defaultSettingsPath? configDirectory = some path → files.isFile path = false := by
  cases named with
  | none =>
    simp only [settingsPath?, Option.filter_eq_none_iff, Bool.not_eq_true, true_and]
  | some named => simp only [settingsPath?, reduceCtorEq, false_and]

theorem settingsFor_eq_ok_iff {named : Option Path} :
    settingsFor files configDirectory named = .ok settings ↔
      LoadsSettings files configDirectory named settings := by
  constructor
  case mp =>
    intro loads
    unfold settingsFor at loads
    split at loads
    case h_1 unnamed =>
      obtain ⟨rfl, absent⟩ := settingsPath?_eq_none_iff.mp unnamed
      cases loads
      exact .standard absent
    case h_2 path chosen =>
      split at loads
      case h_1 => cases loads
      case h_2 loaded given =>
        cases loads
        have gives := loadSettings_eq_ok_iff.mp given
        obtain rfl | ⟨rfl, usually, there⟩ := settingsPath?_eq_some_iff.mp chosen
        · exact .named gives
        · exact .usual usually there gives
  case mpr =>
    intro loads
    cases loads with
    | named gives =>
      simp only [settingsFor, settingsPath?_eq_some_iff.mpr (.inl rfl),
        loadSettings_eq_ok_iff.mpr gives]
    | usual usually there gives =>
      simp only [settingsFor, settingsPath?_eq_some_iff.mpr (.inr ⟨rfl, usually, there⟩),
        loadSettings_eq_ok_iff.mpr gives]
    | standard absent => simp only [settingsFor, settingsPath?_eq_none_iff.mpr ⟨rfl, absent⟩]

end Loading

end RuntimeLocator.Cli
