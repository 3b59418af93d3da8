/-
Settings files are screened when they are loaded.

A file of settings gives what its members say over the standard settings, and then the rules are
checked on the result. So loading gives these settings where they obey every rule, and elsewhere
it fails with the first rule that they break (`loadSettings_eq_ok_iff_lawful`,
`loadSettings_eq_violates_iff`).
-/

import RuntimeLocator.Proofs.Cli.Loading
import RuntimeLocator.Proofs.Settings.Overrides
import RuntimeLocator.Proofs.Settings.Rules

namespace RuntimeLocator.Cli

open Json
open Settings (Entry Written)

section Loading

variable {files : Files} {path : Path} {text : String} {settings : Settings}
  (holds : files.Holds path text) (decodes : Settings.ofJson text = .ok settings)

include holds decodes

/-- What comes of a settings file whose text is decoded. -/
theorem loadSettings_of_decodes :
    loadSettings files path =
      match settings.firstViolation? with
      | some violation => .error (.violates violation)
      | none => .ok settings := by
  have reads := readText_eq_ok_iff.mpr holds
  cases found : settings.firstViolation? <;> simp only [loadSettings, reads, decodes, found]

theorem loadSettings_eq_ok_iff_lawful :
    loadSettings files path = .ok settings ↔ settings.Lawful := by
  rw [loadSettings_of_decodes holds decodes, ← Settings.firstViolation?_eq_none_iff]
  cases settings.firstViolation? with
  | none => simp only
  | some violation => simp only [reduceCtorEq]

theorem loadSettings_eq_violates_iff {violation : Settings.Violation} :
    loadSettings files path = .error (.violates violation) ↔
      settings.FirstViolation violation := by
  rw [loadSettings_of_decodes holds decodes, ← Settings.firstViolation?_eq_some_iff]
  cases settings.firstViolation? with
  | none => simp only [reduceCtorEq]
  | some violation =>
    simp only [Except.error.injEq, SettingsFailure.violates.injEq, Option.some_inj]

end Loading

/-- **A settings file overrides the standard settings field by field and is then screened.** It is
decoded whatever the order of its members and whatever others stand between them; each field holds
what is given for it, or else what the standard settings hold; and neither that order nor those
others matter. Loading the file gives these settings if and only if they obey every rule. Elsewhere
it fails with the first rule that they break, which is a failure of the configuration. -/
theorem settings_overridden_screened {entries : List Entry} {text : String}
    (written : Written entries text) :
    ∃ settings, Settings.ofJson text = .ok settings ∧
      (∀ item value, .text item value ∈ entries → settings.get item = value) ∧
      (∀ item, (∀ value, .text item value ∉ entries) →
        settings.get item = Settings.standard.get item) ∧
      (∀ value, .hive value ∈ entries → settings.hive = value) ∧
      ((∀ value, .hive value ∉ entries) → settings.hive = Settings.standard.hive) ∧
      (∀ entries' text', Written entries' text' →
        (∀ entry : Entry, entry.IsField → (entry ∈ entries ↔ entry ∈ entries')) →
          Settings.ofJson text' = .ok settings) ∧
      ∀ files path, files.Holds path text →
        (loadSettings files path = .ok settings ↔ settings.Lawful) ∧
        (∀ violation, loadSettings files path = .error (.violates violation) ↔
          settings.FirstViolation violation) ∧
        (¬ settings.Lawful → ∃ violation, settings.FirstViolation violation ∧
          ∀ configDirectory, settingsFor files configDirectory (some path) =
            .error (.settings path (.violates violation))) := by
  refine ⟨Settings.overridden entries, Settings.ofJson_of_written written,
    fun item value => (Settings.gives_text item).view_of_mem written,
    fun item => (Settings.gives_text item).view_of_absent,
    fun value => Settings.gives_hive.view_of_mem written,
    Settings.gives_hive.view_of_absent, ?order, fun files path holds => ?screened⟩
  case order =>
    intro entries' text' written' same
    rw [Settings.ofJson_of_written written', Settings.overridden_congr written written' same]
  case screened =>
    have decodes := Settings.ofJson_of_written written
    refine ⟨loadSettings_eq_ok_iff_lawful holds decodes,
      fun violation => loadSettings_eq_violates_iff holds decodes, fun lawless => ?_⟩
    obtain lawful | ⟨violation, first⟩ := (Settings.overridden entries).lawful_or_firstViolation
    · exact absurd lawful lawless
    · refine ⟨violation, first, fun configDirectory => ?_⟩
      simp only [settingsFor, settingsPath?, (loadSettings_eq_violates_iff holds decodes).mpr first]

/-- A list that is no field, an escaped character and a key of the install root, which may begin
with a separator or not. -/
theorem settings_overridden_screened_escaped :
    let entries (key : String) : List Entry :=
      [.other "note", .text .productDirectory "D", .text .installRootKey key]
    let text (key : String) := String.ofList (' ' :: '\x7b' :: (Print.string "note" ++ ':' ::
      '[' :: '-' :: '1' :: '.' :: '5' :: ',' :: '\x7b' :: '\x7d' :: ' ' :: ']' :: ',' :: '\n' ::
      (Print.string "product_subdir" ++ ':' ::
        '"' :: '\\' :: 'u' :: '0' :: '0' :: '4' :: '4' :: '"' :: ',' ::
      (Print.string "install_root_key" ++ ' ' :: ':' :: (Print.string key ++ ['\x7d'])))))
    let result (key : String) : Settings :=
      { Settings.standard with productDirectory := "D", installRootKey := key }
    let path : Path := Utf8.bytes "settings.json"
    let files (key : String) : Files := .ofCopies [.ofText path (text key)]
    Written (entries "Fw") (text "Fw") ∧ Written (entries "/Fw") (text "/Fw") ∧
    loadSettings (files "Fw") path = .ok (result "Fw") ∧
    loadSettings (files "/Fw") path =
      .error (.violates (.leadingSeparator .installRootKey "/Fw")) := by
  intro entries text result path files
  have note (t : List Char) : Derives .value ('[' :: '-' :: '1' :: '.' :: '5' :: ',' :: '\x7b' ::
      '\x7d' :: ' ' :: ']' :: t) t := by
    have first : Numeral ('-' :: '1' :: '.' :: '5' :: ',' :: '\x7b' :: '\x7d' :: ' ' :: ']' :: t)
        (',' :: '\x7b' :: '\x7d' :: ' ' :: ']' :: t) :=
      ⟨⟨_, _, _, .present, .positive (.last rfl) (by decide), .present (.last rfl), .absent⟩,
        endsNumber_cons (.inl rfl) _⟩
    exact @Derives.bracketed .list _ _ _ _ (.element .none) (.numeral first)
      (.next .none (.element .none) (@Derives.empty .object _ _ .none) (.closed (.more rfl .none)))
  have escaped (t : List Char) :
      Quotes "D" ('"' :: '\\' :: 'u' :: '0' :: '0' :: '4' :: '4' :: '"' :: t) t := by
    have chars : "D".toList = ['D'] := by decide
    have unit : Utf16.encodeChar 'D' = [0x44] := by decide
    refine .quoted ?_
    rw [chars]
    refine .next (.units ?_) .closed
    rw [unit]
    exact .cons (.digits ⟨by decide, .inl rfl⟩ ⟨by decide, .inl rfl⟩ ⟨by decide, .inl rfl⟩
      ⟨by decide, .inl rfl⟩) .nil
  have written (key : String) : Written (entries key) (text key) := by
    have document : Document Entry.writing (entries key) (text key).toList := by
      simp only [text, String.toList_ofList]
      exact ⟨_, [], .more rfl .none,
        .members (.mk .none (quotes_string _ _) .none .none (.other (note _)))
          (.next .none (.mk (.more rfl .none) (quotes_string _ _) .none .none (.text (escaped _)))
            (.next .none
              (.mk .none (quotes_string _ _) (.more rfl .none) .none (.text (quotes_string _ _)))
              (.closed .none))), .none⟩
    refine ⟨document, ?once, fun name among => ?foreign⟩
    case once =>
      have differ : Settings.Item.productDirectory.name ≠ Settings.Item.installRootKey.name := by
        decide
      simp only [entries, List.pairwise_cons, List.forall_mem_cons, List.not_mem_nil,
        false_implies, implies_true, List.Pairwise.nil, and_true]
      exact ⟨⟨fun isField => isField.elim, fun isField => isField.elim⟩, fun _ _ => differ⟩
    case foreign =>
      obtain rfl : name = "note" := by simpa [entries] using among
      exact ⟨by decide, fun item => by cases item <;> decide⟩
  have loads (key : String) : ∃ settings, settings = result key ∧
      (loadSettings (files key) path = .ok settings ↔ settings.Lawful) ∧
      ∀ violation, loadSettings (files key) path = .error (.violates violation) ↔
        settings.FirstViolation violation := by
    obtain ⟨settings, -, shown, absent, -, noHive, -, load⟩ :=
      settings_overridden_screened (written key)
    refine ⟨settings, Settings.eq_of_get (fun item => ?_) ?_, ?_⟩
    · cases item with
      | productDirectory => exact shown .productDirectory "D" (by simp [entries])
      | installRootKey => exact shown .installRootKey key (by simp [entries])
      | _ => exact absent _ fun value => by simp [entries]
    · exact noHive fun value => by simp [entries]
    · obtain ⟨lawful, first, -⟩ := load (files key) path rfl
      exact ⟨lawful, first⟩
  refine ⟨written "Fw", written "/Fw", ?lawful, ?lawless⟩
  case lawful =>
    obtain ⟨settings, rfl, lawful, -⟩ := loads "Fw"
    exact lawful.mpr (Settings.firstViolation?_eq_none_iff.mp (by decide +kernel))
  case lawless =>
    obtain ⟨settings, rfl, -, first⟩ := loads "/Fw"
    exact (first _).mpr (Settings.firstViolation?_eq_some_iff.mp (by decide +kernel))

end RuntimeLocator.Cli
