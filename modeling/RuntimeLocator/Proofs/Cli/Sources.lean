/-
Where the settings of a run come from, and what has no part in it.

A file that is named decides: the words of the command line name it or else the variable does.
Where neither does, the default file decides if it is a regular file, and only where there is none
are the standard settings used. A file that decides gives the settings of the run or ends it with
exit code 78, so no source is passed over because it fails (`run_decided`). Beside the file that
is named, the snapshot and the variables that the lookup consults, nothing counts
(`run_of_same_reads`). A variable that names a file beside a flag counts for nothing but look-ups
that come upon its entry (`DiffersUnseen`).
-/

import RuntimeLocator.Proofs.Cli.Endings
import RuntimeLocator.Proofs.Cli.Naming
import RuntimeLocator.Proofs.Environment
import RuntimeLocator.Proofs.Lookup.Dependence

namespace RuntimeLocator.Cli

/-! ### Outcomes -/

/-- What comes of a request with these settings. -/
def concluded (registry : Registry) (env : Environment) (sink : Sink) (arguments : Arguments)
    (settings : Settings) : Outcome :=
  match answer settings (.ofRegistry registry) env arguments.command with
  | .error failure => ⟨[], arguments.verbose, some (.lookup failure)⟩
  | .ok text =>
    ⟨(sink.write (lineBytes text)).1, arguments.verbose, (sink.write (lineBytes text)).2⟩

/-- A settings file decides an outcome: it is what comes of the settings that the file gives, and
the failure to load them where it gives none. -/
structure DecidedBy (files : Files) (path : Path) (conclude : Settings → Outcome)
    (outcome : Outcome) : Prop where
  given : ∀ settings, files.Gives path settings → outcome = conclude settings
  withheld : (¬ ∃ settings, files.Gives path settings) →
    outcome.exitCode = 78 ∧ outcome.output = [] ∧
      ∃ failure, outcome.failure = some (.config (.settings path failure))

/-- The variables that the lookup for a command consults. -/
def Command.Consults (settings : Settings) (env : Environment) (name : String) : Command → Prop
  | .resolve maxChars _ =>
    260 ≤ maxChars ∧ (name = settings.versionVariable ∨
      env.nonEmpty settings.versionVariable ≠ none ∧ name = settings.rootVariable)
  | .read .. => False

/-- Other files in which a settings file and the snapshot are the same. -/
structure SameReads (path : Path) (snapshot : Option Path) (files files' : Files) : Prop where
  settings : files'.read path = files.read path
  snapshot : ∀ path, snapshot = some path → files'.read path = files.read path

/-- Beside a flag that names the settings file, another process in which at most the variable that
names one is different. The words are accepted with it, and the lookup does not come upon it. -/
structure DiffersUnseen (words : List RawText) (arguments : Arguments) (path : Path)
    (files : Files) (process process' : ProcessBlock) : Prop where
  flags : flagged words = some path
  others : process'.filter (·.1 ≠ settingsVariable) = process.filter (·.1 ≠ settingsVariable)
  acceptable : process'.bytes? settingsVariable = some [] →
    ∃ arguments, Arguments.parse (some []) words = .ok arguments
  unseen : ∀ settings name, files.Gives path settings →
    arguments.command.Consults settings process.environment name →
      ¬ ProcessBlock.Reaches name settingsVariable

section Sources

variable {files files' : Files} {configDirectory configDirectory' : Option Path}
  {env env' : Environment} {sink : Sink} {arguments : Arguments} {registry : Registry}
  {settings : Settings} {path : Path}

/-! ### What counts -/

theorem answer_congr {store : Store} {command : Command}
    (same : ∀ name, command.Consults settings env name → env'.nonEmpty name = env.nonEmpty name) :
    answer settings store env' command = answer settings store env command := by
  cases command with
  | read keyPath valueName hive maxChars =>
    exact (answer_readString store env' ..).trans (answer_readString store env ..).symm
  | resolve maxChars explain =>
    have resolves (env : Environment) :
        ((resolve settings maxChars).runOn store env .zero).answer =
          store.resolution env settings maxChars := answer_resolve store env settings maxChars _
    simp only [answer, resolves]
    by_cases large : 260 ≤ maxChars
    case neg => simp only [Store.resolution, if_pos (Nat.not_le.mp large)]
    case pos =>
      have pins := same settings.versionVariable ⟨large, .inl rfl⟩
      have tiers : env.tier settings = env'.tier settings :=
        tier_congr pins.symm fun pinned => (same _ ⟨large, .inr ⟨pinned, rfl⟩⟩).symm
      rw [resolution_congr tiers rfl]

theorem concluded_congr
    (same : ∀ name, arguments.command.Consults settings env name →
      env'.nonEmpty name = env.nonEmpty name) :
    concluded registry env' sink arguments settings =
      concluded registry env sink arguments settings := by
  simp only [concluded, answer_congr same]

theorem loadSettings_congr (same : files'.read path = files.read path) :
    loadSettings files' path = loadSettings files path := by
  simp only [loadSettings, Files.readText, same]

theorem LoadsRegistry.congr {snapshot : Option Path}
    (same : ∀ path, snapshot = some path → files'.read path = files.read path)
    (loads : LoadsRegistry files snapshot registry) : LoadsRegistry files' snapshot registry := by
  cases loads with
  | system => exact .system
  | snapshot holds decodes => exact .snapshot ((same _ rfl).trans holds) decodes

/-! ### Runs -/

section Accepted

variable {process process' : ProcessBlock} {words : List RawText}
  (accepted : Arguments.parse (process.bytes? settingsVariable) words = .ok arguments)

include accepted

/-- Beside a flag the words are accepted alike. -/
theorem accepted_of_differs
    (differs : DiffersUnseen words arguments path files process process') :
    Arguments.parse (process'.bytes? settingsVariable) words = .ok arguments := by
  refine parse_of_same_settings accepted ?_ fun empty => ?_
  · rw [differs.flags]
    rfl
  · rw [empty]
    exact differs.acceptable empty

variable (loads : LoadsRegistry files arguments.store registry)

include loads

theorem run_of_settings
    (given : settingsFor files configDirectory arguments.settings = .ok settings) :
    run words process configDirectory files sink =
      .ok (concluded registry process.environment sink arguments settings) := by
  have reads := loadRegistry_eq_ok_iff.mpr loads
  cases replies : answer settings (.ofRegistry registry) process.environment arguments.command with
  | error failure =>
    rw [concluded, replies]
    exact run_of_failure accepted (by simp only [fulfil, reads, given, replies])
  | ok text =>
    rw [concluded, replies]
    exact run_of_text accepted (by simp only [fulfil, reads, given, replies]) rfl

theorem run_of_unsettled {failure : ConfigFailure}
    (fails : settingsFor files configDirectory arguments.settings = .error failure) :
    run words process configDirectory files sink =
      .ok ⟨[], arguments.verbose, some (.config failure)⟩ :=
  run_of_failure accepted (by simp only [fulfil, loadRegistry_eq_ok_iff.mpr loads, fails])

/-- The file that is chosen decides the run. -/
theorem run_decided (chosen : settingsPath? files configDirectory arguments.settings = some path) :
    ∃ outcome, run words process configDirectory files sink = .ok outcome ∧
      DecidedBy files path (concluded registry process.environment sink arguments) outcome := by
  have looks (reply : Except SettingsFailure Settings) (read : loadSettings files path = reply) :
      settingsFor files configDirectory arguments.settings = reply.mapError (.settings path) := by
    simp only [settingsFor, chosen, read]
    cases reply <;> rfl
  cases read : loadSettings files path with
  | ok settings =>
    have gives := loadSettings_eq_ok_iff.mp read
    refine ⟨_, run_of_settings accepted loads (looks _ read), fun other givesOther => ?_,
      fun withheld => absurd ⟨settings, gives⟩ withheld⟩
    cases read.symm.trans (loadSettings_eq_ok_iff.mpr givesOther)
    rfl
  | error failure =>
    refine ⟨_, run_of_unsettled accepted loads (looks _ read), fun settings gives => ?_,
      fun _ => ⟨rfl, rfl, failure, rfl⟩⟩
    cases read.symm.trans (loadSettings_eq_ok_iff.mpr gives)

/-- Nothing counts beside the named file, the snapshot and the variables that are consulted. -/
theorem run_of_same_reads (named : arguments.settings = some path)
    (accepted' : Arguments.parse (process'.bytes? settingsVariable) words = .ok arguments)
    (same : SameReads path arguments.store files files')
    (consulted : ∀ settings, files.Gives path settings → ∀ name,
      arguments.command.Consults settings process.environment name →
        process'.environment.nonEmpty name = process.environment.nonEmpty name) :
    run words process' configDirectory' files' sink =
      run words process configDirectory files sink := by
  have loads' := loads.congr same.snapshot
  have looks (files : Files) (configDirectory : Option Path) :
      settingsFor files configDirectory arguments.settings =
        (loadSettings files path).mapError (.settings path) := by
    simp only [settingsFor, settingsPath?, named]
    cases loadSettings files path <;> rfl
  have rereads := loadSettings_congr same.settings
  cases read : loadSettings files path with
  | ok settings =>
    rw [run_of_settings accepted loads (by rw [looks, read]; rfl),
      run_of_settings accepted' loads' (by rw [looks, rereads, read]; rfl),
      concluded_congr (consulted settings (loadSettings_eq_ok_iff.mp read))]
  | error failure =>
    rw [run_of_unsettled accepted loads (by rw [looks, read]; rfl),
      run_of_unsettled accepted' loads' (by rw [looks, rereads, read]; rfl)]

/-- Beside a flag the variable does not count, where the lookup does not come upon it. -/
theorem run_of_differs_unseen (same : SameReads path arguments.store files files')
    (differs : DiffersUnseen words arguments path files process process') :
    run words process' configDirectory' files' sink =
      run words process configDirectory files sink := by
  have plain : 0x3D ∉ Utf8.bytes settingsVariable := by decide +kernel
  have named : arguments.settings = some path := by
    rw [settings_of_accepted accepted, differs.flags]
    rfl
  refine run_of_same_reads accepted loads named (accepted_of_differs accepted differs) same ?_
  intro settings gives name consults
  exact ProcessBlock.nonEmpty_congr plain (differs.unseen settings name gives consults)
    differs.others

end Accepted

end Sources

/-- **The settings of a run come from the first source that is there, and from no other.** The
file that the words name decides or else the one that the variable names, and then the run is the
same wherever the default file is looked for and with all files that agree with these on that file
and the snapshot. Beside a flag it is also the same whatever the variable says, where the lookup
does not come upon it. Where no file is named, the default one decides if it is a regular file, and
the standard settings are used only if it is not. -/
theorem settings_precedence {files : Files} {sink : Sink} {process : ProcessBlock}
    {configDirectory : Option Path} {words : List RawText} {arguments : Arguments}
    {registry : Registry}
    (accepted : Arguments.parse (process.bytes? settingsVariable) words = .ok arguments)
    (loads : LoadsRegistry files arguments.store registry) :
    let named := flagged words <|> process.bytes? settingsVariable
    let conclude := concluded registry process.environment sink arguments
    ∃ outcome, run words process configDirectory files sink = .ok outcome ∧
      (∀ path, named = some path →
        DecidedBy files path conclude outcome ∧
        ∀ configDirectory' files', SameReads path arguments.store files files' →
          run words process configDirectory' files' sink = .ok outcome ∧
          ∀ process', DiffersUnseen words arguments path files process process' →
            run words process' configDirectory' files' sink = .ok outcome) ∧
      (named = none →
        (∀ path, defaultSettingsPath? configDirectory = some path → files.isFile path = true →
          DecidedBy files path conclude outcome) ∧
        ((∀ path, defaultSettingsPath? configDirectory = some path → files.isFile path = false) →
          outcome = conclude .standard)) := by
  intro named conclude
  have settings : arguments.settings = named := settings_of_accepted accepted
  have decided {path : Path} {outcome : Outcome}
      (chosen : settingsPath? files configDirectory arguments.settings = some path)
      (runs : run words process configDirectory files sink = .ok outcome) :
      DecidedBy files path conclude outcome := by
    obtain ⟨again, reruns, decides⟩ := run_decided accepted loads chosen
    cases runs.symm.trans reruns
    exact decides
  obtain ⟨_, _, _, ends⟩ := exists_ends files configDirectory process.environment sink arguments
  obtain ⟨outcome, runs, -⟩ := outcome_of_ends accepted ends
  refine ⟨outcome, runs, ?_, ?_⟩
  · intro path names
    have names := settings.trans names
    refine ⟨decided (settingsPath?_eq_some_iff.mpr (.inl names)) runs, ?_⟩
    intro configDirectory' files' same
    refine ⟨?_, fun process' differs => ?_⟩
    · rw [run_of_same_reads accepted loads names accepted same fun _ _ _ _ => rfl, runs]
    · rw [run_of_differs_unseen accepted loads same differs, runs]
  · intro unnamed
    have unnamed := settings.trans unnamed
    constructor
    · intro path usually there
      exact decided (settingsPath?_eq_some_iff.mpr (.inr ⟨unnamed, usually, there⟩)) runs
    · intro absent
      have standard := settingsFor_eq_ok_iff.mpr (.standard absent)
      rw [← unnamed] at standard
      cases runs.symm.trans (run_of_settings accepted loads standard)
      rfl

/-- A flag, beside which neither the default file nor the variable counts; a variable that names no
file, although the default file is there; the default file alone; and no source at all. -/
theorem settings_precedence_installed :
    let snapshot := Copy.ofText (Utf8.bytes "store.json") installed.toJson
    let named := Copy.ofText (Utf8.bytes "settings.json") briefSettings.toJson
    let usual := Copy.ofText (Utf8.bytes "/home/config/fxlocate/settings.json")
      { briefSettings with productDirectory := "XPS" }.toJson
    let home : Option Path := some (Utf8.bytes "/home/config")
    let pinned (path : String) : ProcessBlock := [(settingsVariable, Utf8.bytes path)]
    let flag := [Utf8.bytes "--store", snapshot.path, Utf8.bytes "resolve",
      Utf8.bytes "--settings=settings.json"]
    let bare := [Utf8.bytes "--store", snapshot.path, Utf8.bytes "resolve"]
    let shows (words : List RawText) (process : ProcessBlock) (configDirectory : Option Path)
        (copies : List Copy) (code : Nat) (text : String) :=
      ∃ outcome,
        run words process configDirectory (.ofCopies copies) .unlimited = .ok outcome ∧
        outcome.exitCode = code ∧ outcome.output = Utf8.bytes text
    shows flag (pinned "gone.json") home [snapshot, named, usual] 0 "C:\\Assemblies\\WPF\n" ∧
    shows flag (pinned "v4") none [snapshot, named] 0 "C:\\Assemblies\\WPF\n" ∧
    shows bare (pinned "gone.json") home [snapshot, named, usual] 78 "" ∧
    shows bare [] home [snapshot, named, usual] 0 "C:\\Assemblies\\XPS\n" ∧
    shows bare [] home [snapshot, named] 1 "" := by
  intro snapshot named usual home pinned flag bare shows
  let asked (settings : Option Path) : Arguments :=
    ⟨some snapshot.path, settings, false, .resolve 260 false⟩
  have parsesFlag : Arguments.parse ((pinned "gone.json").bytes? settingsVariable) flag =
      .ok (asked (some named.path)) := by decide +kernel
  have parsesGone : Arguments.parse ((pinned "gone.json").bytes? settingsVariable) bare =
      .ok (asked (some (Utf8.bytes "gone.json"))) := by decide +kernel
  have parsesBare : Arguments.parse (ProcessBlock.bytes? [] settingsVariable) bare =
      .ok (asked none) := by decide +kernel
  have loads (copies : List Copy) :
      LoadsRegistry (.ofCopies (snapshot :: copies)) (some snapshot.path) installed :=
    .snapshot rfl installed.ofJson_toJson
  have gives : (Files.ofCopies [snapshot, named, usual]).Gives named.path briefSettings :=
    ⟨_, rfl, briefSettings.ofJson_toJson, by decide +kernel⟩
  have usually : (Files.ofCopies [snapshot, named, usual]).Gives usual.path
      { briefSettings with productDirectory := "XPS" } :=
    ⟨_, rfl, Settings.ofJson_toJson _, by decide +kernel⟩
  have lacks : ¬ ∃ settings, (Files.ofCopies [snapshot, named, usual]).Gives
      (Utf8.bytes "gone.json") settings := by
    rintro ⟨settings, text, holds, -⟩
    cases holds
  have usualPath : defaultSettingsPath? home = some usual.path := by decide +kernel
  have resolves : answer briefSettings (.ofRegistry installed) (pinned "gone.json").environment
      (.resolve 260 false) = .ok "C:\\Assemblies\\WPF" := by decide +kernel
  have resolvesUsual : answer { briefSettings with productDirectory := "XPS" }
      (.ofRegistry installed) (ProcessBlock.environment []) (.resolve 260 false) =
        .ok "C:\\Assemblies\\XPS" := by decide +kernel
  have refuses : answer .standard (.ofRegistry installed) (ProcessBlock.environment [])
      (.resolve 260 false) = .error (.store .notFound) := by decide +kernel
  have same : SameReads named.path (some snapshot.path) (.ofCopies [snapshot, named, usual])
      (.ofCopies [snapshot, named]) := {
    settings := rfl
    snapshot := by
      rintro path same
      cases same
      rfl }
  have differs : DiffersUnseen flag (asked (some named.path)) named.path
      (.ofCopies [snapshot, named, usual]) (pinned "gone.json") (pinned "v4") := {
    flags := by decide +kernel
    others := by decide +kernel
    acceptable := fun empty => absurd empty (by decide +kernel)
    unseen := by
      rintro settings name givesToo ⟨-, consults⟩
      cases (loadSettings_eq_ok_iff.mpr gives).symm.trans (loadSettings_eq_ok_iff.mpr givesToo)
      obtain rfl | ⟨-, rfl⟩ := consults <;> decide +kernel }
  obtain ⟨flagged, runsFlag, byFlag, -⟩ := @settings_precedence _ .unlimited _ home _ _ _
    parsesFlag (loads [named, usual])
  obtain ⟨byFlag, again⟩ := byFlag named.path (by decide +kernel)
  obtain ⟨-, again⟩ := again none _ same
  obtain ⟨gone, runsGone, byVariable, -⟩ := @settings_precedence _ .unlimited _ home _ _ _
    parsesGone (loads [named, usual])
  obtain ⟨byVariable, -⟩ := byVariable (Utf8.bytes "gone.json") (by decide +kernel)
  obtain ⟨failed, silent, -⟩ := byVariable.withheld lacks
  obtain ⟨bareRun, runsBare, -, byDefault⟩ := @settings_precedence _ .unlimited _ home _ _ _
    parsesBare (loads [named, usual])
  obtain ⟨byDefault, -⟩ := byDefault (by decide +kernel)
  obtain ⟨unset, runsUnset, -, byNone⟩ := @settings_precedence _ .unlimited _ home _ _ _
    parsesBare (loads [named])
  obtain ⟨-, byNone⟩ := byNone (by decide +kernel)
  have shownFlag := byFlag.given _ gives
  have shownBare := (byDefault _ usualPath rfl).given _ usually
  have shownUnset := byNone fun path defaults => by
    cases usualPath.symm.trans defaults
    rfl
  simp only [concluded, asked, resolves, resolvesUsual, refuses] at shownFlag shownBare shownUnset
  refine ⟨⟨flagged, runsFlag, ?_⟩, ⟨flagged, again _ differs, ?_⟩,
    ⟨gone, runsGone, failed, silent⟩, ⟨bareRun, runsBare, ?_⟩, ⟨unset, runsUnset, ?_⟩⟩
  · rw [shownFlag]
    exact ⟨rfl, rfl⟩
  · rw [shownFlag]
    exact ⟨rfl, rfl⟩
  · rw [shownBare]
    exact ⟨rfl, rfl⟩
  · rw [shownUnset]
    exact ⟨rfl, rfl⟩

/-- Where sources overlap, each of them takes part: settings can name the variable as the one that
pins the version, or a name that goes on into its value, and the file that is named can be the
default one, as can the snapshot. -/
theorem sources_overlap :
    let usual := Utf8.bytes "/home/config/fxlocate/settings.json"
    let home : Option Path := some (Utf8.bytes "/home/config")
    let store := Utf8.bytes "store.json"
    let named := Utf8.bytes "settings.json"
    let files (copies : List (Path × String)) : Files :=
      .ofCopies (copies.map fun copy => .ofText copy.1 copy.2)
    let flag (store settings : Path) :=
      [Utf8.bytes "--store", store, Utf8.bytes "--settings", settings, Utf8.bytes "resolve"]
    let shows (words : List RawText) (process : ProcessBlock) (files : Files) (line : String) :=
      ∃ outcome, run words process home files .unlimited = .ok outcome ∧ outcome.exitCode = 0 ∧
        outcome.output = lineBytes line
    let pinned (value : String) : ProcessBlock := [(settingsVariable, Utf8.bytes value)]
    let pinning (name : String) : Settings := { briefSettings with versionVariable := name }
    let renamed : Settings := { briefSettings with productDirectory := "XPS" }
    let moved := installed.setString .localMachine "Ndp" "Path" "D:\\"
    defaultSettingsPath? home = some usual ∧
    (let files := files [(store, installed.toJson), (named, (pinning settingsVariable).toJson)]
     shows (flag store named) [] files "C:\\Assemblies\\WPF" ∧
      shows (flag store named) (pinned "v4") files "C:\\Fw\\v4\\WPF") ∧
    (let files := files
       [(store, installed.toJson), (named, (pinning (settingsVariable ++ "=a")).toJson)]
     shows (flag store named) (pinned "b=v4") files "C:\\Assemblies\\WPF" ∧
      shows (flag store named) (pinned "a=v4") files "C:\\Fw\\v4\\WPF") ∧
    (let files (settings : Settings) :=
       files [(store, installed.toJson), (usual, settings.toJson)]
     shows (flag store usual) [] (files briefSettings) "C:\\Assemblies\\WPF" ∧
      shows (flag store usual) [] (files renamed) "C:\\Assemblies\\XPS") ∧
    (let files (registry : Registry) :=
       files [(usual, registry.toJson), (named, briefSettings.toJson)]
     shows (flag usual named) [] (files installed) "C:\\Assemblies\\WPF" ∧
      shows (flag usual named) [] (files moved) "D:\\WPF") := by
  intro usual home store named files flag shows pinned pinning renamed moved
  have shown (line : String) {store named : Path} {process : ProcessBlock} {files : Files}
      {registry : Registry} {settings : Settings}
      (accepted : Arguments.parse (process.bytes? settingsVariable) (flag store named) =
        .ok ⟨some store, some named, false, .resolve 260 false⟩)
      (snapshot : files.Holds store registry.toJson) (file : files.Holds named settings.toJson)
      (lawful : settings.violations = [])
      (answers : answer settings (.ofRegistry registry) process.environment (.resolve 260 false) =
        .ok line) : shows (flag store named) process files line := by
    have loads : LoadsRegistry files (some store) registry :=
      .snapshot snapshot registry.ofJson_toJson
    have given : LoadsSettings files home (some named) settings :=
      .named ⟨_, file, settings.ofJson_toJson, lawful⟩
    refine ⟨_, run_of_settings accepted loads (settingsFor_eq_ok_iff.mpr given), ?_⟩
    simp only [concluded, answers]
    exact ⟨rfl, rfl⟩
  refine ⟨by decide +kernel, ⟨?unpinned, ?pinned⟩, ⟨?elsewhere, ?within⟩, ⟨?named, ?renamed⟩,
    ⟨?installed, ?moved⟩⟩
  case unpinned | pinned | elsewhere | within | named | renamed | installed | moved =>
    exact shown _ (by decide +kernel) rfl rfl (by decide +kernel) (by decide +kernel)

end RuntimeLocator.Cli
