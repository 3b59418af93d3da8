/-
How a run ends.

A request that was understood ends in one of four ways, and the exit code tells which: what it
names could not be loaded, the lookup failed, the answer was written, or the output took only a
part of it. `Ends` says of each what the user sees, in terms of the lookups themselves and not of
the program around them. A run shows just what `Ends` allows, which is one thing for every request
(`run_ends`). The program that is started ends as its run does, unless its environment file stops
it before (`environment_file_aborts`).
-/

import RuntimeLocator.Proofs.Cli.Aborting
import RuntimeLocator.Proofs.Cli.Loading
import RuntimeLocator.Proofs.Lookup.Answers
import RuntimeLocator.Proofs.Registry.Snapshot
import RuntimeLocator.Proofs.Settings.Json

namespace RuntimeLocator.Cli

/-! ### Answers -/

/-- What a resolution is explained by: three lines, the last of them without its end. -/
def explanation (resolution : Resolution) : String :=
  "\n".intercalate ["path = " ++ resolution.path, "source = " ++ resolution.source.text,
    "version = " ++ resolution.version.getD "-"]

/-- What a command is answered with: what the lookup that it asks for comes to on the registry. -/
inductive Answers (registry : Registry) (env : Environment) (settings : Settings) :
    Command → Except LookupFailure String → Prop where
  | path {maxChars : Nat} {resolution : Resolution}
      (resolves : ((resolve settings maxChars).runOn (.ofRegistry registry) env .zero).answer =
        .ok resolution) :
      Answers registry env settings (.resolve maxChars false) (.ok resolution.path)
  | explained {maxChars : Nat} {resolution : Resolution}
      (resolves : ((resolve settings maxChars).runOn (.ofRegistry registry) env .zero).answer =
        .ok resolution) :
      Answers registry env settings (.resolve maxChars true) (.ok (explanation resolution))
  | unresolved {maxChars : Nat} {explain : Bool} {failure : LookupFailure}
      (fails : ((resolve settings maxChars).runOn (.ofRegistry registry) env .zero).answer =
        .error failure) :
      Answers registry env settings (.resolve maxChars explain) (.error failure)
  | value {keyPath valueName : String} {hive : Hive} {maxChars : Nat}
      {reply : Except LookupFailure String}
      (reads : ((readString hive keyPath valueName maxChars).runOn (.ofRegistry registry) env
        .zero).answer = reply) :
      Answers registry env settings (.read keyPath valueName hive maxChars) reply

/-! ### Endings -/

/-- The bytes of a text and the end of its line. -/
def lineBytes (text : String) : List UInt8 :=
  Utf8.bytes (text ++ "\n")

/-- What the user sees of a request: the exit code, the result that is reported, if one is, and
the bytes that were written. -/
inductive Ends (files : Files) (configDirectory : Option Path) (env : Environment) (sink : Sink)
    (arguments : Arguments) : Nat → Option Int32 → List UInt8 → Prop where
  /-- The snapshot or the settings could not be read or decoded, or the settings break a rule. -/
  | unloaded
      (lacks : ¬ ∃ registry settings, Loads files configDirectory arguments registry settings) :
      Ends files configDirectory env sink arguments 78 none []
  | unanswered {registry : Registry} {settings : Settings} {failure : LookupFailure}
      (loads : Loads files configDirectory arguments registry settings)
      (answers : Answers registry env settings arguments.command (.error failure)) :
      Ends files configDirectory env sink arguments 1 (some failure.result) []
  | written {registry : Registry} {settings : Settings} {text : String}
      (loads : Loads files configDirectory arguments registry settings)
      (answers : Answers registry env settings arguments.command (.ok text))
      (takes : ∀ limit, sink.limit = some limit → (lineBytes text).length ≤ limit) :
      Ends files configDirectory env sink arguments 0 none (lineBytes text)
  /-- The sink fails when it has taken so many bytes as it can. -/
  | cut {registry : Registry} {settings : Settings} {text : String} {limit : Nat}
      {taken : List UInt8} (loads : Loads files configDirectory arguments registry settings)
      (answers : Answers registry env settings arguments.command (.ok text))
      (limited : sink.limit = some limit) (long : limit < (lineBytes text).length)
      (begins : taken <+: lineBytes text) (full : taken.length = limit) :
      Ends files configDirectory env sink arguments 74 none taken

/-- The result that a run reports. -/
def Outcome.result (outcome : Outcome) : Option Int32 :=
  outcome.failure.bind Failure.result

/-- What the user is told after an exit code: nothing after a success, and else what went wrong
and the result, if there is one. -/
inductive Reports : Nat → Option Int32 → String → Prop where
  | success : Reports 0 none ""
  | failure {code : Nat} (fails : code ≠ 0) (message : String) :
      Reports code none ("error: " ++ message ++ "\n")
  | lookup {code : Nat} (fails : code ≠ 0) (message : String) (result : Int32) :
      Reports code (some result)
        ("error: " ++ message ++ "\n" ++ ("hresult: " ++ resultText result ++ "\n"))

/-! ### Answering -/

theorem explanation_eq (resolution : Resolution) : explanation resolution = resolution.text := by
  rw [explanation, String.intercalate_cons_cons, String.intercalate_cons_cons,
    String.intercalate_singleton, Resolution.text]
  have source : "\nsource = " = "\n" ++ "source = " := rfl
  have version : "\nversion = " = "\n" ++ "version = " := rfl
  simp only [source, version, String.append_assoc]

section Requests

variable {files : Files} {configDirectory : Option Path} {env : Environment}
  {arguments : Arguments} {registry : Registry} {settings : Settings} {sink : Sink}

theorem answer_eq_iff {command : Command} {reply : Except LookupFailure String} :
    answer settings (.ofRegistry registry) env command = reply ↔
      Answers registry env settings command reply := by
  constructor
  case mp =>
    rintro rfl
    cases command with
    | resolve maxChars explain =>
      rw [answer]
      generalize resolves : ((resolve settings maxChars).runOn (.ofRegistry registry) env
        .zero).answer = resolved
      cases resolved with
      | error failure => exact .unresolved resolves
      | ok resolution =>
        cases explain with
        | false => exact .path resolves
        | true =>
          have explained := Answers.explained resolves
          rw [explanation_eq] at explained
          exact explained
    | read keyPath valueName hive maxChars => exact .value rfl
  case mpr =>
    intro answers
    cases answers with
    | path resolves => rw [answer, resolves]; rfl
    | explained resolves => rw [answer, resolves, explanation_eq]; rfl
    | unresolved fails => rw [answer, fails]; rfl
    | value reads => exact reads

/-- What was loaded is all that an answer needs. -/
theorem fulfil_of_loads {reply : Except LookupFailure String}
    (loads : Loads files configDirectory arguments registry settings)
    (answers : Answers registry env settings arguments.command reply) :
    fulfil files configDirectory env arguments = (reply.mapError .lookup).map (· ++ "\n") := by
  simp only [fulfil, loadRegistry_eq_ok_iff.mpr loads.registry,
    settingsFor_eq_ok_iff.mpr loads.settings, answer_eq_iff.mpr answers]
  cases reply with
  | error failure => rfl
  | ok text => rfl

theorem fulfil_of_unloaded
    (lacks : ¬ ∃ registry settings, Loads files configDirectory arguments registry settings) :
    ∃ failure, fulfil files configDirectory env arguments = .error (.config failure) := by
  unfold fulfil
  split
  case h_1 failure _ => exact ⟨failure, rfl⟩
  case h_2 registry opens =>
    split
    case h_1 failure _ => exact ⟨failure, rfl⟩
    case h_2 settings given =>
      exact absurd ⟨registry, settings, loadRegistry_eq_ok_iff.mp opens,
        settingsFor_eq_ok_iff.mp given⟩ lacks

/-! ### Writing -/

theorem Sink.write_of_takes {bytes : List UInt8}
    (takes : ∀ limit, sink.limit = some limit → bytes.length ≤ limit) :
    sink.write bytes = (bytes, none) := by
  rw [Sink.write]
  cases limited : sink.limit with
  | none => rfl
  | some limit => exact if_pos (takes limit limited)

theorem Sink.write_of_long {bytes : List UInt8} {limit : Nat} (limited : sink.limit = some limit)
    (long : limit < bytes.length) :
    sink.write bytes = (bytes.take limit, some (.output sink.failure)) := by
  rw [Sink.write, limited]
  exact if_neg (Nat.not_le.mpr long)

/-! ### Endings -/

/-- Every request has an ending. -/
theorem exists_ends (files : Files) (configDirectory : Option Path) (env : Environment)
    (sink : Sink) (arguments : Arguments) :
    ∃ code result written,
      Ends files configDirectory env sink arguments code result written := by
  by_cases loaded : ∃ registry settings, Loads files configDirectory arguments registry settings
  case neg => exact ⟨_, _, _, .unloaded loaded⟩
  case pos =>
    obtain ⟨registry, settings, loads⟩ := loaded
    cases reply : answer settings (.ofRegistry registry) env arguments.command with
    | error failure => exact ⟨_, _, _, .unanswered loads (answer_eq_iff.mp reply)⟩
    | ok text =>
      have answers := answer_eq_iff.mp reply
      by_cases takes : ∀ limit, sink.limit = some limit → (lineBytes text).length ≤ limit
      case pos => exact ⟨_, _, _, .written loads answers takes⟩
      case neg =>
        push Not at takes
        obtain ⟨limit, limited, long⟩ := takes
        exact ⟨_, _, _, .cut loads answers limited long (List.take_prefix limit _)
          (List.length_take_of_le (Nat.le_of_lt long))⟩

section Accepted

variable {process : ProcessBlock} {words : List RawText}
  (accepted : Arguments.parse (process.bytes? settingsVariable) words = .ok arguments)

include accepted

theorem run_of_failure {failure : Failure}
    (fails : fulfil files configDirectory process.environment arguments = .error failure) :
    run words process configDirectory files sink = .ok ⟨[], arguments.verbose, some failure⟩ := by
  simp only [run, accepted, bind, Except.bind, fails]
  rfl

theorem run_of_text {text : String} {taken : List UInt8} {failure : Option Failure}
    (answers : fulfil files configDirectory process.environment arguments = .ok text)
    (writes : sink.write (Utf8.bytes text) = (taken, failure)) :
    run words process configDirectory files sink = .ok ⟨taken, arguments.verbose, failure⟩ := by
  simp only [run, accepted, bind, Except.bind, answers, writes]
  rfl

/-- A run shows what its ending says. -/
theorem outcome_of_ends {code : Nat} {result : Option Int32} {written : List UInt8}
    (ends : Ends files configDirectory process.environment sink arguments code result written) :
    ∃ outcome, run words process configDirectory files sink = .ok outcome ∧
      outcome.exitCode = code ∧ outcome.result = result ∧ outcome.output = written := by
  cases ends with
  | unloaded lacks =>
    obtain ⟨failure, fails⟩ := fulfil_of_unloaded lacks
    exact ⟨_, run_of_failure accepted fails, rfl, rfl, rfl⟩
  | unanswered loads answers =>
    exact ⟨_, run_of_failure accepted (fulfil_of_loads loads answers), rfl, rfl, rfl⟩
  | written loads answers takes =>
    exact ⟨_, run_of_text accepted (fulfil_of_loads loads answers) (Sink.write_of_takes takes),
      rfl, rfl, rfl⟩
  | cut loads answers limited long begins full =>
    refine ⟨_, run_of_text accepted (fulfil_of_loads loads answers)
      (Sink.write_of_long limited long), rfl, rfl, ?_⟩
    rw [← full]
    exact (List.prefix_iff_eq_take.mp begins).symm

end Accepted

theorem result_of_ends {code : Nat} {result : Option Int32} {written : List UInt8}
    (ends : Ends files configDirectory env sink arguments code result written) :
    result.isSome ↔ code = 1 := by
  cases ends with
  | unloaded => exact iff_of_false nofun (by decide)
  | unanswered => exact iff_of_true rfl rfl
  | written => exact iff_of_false nofun (by decide)
  | cut => exact iff_of_false nofun (by decide)

end Requests

/-! ### The program as it is started -/

theorem reports_failure (failure : Failure) :
    Reports failure.exitCode failure.result failure.report := by
  cases failure with
  | lookup failure => exact .lookup Nat.one_ne_zero failure.message failure.result
  | config failure =>
    simp only [Failure.report, Failure.result, String.append_empty]
    exact .failure (Nat.succ_ne_zero 77) _
  | output description =>
    simp only [Failure.report, Failure.result, String.append_empty]
    exact .failure (Nat.succ_ne_zero 73) _

theorem reports_outcome (outcome : Outcome) :
    Reports outcome.exitCode outcome.result outcome.report := by
  obtain ⟨output, verbose, failure⟩ := outcome
  cases failure with
  | none => exact .success
  | some failure => exact reports_failure failure

/-- **A request ends in just one of four ways, and as its lookup does.** A run shows what `Ends`
says and nothing else: exit code 78 where the registry or the settings could not be loaded, 1 and
the result of the failure where the lookup failed, 0 and the whole line where the sink had room for
it, and 74 and what the sink took where it had not. A result comes with exit code 1 and with no
other, and the user is told of it. The program that is started ends as its run does once the
environment file was loaded. Only where that file gives a value with a NUL does the program stop
before it reads its words. -/
theorem run_ends {files : Files} {sink : Sink} {process : ProcessBlock}
    {configDirectory : Option Path} {words : List RawText} {arguments : Arguments}
    (accepted : Arguments.parse (process.bytes? settingsVariable) words = .ok arguments) :
    ∃ outcome, run words process configDirectory files sink = .ok outcome ∧
      (∀ code result written,
        Ends files configDirectory process.environment sink arguments code result written ↔
          outcome.exitCode = code ∧ outcome.result = result ∧ outcome.output = written) ∧
      (outcome.result.isSome ↔ outcome.exitCode = 1) ∧
      Reports outcome.exitCode outcome.result outcome.report ∧
      ∀ workingDirectory before locate,
        (startProcess workingDirectory before files = some process →
          locate process = configDirectory →
            start words workingDirectory before locate files sink = .completed outcome) ∧
        (start words workingDirectory before locate files sink = .aborted ↔
          Aborts workingDirectory before files) := by
  obtain ⟨code, result, written, ends⟩ :=
    exists_ends files configDirectory process.environment sink arguments
  obtain ⟨outcome, runs, rfl, rfl, rfl⟩ := outcome_of_ends accepted ends
  refine ⟨outcome, runs, ?shows, result_of_ends ends, reports_outcome outcome, ?starts⟩
  case shows =>
    intro code result written
    constructor
    · intro ends
      obtain ⟨other, again, shows⟩ := outcome_of_ends accepted ends
      cases runs.symm.trans again
      exact shows
    · rintro ⟨rfl, rfl, rfl⟩
      exact ends
  case starts =>
    intro workingDirectory before locate
    refine ⟨fun started located => ?_, start_eq_aborted_iff⟩
    subst located
    simp only [start, started, runs]

/-- One installation, and a request for each ending: the whole explanation, the first ten bytes of
it, a value that does not fit, and settings that a variable names by no text and that are not
there. -/
theorem run_ends_installed :
    let store : Path := Utf8.bytes "store.json"
    let named : Path := Utf8.bytes "settings.json"
    let files : Files :=
      .ofCopies [.ofText store installed.toJson, .ofText named briefSettings.toJson]
    let process : ProcessBlock := [("V", Utf8.bytes "v4"), (settingsVariable, [0xFF])]
    let flags := [Utf8.bytes "--store", store, Utf8.bytes "--settings", named]
    let explains := flags ++ [Utf8.bytes "resolve", Utf8.bytes "--explain"]
    let reads := flags ++ [Utf8.bytes "read", Utf8.bytes "Ndp", Utf8.bytes "Path",
      Utf8.bytes "--max-chars", Utf8.bytes "3"]
    let strays := [Utf8.bytes "resolve"]
    let shows (words : List RawText) (sink : Sink) (code : Nat) (result : Option Int32)
        (written : List UInt8) : Prop :=
      ∃ outcome,
        start words [Utf8.bytes "work"] process (fun _ => none) files sink = .completed outcome ∧
        outcome.exitCode = code ∧ outcome.result = result ∧ outcome.output = written ∧
        Reports code result outcome.report
    startProcess [Utf8.bytes "work"] process files = some process ∧
    (Arguments.parse (process.bytes? settingsVariable) explains =
        .ok ⟨some store, some named, false, .resolve 260 true⟩ ∧
      Arguments.parse (process.bytes? settingsVariable) reads =
        .ok ⟨some store, some named, false, .read "Ndp" "Path" .localMachine 3⟩ ∧
      Arguments.parse (process.bytes? settingsVariable) strays =
        .ok ⟨none, some [0xFF], false, .resolve 260 false⟩) ∧
    shows explains .unlimited 0 none (Utf8.bytes
      "path = C:\\Fw\\v4\\WPF\nsource = registered install root\nversion = v4\n") ∧
    shows explains ⟨some 10, "no space is left"⟩ 74 none (Utf8.bytes "path = C:\\") ∧
    shows reads .unlimited 1 (some 0x800700EA) [] ∧
    shows strays .unlimited 78 none [] := by
  intro store named files process flags explains reads strays shows
  have unchanged : startProcess [Utf8.bytes "work"] process files = some process := by
    decide +kernel
  have parsesExplains : Arguments.parse (process.bytes? settingsVariable) explains =
      .ok ⟨some store, some named, false, .resolve 260 true⟩ := by decide +kernel
  have parsesReads : Arguments.parse (process.bytes? settingsVariable) reads =
      .ok ⟨some store, some named, false, .read "Ndp" "Path" .localMachine 3⟩ := by
    decide +kernel
  have parsesStrays : Arguments.parse (process.bytes? settingsVariable) strays =
      .ok ⟨none, some [0xFF], false, .resolve 260 false⟩ := by decide +kernel
  have loads (verbose : Bool) (command : Command) :
      Loads files none ⟨some store, some named, verbose, command⟩ installed briefSettings := {
    registry := .snapshot rfl installed.ofJson_toJson
    settings := .named ⟨_, rfl, briefSettings.ofJson_toJson, by decide +kernel⟩ }
  have lacks : ¬ ∃ registry settings, Loads files none
      ⟨none, some [0xFF], false, .resolve 260 false⟩ registry settings := by
    rintro ⟨registry, settings, -, given⟩
    cases given with
    | named gives =>
      obtain ⟨text, holds, -⟩ := gives
      cases holds
  have resolves : ((resolve briefSettings 260).runOn (.ofRegistry installed) process.environment
      .zero).answer = .ok ⟨"C:\\Fw\\v4\\WPF", .registeredInstallRoot, some "v4"⟩ := by
    decide +kernel
  have refuses : ((readString .localMachine "Ndp" "Path" 3).runOn (.ofRegistry installed)
      process.environment .zero).answer = .error (.store (.moreData 28 6)) := by decide +kernel
  have lines : lineBytes (explanation ⟨"C:\\Fw\\v4\\WPF", .registeredInstallRoot, some "v4"⟩) =
      Utf8.bytes
        "path = C:\\Fw\\v4\\WPF\nsource = registered install root\nversion = v4\n" := by
    decide +kernel
  have moreData : (LookupFailure.store (.moreData 28 6)).result = 0x800700EA := by decide +kernel
  have shown {words : List RawText} {sink : Sink} {arguments : Arguments} {code : Nat}
      {result : Option Int32} {written : List UInt8}
      (parses : Arguments.parse (process.bytes? settingsVariable) words = .ok arguments)
      (ends : Ends files none process.environment sink arguments code result written) :
      shows words sink code result written := by
    obtain ⟨outcome, -, shown, -, reports, starts⟩ := run_ends parses
    obtain ⟨rfl, rfl, rfl⟩ := (shown _ _ _).mp ends
    obtain ⟨completes, -⟩ := starts [Utf8.bytes "work"] process fun _ => none
    exact ⟨outcome, completes unchanged rfl, rfl, rfl, rfl, reports⟩
  refine ⟨unchanged, ⟨parsesExplains, parsesReads, parsesStrays⟩, ?whole, ?part, ?refused, ?strayed⟩
  case whole =>
    rw [← lines]
    exact shown parsesExplains
      (.written (loads _ _) (.explained resolves) fun _ unlimited => nomatch unlimited)
  case part =>
    exact shown parsesExplains (.cut (loads _ _) (.explained resolves) rfl (by decide +kernel)
      (by decide +kernel) (by decide +kernel))
  case refused =>
    rw [← moreData]
    exact shown parsesReads (.unanswered (loads _ _) (.value refuses))
  case strayed => exact shown parsesStrays (.unloaded lacks)

/-- An environment file that gives a value with a NUL, beside words that are accepted: the program
ends with a code that no request ends with. -/
theorem environment_file_aborts :
    let words := [Utf8.bytes "resolve"]
    let files : Files := .ofCopies [.ofText (Utf8.bytes "/work/.env") "A=\x00"]
    let ending := start words [Utf8.bytes "work"] [] (fun _ => none) files .unlimited
    Arguments.parse none words = .ok ⟨none, none, false, .resolve 260 false⟩ ∧
    ending = .aborted ∧ ending.exitCode = 101 ∧ ending.exitCode ∉ [78, 1, 0, 74] := by
  intro words files ending
  have accepted : Arguments.parse none words = .ok ⟨none, none, false, .resolve 260 false⟩ := by
    decide +kernel
  have stops : startProcess [Utf8.bytes "work"] [] files = none := by decide +kernel
  have aborts : ending = .aborted := start_eq_aborted_iff.mpr (startProcess_eq_none_iff.mp stops)
  refine ⟨accepted, aborts, ?_, ?_⟩
  · rw [aborts]
    rfl
  · rw [aborts]
    decide

end RuntimeLocator.Cli
