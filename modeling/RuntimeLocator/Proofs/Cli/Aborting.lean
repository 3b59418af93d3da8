/-
When an environment file stops the program.

Lines are read one after the other, each in the scope that those before it left. The first that
cannot be read ends the loading, and nothing else comes of it. Only a value with a NUL, given to a
variable that holds no text, stops the program (`loadLines_eq_none_iff`), and then the program ends
before it has read its words (`start_eq_aborted_iff`).
-/

import RuntimeLocator.Cli.Run

namespace RuntimeLocator.Cli

namespace DotEnv

/-- Of the lines that are still to be read, one stops the program: it gives a value with a NUL to a
variable that holds no text, and all before it can be read. -/
inductive Stops : Scope → List (Option (List Char)) → Prop where
  | here {scope : Scope} {line : List Char} {lines : List (Option (List Char))}
      {name value : String} (reads : readLine scope line = .assignment name value)
      (free : processText? scope.process name = none) (nul : '\x00' ∈ value.toList) :
      Stops scope (some line :: lines)
  | blank {scope : Scope} {line : List Char} {lines : List (Option (List Char))}
      (reads : readLine scope line = .nothing) (later : Stops scope lines) :
      Stops scope (some line :: lines)
  | kept {scope : Scope} {line : List Char} {lines : List (Option (List Char))}
      {name value text : String} (reads : readLine scope line = .assignment name value)
      (holds : processText? scope.process name = some text)
      (later : Stops ⟨scope.process, (name, value) :: scope.named⟩ lines) :
      Stops scope (some line :: lines)
  | set {scope : Scope} {line : List Char} {lines : List (Option (List Char))}
      {name value : String} (reads : readLine scope line = .assignment name value)
      (free : processText? scope.process name = none) (fits : '\x00' ∉ value.toList)
      (later : Stops ⟨scope.process.set name (Utf8.bytes value), (name, value) :: scope.named⟩
        lines) :
      Stops scope (some line :: lines)

theorem loadLines_eq_none_iff {scope : Scope} {lines : List (Option (List Char))} :
    loadLines scope.process scope.named lines = none ↔ Stops scope lines := by
  constructor
  case mp =>
    intro stops
    induction lines generalizing scope with
    | nil => cases stops
    | cons line lines ih =>
      cases line with
      | none => cases stops
      | some line =>
        rw [loadLines] at stops
        split at stops
        case h_1 reads => exact .blank reads (ih stops)
        case h_2 => cases stops
        case h_3 name value reads =>
          cases holds : processText? scope.process name with
          | some text =>
            rw [holds, if_pos Option.isSome_some] at stops
            exact .kept reads holds (ih stops)
          | none =>
            rw [holds, if_neg (by simp)] at stops
            split at stops
            case isTrue nul => exact .here reads holds (by simpa using nul)
            case isFalse fits =>
              exact .set reads holds (by simpa using fits) (ih stops)
  case mpr =>
    intro stops
    induction stops with
    | here reads free nul =>
      rw [loadLines, reads]
      simp [free, nul]
    | blank reads later ih =>
      rw [loadLines, reads]
      exact ih
    | kept reads holds later ih =>
      rw [loadLines, reads]
      simp only [holds, Option.isSome_some, if_true]
      exact ih
    | set reads free fits later ih =>
      rw [loadLines, reads]
      simpa [free, fits] using ih

end DotEnv

/-- The environment file that is found stops the program. -/
def Aborts (workingDirectory : List RawText) (process : ProcessBlock) (files : Files) : Prop :=
  ∃ path bytes, firstFile? files (environmentFiles workingDirectory) = some path ∧
    files.read path = .ok bytes ∧ DotEnv.Stops ⟨process, []⟩ (DotEnv.logicalLines bytes)

section Starting

variable {workingDirectory : List RawText} {process : ProcessBlock} {files : Files}

theorem startProcess_eq_none_iff :
    startProcess workingDirectory process files = none ↔
      Aborts workingDirectory process files := by
  unfold startProcess
  constructor
  case mp =>
    intro stops
    split at stops
    case h_1 => cases stops
    case h_2 path found =>
      split at stops
      case h_1 => cases stops
      case h_2 bytes holds =>
        exact ⟨path, bytes, found, holds, DotEnv.loadLines_eq_none_iff.mp stops⟩
  case mpr =>
    rintro ⟨path, bytes, found, holds, stops⟩
    simp only [found, holds]
    exact DotEnv.loadLines_eq_none_iff.mpr stops

theorem start_eq_aborted_iff {words : List RawText} {locate : ProcessBlock → Option Path}
    {sink : Sink} :
    start words workingDirectory process locate files sink = .aborted ↔
      Aborts workingDirectory process files := by
  rw [← startProcess_eq_none_iff, start]
  cases startProcess workingDirectory process files with
  | none => exact iff_of_true rfl rfl
  | some started =>
    refine iff_of_false ?_ nofun
    dsimp only
    cases run words started (locate started) files sink with
    | error refusal => exact nofun
    | ok outcome => exact nofun

end Starting

end RuntimeLocator.Cli
