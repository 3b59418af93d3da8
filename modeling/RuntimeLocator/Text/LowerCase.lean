/-
Full lower-casing, the folding under which key paths and value names are compared.

Every capital becomes its lower-case letter, wherever it stands. Two rules go
beyond a letter at a time: U+0130 becomes two characters, and a capital sigma at
the end of a word becomes the final sigma.
-/

import RuntimeLocator.Text.LowerCase.Table
import RuntimeLocator.Text.Ranges

namespace RuntimeLocator.LowerCase

/-- Whether a run holds a code point. -/
def CaseRun.holds (run : CaseRun) (n : Nat) : Bool :=
  run.first ≤ n && n ≤ run.last && (n - run.first) % run.stride == 0

/-- The lower case of a code point by the runs of the table. -/
def lowerCode (n : Nat) : Nat :=
  match caseRuns.find? (·.holds n) with
  | some run => run.target + (n - run.first)
  | none => n

/-- The lower case of a character wherever it stands. -/
def lowerChar (c : Char) : List Char :=
  if c = '\u0130' then ['i', '\u0307'] else [Char.ofNat (lowerCode c.toNat)]

/-- Whether the first character that is not skipped is a letter with case. -/
def seesCased (cs : List Char) : Bool :=
  match cs.dropWhile (fun c => inRanges caseIgnorable c.toNat) with
  | [] => false
  | c :: _ => inRanges cased c.toNat

/-- The lower case of a capital sigma: final when a letter stands before it, given
from the sigma backwards, and none after it. -/
def lowerSigma (before after : List Char) : Char :=
  if seesCased before && !seesCased after then 'ς' else 'σ'

/-- The lower case of the characters that follow `before`, which is given backwards. -/
def lowerAfter (before : List Char) : List Char → List Char
  | [] => []
  | c :: after =>
    (if c = 'Σ' then [lowerSigma before after] else lowerChar c) ++ lowerAfter (c :: before) after

/-- The lower case of a text. -/
def lower (s : String) : String :=
  String.ofList (lowerAfter [] s.toList)

end RuntimeLocator.LowerCase
