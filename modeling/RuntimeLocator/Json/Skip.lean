/-
Passing over a JSON value of any shape and depth, as is done for the members of an
object that nobody asked for.

The brackets that are still open are kept as a list, innermost first, so the depth of
a value is bounded by nothing but its length.
-/

import RuntimeLocator.Json.Number
import RuntimeLocator.Json.Text

namespace RuntimeLocator.Json

/-- A bracket that is still open. -/
inductive Bracket where
  | list
  | object
deriving DecidableEq

/-- What ends a text that ends inside the bracket. -/
def Bracket.unfinished : Bracket → Unfinished
  | .list => .list
  | .object => .object

/-- What is wrong when a value inside the bracket is followed by something else. -/
def Bracket.commaOrEndExpected : Bracket → Flaw
  | .list => .listCommaOrEndExpected
  | .object => .objectCommaOrEndExpected

/-- The character that closes the bracket. -/
def Bracket.closing : Bracket → Char
  | .list => ']'
  | .object => '\x7d'

/-- A place inside a value that is being passed over. -/
inductive SkipState where
  /-- A value comes next, inside these brackets. -/
  | value (brackets : List Bracket)
  /-- The innermost bracket has just been opened. -/
  | opened (inner : Bracket) (outer : List Bracket)
  /-- A value has just ended, inside these brackets. -/
  | ended (brackets : List Bracket)

namespace Reader

/-- Passes over a key and its colon. -/
def skipKey : Reader Unit := do
  match ← peekAfterBlank with
  | none => fail (.ended .object)
  | some '"' =>
    advance
    skipString
    match ← peekAfterBlank with
    | none => fail (.ended .object)
    | some ':' => advance
    | some _ => fail (.malformed .colonExpected)
  | some _ => fail (.malformed .keyNotString)

/-- Passes over what stands before a value inside a bracket: a key in an object. -/
def skipKeyIn : Bracket → Reader Unit
  | .list => pure ()
  | .object => skipKey

/-- Passes over a value up to its end, or up to the bracket that it opens. -/
def skipStart (brackets : List Bracket) : Reader SkipState := do
  match ← peekAfterBlank with
  | none => fail (.ended .value)
  | some 'n' =>
    word ['n', 'u', 'l', 'l']
    return .ended brackets
  | some 't' =>
    word ['t', 'r', 'u', 'e']
    return .ended brackets
  | some 'f' =>
    word ['f', 'a', 'l', 's', 'e']
    return .ended brackets
  | some '"' =>
    advance
    skipString
    return .ended brackets
  | some '[' =>
    advance
    return .opened .list brackets
  | some '\x7b' =>
    advance
    return .opened .object brackets
  | some c =>
    if isDigit c || c == '-' then
      skipNumber
      return .ended brackets
    else fail (.malformed .valueExpected)

/-- Passes over what follows an opening bracket: the closing one, or the first value
with whatever stands before it. -/
def skipOpened (inner : Bracket) (outer : List Bracket) : Reader SkipState := do
  match ← peekAfterBlank with
  | none => fail (.ended inner.unfinished)
  | some c =>
    if c = inner.closing then
      advance
      return .ended outer
    else
      skipKeyIn inner
      skipStart (inner :: outer)

/-- Passes over what follows a value inside a bracket: the closing bracket, or a comma
and whatever stands before the next value. -/
def skipEnded (inner : Bracket) (outer : List Bracket) : Reader SkipState := do
  match ← peekAfterBlank with
  | none => fail (.ended inner.unfinished)
  | some c =>
    if c = ',' then
      advance
      skipKeyIn inner
      return .value (inner :: outer)
    else if c = inner.closing then
      advance
      return .ended outer
    else fail (.malformed inner.commaOrEndExpected)

/-- One step of passing over a value; `none` when the value is complete. -/
def skipStep : SkipState → Reader (Option SkipState)
  | .value brackets => do
    let state ← skipStart brackets
    return some state
  | .opened inner outer => do
    let state ← skipOpened inner outer
    return some state
  | .ended [] => return none
  | .ended (inner :: outer) => do
    let state ← skipEnded inner outer
    return some state

/-! ### Every step takes something -/

theorem consumes_skipStart (brackets : List Bracket) : (skipStart brackets).Consumes := by
  unfold skipStart
  refine consumes_bind_right _ fun next => ?_
  split
  · exact consumes_fail _
  · exact consumes_bind_left _ (consumes_word _ _)
  · exact consumes_bind_left _ (consumes_word _ _)
  · exact consumes_bind_left _ (consumes_word _ _)
  · exact consumes_bind_left _ consumes_advance
  · exact consumes_bind_left _ consumes_advance
  · exact consumes_bind_left _ consumes_advance
  · split
    · exact consumes_bind_left _ consumes_skipNumber
    · exact consumes_fail _

theorem consumes_skipOpened (inner : Bracket) (outer : List Bracket) :
    (skipOpened inner outer).Consumes := by
  unfold skipOpened
  refine consumes_bind_right _ fun next => ?_
  split
  · exact consumes_fail _
  · split
    · exact consumes_bind_left _ consumes_advance
    · exact consumes_bind_right _ fun _ => consumes_skipStart _

theorem consumes_skipEnded (inner : Bracket) (outer : List Bracket) :
    (skipEnded inner outer).Consumes := by
  unfold skipEnded
  refine consumes_bind_right _ fun next => ?_
  split
  · exact consumes_fail _
  · split
    · exact consumes_bind_left _ consumes_advance
    · split
      · exact consumes_bind_left _ consumes_advance
      · exact consumes_fail _

theorem progresses_skipStep : Progresses skipStep := by
  intro state
  match state with
  | .value brackets => exact (consumes_bind_left _ (consumes_skipStart brackets)).consumesIf _
  | .opened inner outer =>
    exact (consumes_bind_left _ (consumes_skipOpened inner outer)).consumesIf _
  | .ended [] => exact consumesIf_pure Bool.false_ne_true
  | .ended (inner :: outer) =>
    exact (consumes_bind_left _ (consumes_skipEnded inner outer)).consumesIf _

/-- Passes over the value that comes next. -/
def skipValue : Reader Unit := do
  let _ ← iterate skipStep progresses_skipStep (.value [])

end Reader

end RuntimeLocator.Json
