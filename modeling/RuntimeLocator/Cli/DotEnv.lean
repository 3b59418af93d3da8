/-
Environment files: lines that set variables for a run without touching those that are
already set.

The text is first cut into logical lines, which quotes and backslashes can carry over
line ends, and each logical line is then read as a comment, nothing, or a variable with
its value. Loading ends silently at the first line that cannot be read.
-/

import RuntimeLocator.Environment
import RuntimeLocator.Text.Alphanumeric
import RuntimeLocator.Text.Blank

namespace RuntimeLocator.Cli.DotEnv

/-! ### Logical lines -/

/-- Where the reading of a line stands with regard to quotes, backslashes and blanks. -/
inductive LineState where
  | plain
  | afterBlank
  | escaped
  | weak
  | weakEscaped
  | strong
  | strongEscaped
deriving DecidableEq

/-- The state after one more character; `none` where a comment begins. -/
def LineState.next : LineState → Char → Option LineState
  | .afterBlank, c =>
    if c = '#' then none
    else if c = '\\' then some .escaped
    else if c = '"' then some .weak
    else if c = '\'' then some .strong
    else some .plain
  | .plain, c =>
    if Blank.isBlank c && c != '\n' && c != '\r' then some .afterBlank
    else if c = '\\' then some .escaped
    else if c = '"' then some .weak
    else if c = '\'' then some .strong
    else some .plain
  | .escaped, _ => some .plain
  | .weak, c =>
    if c = '\\' then some .weakEscaped
    else if c = '"' then some .plain
    else some .weak
  | .weakEscaped, _ => some .weak
  | .strong, c =>
    if c = '\\' then some .strongEscaped
    else if c = '\'' then some .plain
    else some .strong
  | .strongEscaped, _ => some .strong

/-- Follows a physical line. The answer is the state at its end, or the characters before
the comment in it. -/
def LineState.follow (state : LineState) : List Char → Except (List Char) LineState
  | [] => .ok state
  | c :: cs =>
    match state.next c with
    | none => .error []
    | some state =>
      match state.follow cs with
      | .ok state => .ok state
      | .error before => .error (c :: before)

/-- A line without its line end. -/
def dropLineEnd (line : List Char) : List Char :=
  match line.reverse with
  | '\n' :: '\r' :: rest => rest.reverse
  | '\n' :: rest => rest.reverse
  | _ => line

/-- Joins physical lines into logical ones. A physical line that is no text, or quotes
that are still open at the end, give `none`, after which nothing more comes. -/
def joinLines (state : LineState) (before : List Char) :
    List (Option (List Char)) → List (Option (List Char))
  | [] => if state = .plain then [] else [none]
  | none :: _ => [none]
  | some line :: lines =>
    if (Blank.dropLeading (before ++ line)).head? = some '#' then
      some [] :: joinLines .plain [] lines
    else
      match state.follow line with
      | .error kept => some (before ++ kept) :: joinLines .plain [] lines
      | .ok .plain => some (dropLineEnd (before ++ line)) :: joinLines .plain [] lines
      | .ok state => joinLines state (before ++ line) lines

/-- The physical lines of some bytes, each with its line end. -/
def splitLines : List UInt8 → List (List UInt8)
  | [] => []
  | b :: bytes =>
    if b = 10 then [b] :: splitLines bytes
    else
      match splitLines bytes with
      | [] => [[b]]
      | line :: lines => (b :: line) :: lines

/-- The bytes after a byte order mark, if there is one. -/
def dropMark (bytes : List UInt8) : List UInt8 :=
  match bytes with
  | 0xEF :: 0xBB :: 0xBF :: rest => rest
  | bytes => bytes

/-- The logical lines of a file. -/
def logicalLines (bytes : List UInt8) : List (Option (List Char)) :=
  joinLines .plain []
    ((splitLines (dropMark bytes)).map fun line => (Utf8.strict? line).map String.toList)

/-! ### Values -/

/-- A variable that a value may refer to: those of the process come first, and then
those that earlier lines named. -/
structure Scope where
  process : ProcessBlock
  named : List (String × String)

/-- The value of a variable of the process, if it is a text. -/
def processText? (process : ProcessBlock) (name : String) : Option String :=
  (process.bytes? name).bind Utf8.strict?

/-- What a reference to a variable stands for; nothing, if there is none of that name. -/
def Scope.refer (scope : Scope) (name : String) : List Char :=
  match processText? scope.process name with
  | some text => text.toList
  | none =>
    match scope.named.find? (·.1 == name) with
    | some v => v.2.toList
    | none => []

/-- Whether a reference is being read, and whether it stands in braces. -/
inductive Reference where
  | none
  | bare
  | braced
deriving DecidableEq

/-- A value while it is being read. The name of a reference and the value itself are
gathered from their ends: the last character comes first. -/
structure ValueState where
  strong : Bool
  weak : Bool
  escaped : Bool
  /-- Whether only a comment may follow. -/
  ended : Bool
  reference : Reference
  name : List Char
  output : List Char

def ValueState.start : ValueState := ⟨false, false, false, false, .none, [], []⟩

def ValueState.push (state : ValueState) (c : Char) : ValueState :=
  { state with output := c :: state.output }

/-- Puts what the reference stands for in its place. -/
def ValueState.substitute (state : ValueState) (scope : Scope) : ValueState :=
  { state with
    output := (scope.refer (String.ofList state.name.reverse)).reverse ++ state.output
    name := [] }

/-- The character behind a backslash in a value. -/
def unescape? (c : Char) : Option Char :=
  if c = '\\' ∨ c = '\'' ∨ c = '"' ∨ c = '$' ∨ c = ' ' then some c
  else if c = 'n' then some '\n'
  else none

/-- One more character inside a reference. A bare name ends at the first character that
is neither a letter nor a number, which then stands for itself, quotes included. -/
def ValueState.inReference (scope : Scope) (state : ValueState) (c : Char) : ValueState :=
  if Alphanumeric.isAlphanumeric c then { state with name := c :: state.name }
  else
    match state.reference with
    | .braced =>
      if c = '\x7d' then { state.substitute scope with reference := .none }
      else { state with name := c :: state.name }
    | _ =>
      if c = '\x7b' && state.name.isEmpty then { state with reference := .braced }
      else
        let state := state.substitute scope
        if c = '$' then { state with reference := .bare }
        else { state with reference := .none }.push c

/-- The value at the end of its characters, unless quotes or braces are still open. -/
def ValueState.finish (scope : Scope) (state : ValueState) : Option (List Char) :=
  if state.reference = .braced || state.strong || state.weak then none
  else some (state.substitute scope).output.reverse

/-- The value of the characters that follow, or `none` if they make none. -/
def readValue (scope : Scope) (state : ValueState) : List Char → Option (List Char)
  | [] => state.finish scope
  | c :: cs =>
    if state.ended then
      if c = ' ' ∨ c = '\t' then readValue scope state cs
      else if c = '#' then state.finish scope
      else none
    else if state.escaped then
      match unescape? c with
      | some d => readValue scope ({ state with escaped := false }.push d) cs
      | none => none
    else if state.strong then
      if c = '\'' then readValue scope { state with strong := false } cs
      else readValue scope (state.push c) cs
    else if state.reference ≠ .none then readValue scope (state.inReference scope c) cs
    else if c = '$' then readValue scope { state with reference := .bare } cs
    else if state.weak then
      if c = '"' then readValue scope { state with weak := false } cs
      else if c = '\\' then readValue scope { state with escaped := true } cs
      else readValue scope (state.push c) cs
    else if c = '\'' then readValue scope { state with strong := true } cs
    else if c = '"' then readValue scope { state with weak := true } cs
    else if c = '\\' then readValue scope { state with escaped := true } cs
    else if c = ' ' ∨ c = '\t' then readValue scope { state with ended := true } cs
    else readValue scope (state.push c) cs

/-! ### Lines -/

def isKeyStart (c : Char) : Bool :=
  c.isAlpha || c == '_'

def isKeyChar (c : Char) : Bool :=
  c.isAlphanum || c == '_' || c == '.'

/-- Reads a key, and white space after it. -/
def readKey (line : List Char) : Option (String × List Char) :=
  match line with
  | [] => none
  | c :: _ =>
    if isKeyStart c then
      some (String.ofList (line.takeWhile isKeyChar),
        Blank.dropLeading (line.dropWhile isKeyChar))
    else none

/-- The rest of a line after its key and the equals sign. The key may have `export`
before it, and `export` may be the key itself. -/
def readAssignment (line : List Char) : Option (String × List Char) :=
  match readKey line with
  | some (key, '=' :: rest) => some (key, rest)
  | some ("export", rest) =>
    match readKey rest with
    | some (key, '=' :: rest) => some (key, rest)
    | _ => none
  | _ => none

/-- What a logical line says. -/
inductive Line where
  | nothing
  | assignment (name value : String)
  | unreadable

/-- Reads a logical line. -/
def readLine (scope : Scope) (line : List Char) : Line :=
  match Blank.dropLeading (Blank.dropTrailing line) with
  | [] | '#' :: _ => .nothing
  | line =>
    match readAssignment line with
    | none => .unreadable
    | some (key, rest) =>
      match Blank.dropLeading rest with
      | [] | '#' :: _ => .assignment key ""
      | rest =>
        match readValue scope .start rest with
        | none => .unreadable
        | some value => .assignment key (String.ofList value)

/-- Loads logical lines into a process. A variable that is set to a text already stays as
it is. A value with a NUL cannot be set; the answer is then `none`. -/
def loadLines (process : ProcessBlock) (named : List (String × String)) :
    List (Option (List Char)) → Option ProcessBlock
  | [] => some process
  | none :: _ => some process
  | some line :: lines =>
    match readLine ⟨process, named⟩ line with
    | .nothing => loadLines process named lines
    | .unreadable => some process
    | .assignment name value =>
      if (processText? process name).isSome then
        loadLines process ((name, value) :: named) lines
      else if value.toList.contains '\x00' then none
      else loadLines (process.set name (Utf8.bytes value)) ((name, value) :: named) lines

/-- Loads an environment file into a process. -/
def load (process : ProcessBlock) (bytes : List UInt8) : Option ProcessBlock :=
  loadLines process [] (logicalLines bytes)

end RuntimeLocator.Cli.DotEnv
