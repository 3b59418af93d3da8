/-
Reading values of a wanted shape: scalars, sequences, objects, records and variants.

A reader for a shape looks at the first character of the value. If it cannot begin
that shape, the value is read far enough to name it in the fault: a scalar to its
end, a sequence or an object by its bracket alone.
-/

import RuntimeLocator.Json.Skip

namespace RuntimeLocator.Json.Reader

variable {α σ : Type}

/-- Reports a wrong shape. -/
def mismatch (m : Mismatch) : Reader α :=
  fail (.wrongShape m)

/-- Reads the value that begins after the white space by its first character. -/
def onValue (read : Char → Reader α) : Reader α := do
  match ← peekAfterBlank with
  | none => fail (.ended .value)
  | some c => read c

/-- Reads the value that begins with `c` far enough to name it. -/
def found (c : Char) : Reader Found :=
  match c with
  | 'n' => do
    word ['n', 'u', 'l', 'l']
    return .null
  | 't' => do
    word ['t', 'r', 'u', 'e']
    return .boolean true
  | 'f' => do
    word ['f', 'a', 'l', 's', 'e']
    return .boolean false
  | '"' => do
    advance
    let s ← stringTail
    return .string s
  | '[' => return .sequence
  | '\x7b' => return .map
  | c =>
    if isDigit c || c == '-' then do
      let n ← number
      return n.found
    else fail (.malformed .valueExpected)

/-- Refuses the value that begins with `c`. -/
def refuse (expected : String) (c : Char) : Reader α := do
  let value ← found c
  mismatch (.wrongType value expected)

/-! ### Scalars -/

def null : Reader Unit :=
  onValue fun
    | 'n' => word ['n', 'u', 'l', 'l']
    | c => refuse "unit" c

def boolean : Reader Bool :=
  onValue fun
    | 't' => do
      word ['t', 'r', 'u', 'e']
      return true
    | 'f' => do
      word ['f', 'a', 'l', 's', 'e']
      return false
    | c => refuse "a boolean" c

def string : Reader String :=
  onValue fun
    | '"' => do
      advance
      stringTail
    | c => refuse "a string" c

/-- Reads a natural number below a bound. Doubles are refused, whole ones as well. -/
def natural (bound : Nat) (expected : String) : Reader Nat :=
  onValue fun c => do
    if isDigit c || c == '-' then
      match ← number with
      | .natural n =>
        if n < bound then return n
        else mismatch (.wrongValue (.integer n) expected)
      | .negative n => mismatch (.wrongValue (Number.negative n).found expected)
      | .float x => mismatch (.wrongType (.float x) expected)
    else refuse expected c

def uint8 : Reader UInt8 := do
  let n ← natural UInt8.size "u8"
  return UInt8.ofNat n

def uint32 : Reader UInt32 := do
  let n ← natural UInt32.size "u32"
  return UInt32.ofNat n

def uint64 : Reader UInt64 := do
  let n ← natural UInt64.size "u64"
  return UInt64.ofNat n

/-! ### Sequences -/

/-- Goes to the first element of a sequence, or to its closing bracket; the answer is
whether there is an element. -/
def firstElement : Reader Bool := do
  match ← peekAfterBlank with
  | none => fail (.ended .list)
  | some ']' => return false
  | some _ => return true

/-- Goes to the next element of a sequence, past a comma, or to its closing bracket. -/
def nextElement : Reader Bool := do
  match ← peekAfterBlank with
  | none => fail (.ended .list)
  | some ']' => return false
  | some ',' =>
    advance
    match ← peekAfterBlank with
    | none => fail (.ended .value)
    | some ']' => fail (.malformed .trailingComma)
    | some _ => return true
  | some _ => fail (.malformed .listCommaOrEndExpected)

theorem consumesIf_nextElement : nextElement.ConsumesIf (· = true) := by
  unfold nextElement
  refine consumesIf_bind_right _ fun next => ?_
  split
  · exact (consumes_fail _).consumesIf _
  · exact consumesIf_pure Bool.false_ne_true
  · exact (consumes_bind_left _ consumes_advance).consumesIf _
  · exact (consumes_fail _).consumesIf _

/-- Passes the closing bracket of a sequence, before which nothing may be left. -/
def closeSequence : Reader Unit := do
  match ← peekAfterBlank with
  | none => fail (.ended .list)
  | some ']' => advance
  | some ',' =>
    advance
    match ← peekAfterBlank with
    | some ']' => fail (.malformed .trailingComma)
    | _ => fail (.malformed .trailingCharacters)
  | some _ => fail (.malformed .trailingCharacters)

/-- One more element of a sequence, put before those already read. -/
def elementStep (element : Reader α) (read : List α) : Reader (Option (List α)) := do
  if ← nextElement then
    let a ← element
    return some (a :: read)
  else
    return none

theorem progresses_elementStep (element : Reader α) : Progresses (elementStep element) := by
  intro read
  refine consumesIf_bind consumesIf_nextElement fun more none_left => ?_
  rw [if_neg none_left]
  exact consumesIf_pure Bool.false_ne_true

/-- Reads a sequence of any length. -/
def sequence (element : Reader α) : Reader (List α) :=
  onValue fun
    | '[' => do
      advance
      if ← firstElement then
        let a ← element
        let read ← iterate (elementStep element) (progresses_elementStep element) [a]
        closeSequence
        return read.reverse
      else
        closeSequence
        return []
    | c => refuse "a sequence" c

/-! ### Objects -/

/-- Passes the colon after a key. -/
def colon : Reader Unit := do
  match ← peekAfterBlank with
  | none => fail (.ended .object)
  | some ':' => advance
  | some _ => fail (.malformed .colonExpected)

/-- Reads what stands after a key. -/
def member (value : Reader α) : Reader α := do
  colon
  value

/-- Reads a key that must come next. -/
def key (atEnd : Fault) : Reader String := do
  match ← peekAfterBlank with
  | none => fail atEnd
  | some '"' =>
    advance
    stringTail
  | some '\x7d' => fail (.malformed .trailingComma)
  | some _ => fail (.malformed .keyNotString)

/-- Reads the first key of an object; `none` at its closing bracket. -/
def firstKey : Reader (Option String) := do
  match ← peekAfterBlank with
  | none => fail (.ended .object)
  | some '\x7d' => return none
  | some _ =>
    let name ← key (.ended .object)
    return some name

/-- Reads the next key of an object, past a comma; `none` at its closing bracket. -/
def nextKey : Reader (Option String) := do
  match ← peekAfterBlank with
  | none => fail (.ended .object)
  | some '\x7d' => return none
  | some ',' =>
    advance
    let name ← key (.ended .value)
    return some name
  | some _ => fail (.malformed .objectCommaOrEndExpected)

theorem consumesIf_nextKey : nextKey.ConsumesIf (·.isSome) := by
  unfold nextKey
  refine consumesIf_bind_right _ fun next => ?_
  split
  · exact (consumes_fail _).consumesIf _
  · exact consumesIf_pure Bool.false_ne_true
  · exact (consumes_bind_left _ consumes_advance).consumesIf _
  · exact (consumes_fail _).consumesIf _

/-- One more member of an object: `entry` reads what stands after the key. -/
def memberStep (entry : σ → String → Reader σ) (state : σ) : Reader (Option σ) := do
  match ← nextKey with
  | none => return none
  | some name =>
    let state ← entry state name
    return some state

theorem progresses_memberStep (entry : σ → String → Reader σ) :
    Progresses (memberStep entry) := by
  intro state
  refine consumesIf_bind consumesIf_nextKey fun name absent => ?_
  cases name with
  | none => exact consumesIf_pure Bool.false_ne_true
  | some name => exact absurd rfl absent

/-- Reads the members of an object whose opening bracket has been passed, and its
closing bracket. -/
def members (entry : σ → String → Reader σ) (state : σ) : Reader σ := do
  match ← firstKey with
  | none =>
    advance
    return state
  | some name =>
    let state ← entry state name
    let state ← iterate (memberStep entry) (progresses_memberStep entry) state
    advance
    return state

/-- Reads an object member by member. -/
def object (entry : σ → String → Reader σ) (state : σ) : Reader σ :=
  onValue fun
    | '\x7b' => do
      advance
      members entry state
    | c => refuse "a map" c

/-! ### Records

A record is written as an object with its fields in any order, or as an array of them
in their own order. -/

/-- A field of a record: its name, and how its value goes into the record. -/
structure Field (σ : Type) where
  name : String
  read : σ → Reader σ

/-- Reads a member of a record written as an object. A field may come only once, and
a member that is no field is passed over. The names of the fields already read go
along with the record. -/
def fieldMember (fields : List (Field σ)) (state : σ × List String) (name : String) :
    Reader (σ × List String) :=
  match fields.find? (·.name == name) with
  | none => do
    member skipValue
    return state
  | some field =>
    if state.2.contains name then mismatch (.duplicateField name)
    else do
      let record ← member (field.read state.1)
      return (record, name :: state.2)

/-- Reads the fields of a record written as an array, from the place `index` on.
`short` says what is wrong with an array that has only so many elements, if anything. -/
def fieldElements (short : Nat → Option Mismatch) :
    Nat → List (Field σ) → σ → Reader σ
  | _, [], record => do
    closeSequence
    return record
  | index, field :: fields, record => do
    if ← (if index = 0 then firstElement else nextElement) then
      let record ← field.read record
      fieldElements short (index + 1) fields record
    else
      match short index with
      | some m => mismatch m
      | none => fieldElements short (index + 1) fields record

/-- Reads a record, starting from `record`: a field that is not written keeps the value
it has there. -/
def record (expected : String) (short : Nat → Option Mismatch) (fields : List (Field σ))
    (record : σ) : Reader σ :=
  onValue fun
    | '\x7b' => do
      advance
      let state ← members (fieldMember fields) (record, [])
      return state.1
    | '[' => do
      advance
      fieldElements short 0 fields record
    | c => refuse expected c

/-! ### Variants

A value of one of several variants is written as the name of its variant alone, or as
an object whose only member has that name. -/

/-- A variant: its name, what the name alone stands for, and how its body is read. -/
structure Variant (α : Type) where
  name : String
  bare : Except Mismatch α
  body : Reader α

/-- The variant of a name. -/
def named (variants : List (Variant α)) (name : String) : Reader (Variant α) :=
  match variants.find? (·.name == name) with
  | some v => return v
  | none => mismatch (.unknownVariant name (variants.map (·.name)))

/-- What the name of a variant stands for by itself. -/
def bareVariant (variants : List (Variant α)) (name : String) : Reader α := do
  let v ← named variants name
  match v.bare with
  | .ok a => return a
  | .error m => mismatch m

/-- Passes the bracket that closes the object of a variant. -/
def closeVariant : Reader Unit := do
  match ← peekAfterBlank with
  | none => fail (.ended .object)
  | some '\x7d' => advance
  | some _ => fail (.malformed .valueExpected)

/-- Reads a value of one of the variants. -/
def variant (variants : List (Variant α)) : Reader α :=
  onValue fun
    | '\x7b' => do
      advance
      match ← peekAfterBlank with
      | none => fail (.ended .object)
      | some '"' =>
        advance
        let name ← stringTail
        let v ← named variants name
        let a ← member v.body
        closeVariant
        return a
      | some '\x7d' => fail (.malformed .valueExpected)
      | some _ => fail (.malformed .keyNotString)
    | '"' => do
      advance
      let name ← stringTail
      bareVariant variants name
    | _ => fail (.malformed .valueExpected)

/-! ### Documents -/

/-- Accepts the end of the text, white space before it included. -/
def finish : Reader Unit := do
  match ← peekAfterBlank with
  | none => return ()
  | some _ => fail (.malformed .trailingCharacters)

/-- The value of a whole text. -/
def decode (x : Reader α) (text : String) : Except Fault α :=
  let whole : Reader α := do
    let a ← x
    finish
    return a
  match whole.run text.toList with
  | .error fault => .error fault
  | .ok (a, _) => .ok a

end RuntimeLocator.Json.Reader
