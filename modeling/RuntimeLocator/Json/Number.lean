/-
Numbers in JSON. A whole number without fraction or exponent is kept exactly while
it fits 64 bits; every other number is a double.

A double is made from at most 64 bits of digits and a power of ten, by one
multiplication or division, so it may miss the nearest double by a little. Digits
beyond the 64 bits are dropped: before the point they still count towards the
power of ten.
-/

import RuntimeLocator.Json.Reader

namespace RuntimeLocator.Json

/-- A number as it was written: a natural number below `2 ^ 64`, the negative of a
positive number up to `2 ^ 63`, or a double. -/
inductive Number where
  | natural (n : Nat)
  | negative (n : Nat)
  | float (x : Float)

/-- What a number is called in messages. -/
def Number.found : Number → Found
  | .natural n => .integer n
  | .negative n => .integer (-(n : Int))
  | .float x => .float x

def isDigit (c : Char) : Bool :=
  '0' ≤ c && c ≤ '9'

def digitValue (c : Char) : Nat :=
  c.toNat - 0x30

/-- Digits gathered so far: what fits 64 bits, and how many digits came after that. -/
structure Gathered where
  value : Nat
  dropped : Nat

/-- Takes in one more digit; once one did not fit, none after it is taken. -/
def Gathered.push (g : Gathered) (c : Char) : Gathered :=
  if g.dropped = 0 && g.value * 10 + digitValue c < UInt64.size then
    ⟨g.value * 10 + digitValue c, 0⟩
  else ⟨g.value, g.dropped + 1⟩

/-- `10 ^ k` as a double, for `k` up to 308. -/
def powerOfTen (k : Nat) : Float :=
  Float.ofScientific 1 false k

/-- The double `x · 10 ^ exponent`, or `none` when it is too large. Far below one the
number is first brought closer, 308 places at a time. -/
def scale? (x : Float) (exponent : Int) : Option Float :=
  if exponent.natAbs ≤ 308 then
    if 0 ≤ exponent then
      let y := x * powerOfTen exponent.toNat
      if y.isInf then none else some y
    else some (x / powerOfTen exponent.natAbs)
  else if x == 0.0 then some x
  else if 0 ≤ exponent then none
  else scale? (x / powerOfTen 308) (exponent + 308)
termination_by exponent.natAbs
decreasing_by omega

namespace Reader

/-- Reads digits, none perhaps. -/
def digits : Reader (List Char) where
  run s := .ok (s.takeWhile isDigit, s.dropWhile isDigit)
  length_le h := by
    obtain ⟨-, rfl⟩ := Prod.mk.inj (Except.ok.inj h)
    exact (List.dropWhile_sublist isDigit).length_le

/-- Reads one digit or more. The fault of a text that ends instead is given. -/
def someDigits (atEnd : Fault) : Reader (List Char) := do
  match ← digits with
  | [] =>
    match ← peek with
    | none => fail atEnd
    | some _ => fail (.malformed .invalidNumber)
  | ds => return ds

theorem consumes_someDigits (atEnd : Fault) : (someDigits atEnd).Consumes := by
  intro s ds r h
  unfold someDigits at h
  rw [run_bind] at h
  cases s with
  | nil => cases h
  | cons c s =>
    by_cases hc : isDigit c
    · simp only [digits, List.takeWhile_cons_of_pos hc, List.dropWhile_cons_of_pos hc] at h
      obtain ⟨-, rfl⟩ := Prod.mk.inj (Except.ok.inj h)
      exact Nat.lt_succ_of_le (List.dropWhile_sublist isDigit).length_le
    · simp only [digits, List.takeWhile_cons_of_neg hc, List.dropWhile_cons_of_neg hc] at h
      cases h

/-- Reads the digits of a whole number: a leading zero stands alone. -/
def wholeDigits (atEnd : Fault) : Reader (List Char) := do
  match ← someDigits atEnd with
  | '0' :: _ :: _ => fail (.malformed .invalidNumber)
  | ds => return ds

theorem consumes_wholeDigits (atEnd : Fault) : (wholeDigits atEnd).Consumes :=
  consumes_bind_left _ (consumes_someDigits atEnd)

/-- Reads a sign, if there is one; the answer is whether it is a minus. -/
def sign : Reader Bool := do
  match ← peek with
  | some '+' =>
    advance
    return false
  | some '-' =>
    advance
    return true
  | _ => return false

/-- Whether a point or the mark of an exponent comes next, which it passes. -/
def passes (isMark : Char → Bool) : Reader Bool := do
  match ← peek with
  | none => return false
  | some c =>
    if isMark c then do
      advance
      return true
    else return false

def isPoint (c : Char) : Bool := c == '.'

def isExponentMark (c : Char) : Bool := c == 'e' || c == 'E'

/-- The double with these digits, scaled and signed. -/
def float (negative : Bool) (value : Nat) (exponent : Int) : Reader Number :=
  match scale? (UInt64.ofNat value).toFloat exponent with
  | none => fail (.malformed .numberOutOfRange)
  | some x => return .float (if negative then -x else x)

/-- The exponent that digits spell. It grows no further once it takes more than 31 bits. -/
def exponentOf (ds : List Char) : Nat :=
  ds.foldl (fun n c => if n < 0x80000000 then n * 10 + digitValue c else n) 0

/-- Reads what follows the mark of an exponent. An exponent of more than 31 bits makes
the number zero, or too large. -/
def exponent (negative : Bool) (value : Nat) (start : Int) : Reader Number := do
  let down ← sign
  let ds ← someDigits (.ended .value)
  let n := exponentOf ds
  if n < 0x80000000 then
    float negative value (if down then start - n else start + n)
  else if value ≠ 0 && !down then
    fail (.malformed .numberOutOfRange)
  else
    return .float (if negative then -0.0 else 0.0)

/-- Reads what follows the point. Each digit that is taken in lowers the power of ten
by one. -/
def fraction (negative : Bool) (value : Nat) (start : Int) : Reader Number := do
  let ds ← someDigits (.ended .value)
  let g := ds.foldl Gathered.push ⟨value, 0⟩
  let lowered : Nat := ds.length - g.dropped
  if ← passes isExponentMark then
    exponent negative g.value (start - lowered)
  else
    float negative g.value (start - lowered)

/-- The number whose digits end with the whole ones. Minus zero is a double. -/
def whole (negative : Bool) (g : Gathered) : Reader Number :=
  if g.dropped ≠ 0 then float negative g.value g.dropped
  else if !negative then return .natural g.value
  else if 0 < g.value && g.value ≤ 0x8000000000000000 then return .negative g.value
  else return .float (-(UInt64.ofNat g.value).toFloat)

/-- Reads the number that begins here, at a digit or a minus sign. -/
def number : Reader Number := do
  let negative ← passes (· == '-')
  let ds ← wholeDigits (.ended .value)
  let g := ds.foldl Gathered.push ⟨0, 0⟩
  if ← passes isPoint then fraction negative g.value g.dropped
  else if ← passes isExponentMark then exponent negative g.value g.dropped
  else whole negative g

/-! ### Numbers that are passed over

Their size does not matter, and a number that the end of the text cuts short is
malformed. -/

/-- Passes over what follows the mark of an exponent. -/
def skipExponent : Reader Unit := do
  let _ ← sign
  let _ ← someDigits (.malformed .invalidNumber)

/-- Passes over the number that begins here, at a digit or a minus sign. -/
def skipNumber : Reader Unit := do
  let _ ← passes (· == '-')
  let _ ← wholeDigits (.malformed .invalidNumber)
  if ← passes isPoint then
    let _ ← someDigits (.malformed .invalidNumber)
  if ← passes isExponentMark then
    skipExponent

theorem consumes_skipNumber : skipNumber.Consumes :=
  consumes_bind_right _ fun _ => consumes_bind_left _ (consumes_wholeDigits _)

end Reader

end RuntimeLocator.Json
