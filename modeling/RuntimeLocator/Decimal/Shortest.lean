/-
The shortest decimal of a double: the fewest significant digits that read back as
the same number, and among those the nearest.

A finite double is `mantissa · 2 ^ exponent`; every question about it is asked of
natural numbers. For one digit, two digits and so on, the two neighbours of the
number on that decimal grid are tried, and the first grid with a neighbour inside
the rounding interval gives the digits.
-/

namespace RuntimeLocator.Decimal

/-- The magnitude of a finite double, `mantissa · 2 ^ exponent`. -/
structure Binary where
  mantissa : Nat
  exponent : Int

/-- The leading bit of a mantissa, which the bits of a double leave out. -/
def implicitBit : Nat := 0x10000000000000

/-- The magnitude behind the bits of a finite double. -/
def Binary.ofFloat (x : Float) : Binary :=
  let bits := x.toBits.toNat % 0x8000000000000000
  let fraction := bits % implicitBit
  let biased := bits / implicitBit
  if biased = 0 then ⟨fraction, -1074⟩ else ⟨fraction + implicitBit, Int.ofNat biased - 1075⟩

/-- A positive number as a quotient of natural numbers. -/
structure Ratio where
  num : Nat
  den : Nat

/-- `n · 2 ^ e` as a quotient. -/
def Ratio.scaled (n : Nat) (e : Int) : Ratio :=
  if 0 ≤ e then ⟨n * Nat.pow 2 e.toNat, 1⟩ else ⟨n, Nat.pow 2 (-e).toNat⟩

/-- `n · 10 ^ e` as a quotient. -/
def Ratio.ofDecimal (n : Nat) (e : Int) : Ratio :=
  if 0 ≤ e then ⟨n * Nat.pow 10 e.toNat, 1⟩ else ⟨n, Nat.pow 10 (-e).toNat⟩

def Ratio.lt (a b : Ratio) : Bool :=
  a.num * b.den < b.num * a.den

/-- The reals that round to a double: from `low` to `high`, the ends included
exactly when the mantissa is even. -/
structure Interval where
  low : Ratio
  high : Ratio
  closed : Bool

/-- The interval around a positive double. It is half as wide below a power of two. -/
def Binary.interval (b : Binary) : Interval :=
  let atPower := b.mantissa = implicitBit ∧ -1074 < b.exponent
  { low := Ratio.scaled (4 * b.mantissa - (if atPower then 1 else 2)) (b.exponent - 2)
    high := Ratio.scaled (4 * b.mantissa + 2) (b.exponent - 2)
    closed := b.mantissa % 2 = 0 }

def Interval.holds (i : Interval) (x : Ratio) : Bool :=
  if i.closed then !x.lt i.low && !i.high.lt x else i.low.lt x && x.lt i.high

/-- Digits with the place of the point: `digits · 10 ^ exponent`. -/
structure Numeral where
  digits : Nat
  exponent : Int
deriving DecidableEq

/-- The least `j` up to a bound with `den ≤ num · 10 ^ j`. -/
def leastShift (num den : Nat) : Nat → Nat
  | 0 => 0
  | bound + 1 =>
    if den ≤ num then 0 else leastShift (num * 10) den bound + 1

/-- The power of ten of the leading digit. -/
def Ratio.magnitude (x : Ratio) : Int :=
  if x.den ≤ x.num then ((Nat.toDigits 10 (x.num / x.den)).length : Int) - 1
  else -(leastShift x.num x.den 400 : Int)

/-- The neighbour of `x` on the grid of `10 ^ exponent` that lies in the interval,
the nearer one if both do, and of two equally near the even one. -/
def onGrid? (x : Ratio) (interval : Interval) (exponent : Int) : Option Numeral :=
  let unit := Ratio.ofDecimal 1 exponent
  let below := x.num * unit.den / (x.den * unit.num)
  let remainder := x.num * unit.den % (x.den * unit.num)
  let lowFits : Bool := 0 < below && interval.holds (Ratio.ofDecimal below exponent)
  let highFits : Bool := interval.holds (Ratio.ofDecimal (below + 1) exponent)
  let preferLow : Bool :=
    2 * remainder < x.den * unit.num || (2 * remainder == x.den * unit.num && below % 2 == 0)
  match lowFits, highFits with
  | true, true => some ⟨if preferLow then below else below + 1, exponent⟩
  | true, false => some ⟨below, exponent⟩
  | false, true => some ⟨below + 1, exponent⟩
  | false, false => none

/-- Digits without trailing zeros. -/
def Numeral.trim (d : Numeral) : Nat → Numeral
  | 0 => d
  | bound + 1 =>
    if d.digits % 10 = 0 then Numeral.trim ⟨d.digits / 10, d.exponent + 1⟩ bound else d

/-- The shortest decimal of a positive double, given by its magnitude. -/
def Binary.shortest (b : Binary) : Numeral :=
  let x := Ratio.scaled b.mantissa b.exponent
  let top := x.magnitude
  let grids := (List.range 17).map fun (k : Nat) => top - Int.ofNat k
  match grids.findSome? (onGrid? x b.interval) with
  | some d => d.trim 20
  | none => ⟨0, 0⟩

/-- How a shortest decimal is laid out as text: positional when the point falls
within the bounds, counted in digits from the first one, and with an exponent
otherwise. -/
structure Layout where
  leastPoint : Int
  greatestPoint : Int

/-- An exponent with its sign, which is written before every exponent, and no more digits
than it has. -/
def exponentText (e : Int) : List Char :=
  (if 0 ≤ e then '+' else '-') :: Nat.toDigits 10 e.natAbs

/-- The text of a finite double: at least one digit on each side of the point in
positional form, and one before it where an exponent follows. -/
def Layout.render (layout : Layout) (x : Float) : String :=
  let sign := if 0x8000000000000000 ≤ x.toBits.toNat then "-" else ""
  let b := Binary.ofFloat x
  if b.mantissa = 0 then sign ++ "0.0" else
  let d := b.shortest
  let digits := Nat.toDigits 10 d.digits
  let point : Int := Int.ofNat digits.length + d.exponent
  let body :=
    if 0 ≤ d.exponent && point ≤ layout.greatestPoint then
      digits ++ List.replicate d.exponent.toNat '0' ++ ['.', '0']
    else if 0 < point && point ≤ layout.greatestPoint then
      digits.take point.toNat ++ '.' :: digits.drop point.toNat
    else if layout.leastPoint ≤ point && point ≤ 0 then
      '0' :: '.' :: List.replicate (-point).toNat '0' ++ digits
    else
      let tail := digits.drop 1
      digits.take 1 ++ (if tail.isEmpty then [] else '.' :: tail) ++
        'e' :: exponentText (point - 1)
  sign ++ String.ofList body

end RuntimeLocator.Decimal
