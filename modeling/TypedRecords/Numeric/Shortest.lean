import TypedRecords.Numeric.Double

/-!
The shortest decimal that stands for a number of double precision: of the
decimals that round to the number, one with the fewest digits, and of those the
nearest to it.
-/

set_option autoImplicit false

namespace TypedRecords.Numeric

/-- A decimal `0.d₁d₂… · 10 ^ point`, with the digits as one natural number. -/
structure Decimal where
  digits : Nat
  point : Int
  deriving DecidableEq

namespace Shortest

/-- A positive number with the ends of the interval that rounds to it, in a common unit `1 / unit`.
The ends belong to the interval when `closed` holds. -/
structure Target where
  low : Nat
  value : Nat
  high : Nat
  unit : Nat
  closed : Bool

/-- The interval of a finite number.  Below a power of two the neighbours lie twice as close. -/
def target (mantissa : Nat) (exponent : Int) : Target :=
  let below := if mantissa = Nat.pow 2 52 ∧ Double.leastExponent < exponent then 1 else 2
  let shift : Int := exponent - 2
  let scale := if 0 ≤ shift then Nat.pow 2 shift.toNat else 1
  { low := (4 * mantissa - below) * scale
    value := 4 * mantissa * scale
    high := (4 * mantissa + 2) * scale
    unit := if 0 ≤ shift then 1 else Nat.pow 2 (-shift).toNat
    closed := mantissa % 2 == 0 }

/-- The least `point` with `num / den < 10 ^ point`, for a positive quotient. -/
def pointOf (num den : Nat) : Int :=
  if den ≤ num then (decimalWidth (num / den) : Int)
  else
    let power := decimalWidth (den / num)
    if den ≤ num * Nat.pow 10 (power - 1) then 2 - (power : Int) else 1 - (power : Int)

def Target.holds (t : Target) (multiple : Nat) (step : Int) : Bool :=
  let (point, scale) :=
    if 0 ≤ step then (multiple * Nat.pow 10 step.toNat * t.unit, 1)
    else (multiple * t.unit, Nat.pow 10 (-step).toNat)
  if t.closed then t.low * scale ≤ point && point ≤ t.high * scale
  else t.low * scale < point && point < t.high * scale

/-- The multiple of `10 ^ step` in the interval that is nearest to the number, if there is one. -/
def Target.nearest? (t : Target) (step : Int) : Option Nat :=
  let (num, den) :=
    if 0 ≤ step then (t.value, t.unit * Nat.pow 10 step.toNat)
    else (t.value * Nat.pow 10 (-step).toNat, t.unit)
  let below := num / den
  let first := roundHalfEven num den
  let second := if first = below then below + 1 else below
  if t.holds first step then some first
  else if t.holds second step then some second
  else none

/-- The first grid, coarsest first, that has a point in the interval. -/
def Target.search (t : Target) (point : Int) (width : Nat) : Nat → Decimal
  | 0 => ⟨t.value / t.unit, decimalWidth (t.value / t.unit)⟩
  | tries + 1 =>
    match t.nearest? (point - width) with
    | some multiple =>
      if multiple = Nat.pow 10 width then ⟨1, point + 1⟩ else ⟨multiple, point⟩
    | none => t.search point (width + 1) tries

/-- The shortest decimal of a positive finite number; seventeen digits always suffice. -/
def decimal (mantissa : Nat) (exponent : Int) : Decimal :=
  let t := target mantissa exponent
  t.search (pointOf t.value t.unit) 1 17

end Shortest

end TypedRecords.Numeric
