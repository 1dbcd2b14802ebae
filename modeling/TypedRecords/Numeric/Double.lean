import TypedRecords.Numeric.Rounding

/-!
Binary floating-point numbers of double precision, as exact data.  Every
operation computes the exact result on natural numbers and rounds it once, to
the nearest number, a tie going to the even significand.
-/

set_option autoImplicit false

namespace TypedRecords.Numeric

/-- A number of double precision.  A finite one is `± mantissa · 2 ^ exponent`; the operations
below keep to one representation, with a mantissa of 53 bits or, at the least exponent, fewer. -/
inductive Double where
  | nan
  | infinite (negative : Bool)
  | finite (negative : Bool) (mantissa : Nat) (exponent : Int)
  deriving DecidableEq, Inhabited

namespace Double

def leastExponent : Int := -1074

def greatestExponent : Int := 971

def zero (negative : Bool) : Double :=
  .finite negative 0 leastExponent

def inUnits (num den : Nat) (exponent : Int) : Nat × Nat :=
  if 0 ≤ exponent then (num, den * Nat.pow 2 exponent.toNat)
  else (num * Nat.pow 2 (-exponent).toNat, den)

/-- The exponent at which `num / den` has a significand of 53 bits, if it is not too small. -/
def exponentOf (num den : Nat) : Int :=
  let guess : Int := (num.log2 : Int) - (den.log2 : Int) - 52
  let (scaledNum, scaledDen) := inUnits num den guess
  max leastExponent (if scaledNum < Nat.pow 2 52 * scaledDen then guess - 1 else guess)

/-- The number nearest to `± num / den`; beyond the finite range it is infinite. -/
def ofRatio (negative : Bool) (num den : Nat) : Double :=
  if num = 0 then zero negative
  else
    let exponent := exponentOf num den
    let (scaledNum, scaledDen) := inUnits num den exponent
    let rounded := roundHalfEven scaledNum scaledDen
    let (mantissa, exponent) :=
      if rounded = Nat.pow 2 53 then (Nat.pow 2 52, exponent + 1) else (rounded, exponent)
    if greatestExponent < exponent then .infinite negative
    else .finite negative mantissa exponent

def finite? : Double → Option Double
  | .finite negative mantissa exponent => some (.finite negative mantissa exponent)
  | _ => none

/-- The number nearest to an integer over a positive natural number; `none` beyond the finite
range. -/
def ofIntRatio? (n : Int) (den : Nat) : Option Double :=
  (ofRatio (decide (n < 0)) n.natAbs den).finite?

/-- The number nearest to an integer; `none` beyond the finite range. -/
def ofInt? (n : Int) : Option Double :=
  ofIntRatio? n 1

/-- The number nearest to `± digits · 10 ^ power`.  Powers far outside the range decide the
result at once. -/
def ofDecimal (negative : Bool) (digits : Nat) (power : Int) : Double :=
  if digits = 0 then zero negative
  else if 400 < power then .infinite negative
  else if power < -(400 + digits.log2 : Int) then zero negative
  else if 0 ≤ power then ofRatio negative (digits * Nat.pow 10 power.toNat) 1
  else ofRatio negative digits (Nat.pow 10 (-power).toNat)

def magnitude (mantissa : Nat) (exponent : Int) : Nat × Nat :=
  if 0 ≤ exponent then (mantissa * Nat.pow 2 exponent.toNat, 1)
  else (mantissa, Nat.pow 2 (-exponent).toNat)

def divNat (x : Double) (den : Nat) : Double :=
  match x with
  | .finite negative mantissa exponent =>
    let (num, base) := magnitude mantissa exponent
    ofRatio negative num (base * den)
  | other => other

def mulNat (x : Double) (factor : Nat) : Double :=
  match x with
  | .finite negative mantissa exponent =>
    let (num, base) := magnitude mantissa exponent
    ofRatio negative (num * factor) base
  | other => other

/-- The integer that remains when the fraction is cut off; `none` for what is not finite. -/
def truncate? : Double → Option Int
  | .finite negative mantissa exponent =>
    let (num, den) := magnitude mantissa exponent
    some (if negative then -(num / den : Int) else (num / den : Int))
  | _ => none

def integer? : Double → Option Int
  | .finite negative mantissa exponent =>
    let (num, den) := magnitude mantissa exponent
    if num % den = 0 then (Double.finite negative mantissa exponent).truncate? else none
  | _ => none

/-- The fraction that is left when the integer part is taken away, with the sign of the number. -/
def fraction : Double → Double
  | .finite negative mantissa exponent =>
    let (num, den) := magnitude mantissa exponent
    ofRatio negative (num % den) den
  | _ => zero false

/-- The nearest integer, a tie going to the even one; `none` for what is not finite. -/
def round? : Double → Option Int
  | .finite negative mantissa exponent =>
    let (num, den) := magnitude mantissa exponent
    some (if negative then -(roundHalfEven num den : Int) else (roundHalfEven num den : Int))
  | _ => none

def isFinite : Double → Bool
  | .finite .. => true
  | _ => false

def isZero : Double → Bool
  | .finite _ mantissa _ => mantissa == 0
  | _ => false

end Double

end TypedRecords.Numeric
