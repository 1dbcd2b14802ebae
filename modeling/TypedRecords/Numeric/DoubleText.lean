import TypedRecords.Numeric.Shortest

/-!
The written form of numbers of double precision: the shortest digits that read
back, laid out by a record of decisions, and a fixed number of places.
-/

set_option autoImplicit false

namespace TypedRecords.Numeric

structure DoubleLayout where
  /-- The least power of ten of the leading digit that is written without an exponent. -/
  leastPlain : Int
  /-- The least power of ten of the leading digit, above one, that takes an exponent again. -/
  leastScaled : Int
  /-- The least number of digits in an exponent. -/
  exponentWidth : Nat
  nanText : String
  infinityText : String

/-- Numbers are plain from `0.0001` up to sixteen digits, keep `.0`, and have an exponent of at
least two digits. -/
def DoubleLayout.standard : DoubleLayout :=
  { leastPlain := -4, leastScaled := 16, exponentWidth := 2, nanText := "nan",
    infinityText := "inf" }

def padded (width n : Nat) : String :=
  let digits := Nat.repr n
  String.ofList (List.replicate (width - digits.length) '0') ++ digits

/-- The digits with a decimal point after the first `point`, zeros filling up on either side. -/
def plainText (digits : List Char) (point : Int) : String :=
  if point ≤ 0 then
    "0." ++ String.ofList (List.replicate (-point).toNat '0' ++ digits)
  else
    let before := point.toNat
    let whole := digits.take before ++ List.replicate (before - digits.length) '0'
    let rest := digits.drop before
    String.ofList whole ++ "." ++ (if rest.isEmpty then "0" else String.ofList rest)

def scaledText (layout : DoubleLayout) (digits : List Char) (power : Int) : String :=
  let lead := String.ofList (digits.take 1)
  let rest := digits.drop 1
  let sign := if power < 0 then "-" else "+"
  lead ++ (if rest.isEmpty then "" else "." ++ String.ofList rest) ++
    "e" ++ sign ++ padded layout.exponentWidth power.natAbs

def Double.text (layout : DoubleLayout) : Double → String
  | .nan => layout.nanText
  | .infinite negative => (if negative then "-" else "") ++ layout.infinityText
  | .finite negative mantissa exponent =>
    let sign := if negative then "-" else ""
    if mantissa = 0 then sign ++ "0.0"
    else
      let shortest := Shortest.decimal mantissa exponent
      let digits := (Nat.repr shortest.digits).toList
      let power := shortest.point - 1
      if layout.leastPlain ≤ power ∧ power < layout.leastScaled then
        sign ++ plainText digits shortest.point
      else sign ++ scaledText layout digits power

/-- The text of a number with a fixed number of decimal places, at least one, rounded to the
nearest and in a tie to the even digit. -/
def Double.fixedText (layout : DoubleLayout) (places : Nat) : Double → String
  | .nan => layout.nanText
  | .infinite negative => (if negative then "-" else "") ++ layout.infinityText
  | .finite negative mantissa exponent =>
    let (num, den) := Double.magnitude mantissa exponent
    let scaled := roundHalfEven (num * Nat.pow 10 places) den
    (if negative then "-" else "") ++ Nat.repr (scaled / Nat.pow 10 places) ++ "." ++
      padded places (scaled % Nat.pow 10 places)

end TypedRecords.Numeric
