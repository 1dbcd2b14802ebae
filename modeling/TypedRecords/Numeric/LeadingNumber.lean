import TypedRecords.Numeric.Double
import TypedRecords.Text.Digit

/-!
The number at the front of a text: an optional sign, then either the word for
infinity, or digits with at most one point among or around them and perhaps an
exponent.  Digits of every script count.  As much is taken as makes a number.
-/

set_option autoImplicit false

namespace TypedRecords.Numeric.LeadingNumber

open TypedRecords.Text (digitValue? positional)

/-- The values of the digits at the front, and the characters behind them. -/
def splitDigits : List Char → List Nat × List Char
  | [] => ([], [])
  | c :: rest =>
    match digitValue? c with
    | none => ([], c :: rest)
    | some d =>
      let (digits, behind) := splitDigits rest
      (d :: digits, behind)

def natural (digits : List Nat) : Nat :=
  positional 10 digits

/-- A sign at the front, true for minus, and the characters behind it. -/
def splitSign : List Char → Bool × List Char
  | '-' :: rest => (true, rest)
  | '+' :: rest => (false, rest)
  | cs => (false, cs)

/-- The digits before and behind the point, of which there must be some. -/
def splitDigitsWithPoint? (cs : List Char) : Option (List Nat × List Nat × List Char) :=
  match splitDigits cs with
  | ([], '.' :: rest) =>
    match splitDigits rest with
    | ([], _) => none
    | (fraction, behind) => some ([], fraction, behind)
  | ([], _) => none
  | (whole, '.' :: rest) =>
    let (fraction, behind) := splitDigits rest
    some (whole, fraction, behind)
  | (whole, behind) => some (whole, [], behind)

/-- An exponent at the front, zero if there is none, and the characters behind it. -/
def splitExponent : List Char → Int × List Char
  | [] => (0, [])
  | e :: rest =>
    if e = 'e' ∨ e = 'E' then
      let (negative, unsigned) := splitSign rest
      match splitDigits unsigned with
      | ([], _) => (0, e :: rest)
      | (digits, behind) =>
        (if negative then -(natural digits : Int) else (natural digits : Int), behind)
    else (0, e :: rest)

def assemble (negative : Bool) (whole fraction : List Nat) (exponent : Int) : Double :=
  Double.ofDecimal negative (natural (whole ++ fraction)) (exponent - fraction.length)

def infinityWord : List Char := "Infinity".toList

def split? (cs : List Char) : Option (Double × List Char) :=
  let (negative, unsigned) := splitSign cs
  if infinityWord.isPrefixOf unsigned then
    some (.infinite negative, unsigned.drop infinityWord.length)
  else
    (splitDigitsWithPoint? unsigned).map fun (whole, fraction, rest) =>
      let (exponent, behind) := splitExponent rest
      (assemble negative whole fraction exponent, behind)

end TypedRecords.Numeric.LeadingNumber
