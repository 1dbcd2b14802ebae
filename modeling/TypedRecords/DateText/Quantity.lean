import TypedRecords.Numeric.LeadingNumber
import TypedRecords.Numeric.Limit
import TypedRecords.Numeric.NumberWord
import TypedRecords.Text.Digit

/-!
The numbers in the text of a date: decimals, of which the integer part and the
fraction count on their own.  Sixtieths of a fraction are worked out with
twenty-eight significant digits, as dateutil does with decimals.
-/

set_option autoImplicit false

namespace TypedRecords.DateText

open TypedRecords.Numeric (NumberWord digitLimit decimalWidth roundHalfEven)
open TypedRecords.Text (digitValue? digitsValue? isDigit)

/-- Why a text is not read as a date: it is not one, or a part of it has too many digits to be
divided. -/
inductive Failure where
  | notDate
  | indivisible
  deriving DecidableEq

def need {α : Type} : Option α → Except Failure α
  | none => .error .notDate
  | some a => .ok a

structure Quantity where
  coefficient : Nat
  places : Nat
  deriving DecidableEq

namespace Quantity

def ofToken? (token : String) : Option Quantity :=
  match Numeric.LeadingNumber.splitDigits token.toList with
  | ([], _) => none
  | (whole, []) => some ⟨Numeric.LeadingNumber.natural whole, 0⟩
  | (whole, '.' :: rest) =>
    match Numeric.LeadingNumber.splitDigits rest with
    | (fraction, []) =>
      some ⟨Numeric.LeadingNumber.natural (whole ++ fraction), fraction.length⟩
    | _ => none
  | _ => none

def ofToken (token : String) : Except Failure Quantity :=
  need (ofToken? token)

def whole (q : Quantity) : Nat :=
  q.coefficient / Nat.pow 10 q.places

def exceeds (q : Quantity) (n : Nat) : Bool :=
  n * Nat.pow 10 q.places < q.coefficient

def precision : Nat := 28

def rounded (q : Quantity) : Quantity :=
  let excess := decimalWidth q.coefficient - precision
  if excess = 0 then q
  else ⟨roundHalfEven q.coefficient (Nat.pow 10 excess) * Nat.pow 10 excess, q.places⟩

/-- The sixtieths of a unit that its fraction makes, if it has a fraction.  An integer part with
more digits than are kept cannot be split off. -/
def sixtieths (q : Quantity) : Except Failure (Option Nat) :=
  if Nat.pow 10 precision ≤ q.whole then .error .indivisible
  else
    let fraction : Quantity := ⟨q.coefficient % Nat.pow 10 q.places, q.places⟩
    if fraction.coefficient = 0 then .ok none
    else
      let kept := fraction.rounded
      let product : Quantity := ⟨60 * kept.coefficient, kept.places⟩
      .ok (some product.rounded.whole)

end Quantity

/-- Whether a token counts as a number: the words for infinity and for no number do. -/
def isNumeric (token : String) : Bool :=
  (Quantity.ofToken? token).isSome || (NumberWord.ofChars? token.toList).isSome

def isDigits (cs : List Char) : Bool :=
  !cs.isEmpty && cs.all isDigit

/-- The natural number that decimal digits write, of which there must be some and not too many. -/
def natural (cs : List Char) : Except Failure Nat :=
  if cs.isEmpty ∨ digitLimit < cs.length then .error .notDate else need (digitsValue? cs)

def slice (token : String) (first stop : Nat) : List Char :=
  (token.toList.take stop).drop first

/-- Seconds and microseconds of a numeral; of the decimals six count. -/
def secondsOf (cs : List Char) : Except Failure (Nat × Nat) :=
  if !cs.contains '.' then (natural cs).map fun seconds => (seconds, 0)
  else
    let fraction := (cs.dropWhile fun c => c ≠ '.').drop 1
    if fraction.contains '.' then .error .notDate
    else do
      let seconds ← natural (cs.takeWhile fun c => c ≠ '.')
      let microseconds ← natural ((fraction ++ List.replicate (6 - fraction.length) '0').take 6)
      return (seconds, microseconds)

end TypedRecords.DateText
