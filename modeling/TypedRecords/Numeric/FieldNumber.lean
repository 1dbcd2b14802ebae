import TypedRecords.Numeric.LeadingNumber
import TypedRecords.Numeric.Limit
import TypedRecords.Numeric.NumberWord
import TypedRecords.Text.Blank

/-!
Texts that are accepted where a field asks for a number.  Only the ten digits of
the basic character set count.  An integer may have zeros behind a point; a
number of double precision may be infinite or no number, in any letter case.
Blanks around a number and single underscores within it are let pass, too: this is
what pydantic accepts in its lax mode.
-/

set_option autoImplicit false

namespace TypedRecords.Numeric.FieldNumber

open TypedRecords.Text (isPlainDigit isSpacing stripWhere)

def hasDoubleUnderscore : List Char → Bool
  | '_' :: '_' :: _ => true
  | _ :: rest => hasDoubleUnderscore rest
  | [] => false

/-- Takes underscores out that stand neither at an end nor next to each other; `none` if there are
no such underscores. -/
def ungrouped? (cs : List Char) : Option (List Char) :=
  if cs.head? = some '_' ∨ cs.getLast? = some '_' ∨ !cs.contains '_' ∨ hasDoubleUnderscore cs then
    none
  else some (cs.filter fun c => c != '_')

def digit (c : Char) : Nat :=
  c.toNat - '0'.toNat

/-- Drops zeros and underscores.  The last of them, which is given to begin with, stays in front of
a point and at the end. -/
def dropZeros (last : Char) : List Char → List Char
  | [] => [last]
  | c :: rest =>
    if c = '0' ∨ c = '_' then dropZeros c rest
    else if c = '.' then last :: c :: rest
    else c :: rest

def withoutLeadingZeros : List Char → List Char
  | [] => []
  | c :: rest => if c = '0' then dropZeros c rest else c :: rest

def withoutZeroFraction (cs : List Char) : List Char :=
  match cs.dropWhile fun c => c ≠ '.' with
  | '.' :: fraction =>
    if !fraction.isEmpty ∧ fraction.all fun c => c == '0' then cs.takeWhile fun c => c ≠ '.' else cs
  | _ => cs

def withoutPlus? : List Char → Option (List Char)
  | '+' :: '-' :: _ => none
  | '+' :: rest => some rest
  | cs => some cs

def splitMinus : List Char → List Char × List Char
  | '-' :: rest => (['-'], rest)
  | cs => ([], cs)

/-- Takes out of the characters behind a sign what does not count: leading zeros, a fraction of
zeros, and underscores between digits. -/
def cleanedMagnitude (cs : List Char) : List Char :=
  let cs := withoutZeroFraction (withoutLeadingZeros cs)
  (ungrouped? cs).getD cs

/-- The sign and digits that remain of a text for an integer when everything that does not count
has been taken out.  Where a minus sign stands behind leading zeros it is what remains first. -/
def cleaned? (text : String) : Option (List Char) :=
  (withoutPlus? (stripWhere isSpacing text.toList)).map fun cs =>
    let (sign, magnitude) := splitMinus cs
    sign ++ cleanedMagnitude magnitude

inductive IntegerFault where
  | notInteger
  | tooLong
  deriving DecidableEq

/-- The integer that a sign and digits write, of which there may not be too many; a zero in front
must stand alone. -/
def signedInteger? (cs : List Char) : Option Int :=
  let (sign, digits) := splitMinus cs
  if digits.isEmpty ∨ !digits.all isPlainDigit then none
  else if digits.head? = some '0' ∧ 1 < digits.length then none
  else if digitLimit < cs.length then none
  else
    let size := LeadingNumber.natural (digits.map digit)
    some (if sign.isEmpty then (size : Int) else -(size : Int))

/-- Whether the sign and digits that a text begins with are too many; those that begin with a zero
are not counted. -/
def beginsTooLong (text : String) : Bool :=
  let (sign, digits) := splitMinus text.toList
  digits.head? != some '0' &&
    digitLimit < sign.length + (digits.takeWhile isPlainDigit).length

/-- The integer that a text stands for.  That it is too long is told only of a text that begins
with the digits that are too many. -/
def integer (text : String) : Except IntegerFault Int :=
  if beginsTooLong text then .error .tooLong
  else
    match (cleaned? text).bind signedInteger? with
    | some n => .ok n
    | none => .error .notInteger

def unsignedNumber? (negative : Bool) (cs : List Char) : Option Double :=
  if !cs.all fun c => c.toNat < 0x80 then none
  else
    match LeadingNumber.splitDigitsWithPoint? cs with
    | none => none
    | some (whole, fraction, rest) =>
      match LeadingNumber.splitExponent rest with
      | (exponent, []) => some (LeadingNumber.assemble negative whole fraction exponent)
      | _ => none

/-- The number that a text without white space writes, as a word or in digits. -/
def bareNumber? (cs : List Char) : Option Double :=
  let (negative, unsigned) := LeadingNumber.splitSign cs
  match NumberWord.ofChars? unsigned with
  | some .infinity => some (.infinite negative)
  | some .notNumber => some .nan
  | none => unsignedNumber? negative unsigned

def number? (text : String) : Option Double :=
  match bareNumber? (stripWhere isSpacing text.toList) with
  | some x => some x
  | none => (ungrouped? text.toList).bind bareNumber?

end TypedRecords.Numeric.FieldNumber
