import TypedRecords.Numeric.LeadingNumber
import TypedRecords.Numeric.Limit
import TypedRecords.Text.Blank

/-!
Texts that as a whole stand for an integer: digits of any script with a sign
before them, white space around them and single underscores between them.
-/

set_option autoImplicit false

namespace TypedRecords.Numeric.WholeNumber

open TypedRecords.Text (digitValue? isSpacing stripWhere)

/-- The values of digits with single underscores between them.  `afterDigit` tells that a digit
went before, without which no underscore may come. -/
def groupedDigits? (afterDigit : Bool) : List Char → Option (List Nat)
  | [] => if afterDigit then some [] else none
  | c :: rest =>
    if c = '_' then if afterDigit then groupedDigits? false rest else none
    else (digitValue? c).bind fun d => (groupedDigits? true rest).map fun digits => d :: digits

/-- The integer that a text stands for; `none` also if it has too many digits. -/
def integer? (text : String) : Option Int :=
  let (negative, unsigned) := LeadingNumber.splitSign (stripWhere isSpacing text.toList)
  (groupedDigits? false unsigned).bind fun digits =>
    if digitLimit < digits.length then none
    else
      let size := LeadingNumber.natural digits
      some (if negative then -(size : Int) else (size : Int))

end TypedRecords.Numeric.WholeNumber
