/-!
Rounding a quotient of natural numbers to the nearest natural number.
-/

set_option autoImplicit false

namespace TypedRecords.Numeric

/-- The natural number nearest to `num / den`; of two equally near ones the even. -/
def roundHalfEven (num den : Nat) : Nat :=
  let quotient := num / den
  let remainder := num % den
  if 2 * remainder < den then quotient
  else if den < 2 * remainder then quotient + 1
  else if quotient % 2 = 0 then quotient
  else quotient + 1

def decimalWidth (n : Nat) : Nat :=
  (Nat.toDigits 10 n).length

end TypedRecords.Numeric
