import TypedRecords.Coercion.Failure
import TypedRecords.Numeric.LeadingNumber
import TypedRecords.Text.Blank

/-!
Numbers from texts.  A text stands for the number at its front; in strict mode
nothing may follow the number.
-/

set_option autoImplicit false

namespace TypedRecords.Coercion

open TypedRecords.Numeric (Double)
open TypedRecords.Text (stripBlank)

def readNumber (strict : Bool) (text : String) : Except Rejection Double :=
  match Numeric.LeadingNumber.split? (stripBlank text.toList) with
  | none => if strict then .error (.notNumber text) else .ok .nan
  | some (x, rest) => if strict ∧ !rest.isEmpty then .error (.trailing text) else .ok x

end TypedRecords.Coercion
