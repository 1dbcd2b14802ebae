import TypedRecords.SemanticType.Basic
import TypedRecords.Value.Printer

/-!
Why a value is not coerced.  A rejection says that the value does not fit its
type.  Two failures are of another nature and are not rejections: an integer that
no amount can hold, and a date with more digits than are divided.
-/

set_option autoImplicit false

namespace TypedRecords.Coercion

open TypedRecords.Text (quoted)

inductive Rejection where
  | mismatch (value : Value) (typeName : String)
  | unexpected (value : Value) (typeName : String)
  | notNumber (text : String)
  | trailing (text : String)
  | noElementType

def describe (value : Value) : String :=
  value.kindName ++ " " ++ value.literal

def Rejection.message : Rejection → String
  | .mismatch value typeName => "Cannot coerce " ++ describe value ++ " to " ++ typeName
  | .unexpected value typeName => "Expected " ++ typeName ++ ", got " ++ describe value
  | .notNumber text => "Cannot parse " ++ quoted text ++ " as a number"
  | .trailing text => "Trailing characters after number in " ++ quoted text
  | .noElementType => "Array type has no element type"

inductive Failure where
  | rejected (rejection : Rejection)
  | hugeAmount
  | indivisibleDate

end TypedRecords.Coercion
