import TypedRecords.Settings.Basic
import TypedRecords.Template.Token
import TypedRecords.Value.Printer

/-!
Filling in templates.  A name is looked up among the parameters of a call and
then among those of the device; null and the empty text do not count as values
of a call.  What is filled in is not looked at again.
-/

set_option autoImplicit false

namespace TypedRecords.Template

def isGiven : Value → Bool
  | .null => false
  | .text s => s != ""
  | _ => true

def resolve (device : Fields) (call : Option Fields) (name : String) : Value :=
  match (call.bind fun fields => Fields.get? fields name).filter isGiven with
  | some value => value
  | none => (Fields.get? device name).getD .null

/-- The text of a value: truth values in small letters, and numbers without fraction as
integers. -/
def textOf : Value → String
  | .bool b => if b then "true" else "false"
  | .float x =>
    match x.integer? with
    | some n => Value.integerText n
    | none => (Value.float x).plain
  | value => value.plain

def fill (policy : MissingPolicy) (value : Value) (token : Token) : String :=
  match value with
  | .null =>
    match policy with
    | .keep => String.ofList token.source
    | .empty => ""
  | value => textOf value

def formatToken (policy : MissingPolicy) (device : Fields) (call : Option Fields) :
    Token → String
  | .dollar => "$"
  | .char c => String.singleton c
  | .placeholder name braced =>
    fill policy (resolve device call name) (.placeholder name braced)

def format (policy : MissingPolicy) (template : String) (device : Fields)
    (call : Option Fields) : String :=
  String.join ((tokens template).map (formatToken policy device call))

def unknownPolicyMessage (name : String) : String :=
  Text.quoted name ++ " is not a valid MissingPlaceholder"

end TypedRecords.Template
