import TypedRecords.Numeric.FieldNumber
import TypedRecords.SemanticType.Reader
import TypedRecords.SemanticType.Schema
import TypedRecords.Signature.Basic
import TypedRecords.Value.Printer

/-!
Signatures from data.  A misspelled type ends the check at once, whatever else is
wrong; all other faults are collected, and only when there are none are the names
of the arguments compared.
-/

set_option autoImplicit false

namespace TypedRecords.Signature

open TypedRecords.Schema (Checked Fault FaultKind)

inductive Failure where
  | misspelledType (misspelling : SemanticType.Misspelling)
  | notObject (kindName : String)
  | invalid (faults : List Fault)
  | duplicate (argument function : String)
  deriving DecidableEq

def countText (n : Nat) : String :=
  Nat.repr n ++ " validation error" ++ (if n = 1 then "" else "s")

def Failure.message : Failure → String
  | .misspelledType misspelling => misspelling.message
  | .notObject kindName => "Signature must be a JSON object, got " ++ kindName
  | .invalid faults => "Invalid signature: " ++ countText faults.length ++ " for FunctionSignature"
  | .duplicate argument function =>
    "Duplicate argument '" ++ argument ++ "' in function '" ++
      (if function = "" then "<anonymous>" else function) ++ "'"

def checkDirection : Value → Checked Direction
  | .text name =>
    match Direction.ofName? name with
    | some direction => .ok direction
    | none => Checked.fault .notInChoice
  | _ => Checked.fault .notInChoice

def checkType : Value → Checked SemanticType
  | .text spelling =>
    match SemanticType.read spelling with
    | .ok type => .ok type
    | .error _ => Checked.fault .inconsistent
  | value => SemanticType.check value

def checkSourcePath (fields : Fields) : Checked (Option String) :=
  Schema.optional fields (if Fields.has fields "source_path" then "source_path" else "json_key")
    none Schema.optionalText

def checkArgument : Value → Checked Argument
  | .object fields =>
    ((Schema.required fields "name" Schema.text).both
      ((Schema.optional fields "direction" Direction.output checkDirection).both
        ((Schema.required fields "type" checkType).both (checkSourcePath fields)))).map
      fun (name, direction, type, sourcePath) => { name, direction, type, sourcePath }
  | _ => Checked.fault .notObject

/-- The greatest integers that a number of double precision is taken for. -/
def longestInteger : Int := 9223372036854775808

/-- An integer: a truth value as one or zero, a number without fraction, or a text of one. -/
def checkInteger : Value → Checked Int
  | .bool b => .ok (if b then 1 else 0)
  | .int n => .ok n
  | .float x =>
    match x.isFinite, x.integer? with
    | false, _ => Checked.fault .notFinite
    | true, none => Checked.fault .hasFraction
    | true, some n =>
      if -longestInteger < n ∧ n < longestInteger then .ok n else Checked.fault .longIntegerText
  | .text s =>
    match Numeric.FieldNumber.integer s with
    | .ok n => .ok n
    | .error .notInteger => Checked.fault .notIntegerText
    | .error .tooLong => Checked.fault .longIntegerText
  | _ => Checked.fault .notInteger

def checkOptionalInteger : Value → Checked (Option Int)
  | .null => .ok none
  | value => (checkInteger value).map some

/-- A signature from the fields of an object, names not yet compared. -/
def checkFields (fields : Fields) : Checked Signature :=
  ((Schema.optional fields "name" "" Schema.text).both
    ((Schema.optional fields "args" [] (Schema.list checkArgument)).both
      ((checkSourcePath fields).both
        (Schema.optional fields "poll_interval" none checkOptionalInteger)))).map
    fun (name, args, sourcePath, pollInterval) => { name, args, sourcePath, pollInterval }

def misspelling? : Value → Option SemanticType.Misspelling
  | .object fields =>
    match Fields.get? fields "type" with
    | some (.text spelling) =>
      match SemanticType.read spelling with
      | .ok _ => none
      | .error misspelling => some misspelling
    | _ => none
  | _ => none

def firstMisspelling? (fields : Fields) : Option SemanticType.Misspelling :=
  match Fields.get? fields "args" with
  | some (.list args) => args.findSome? misspelling?
  | _ => none

/-- The first name that occurs again, given those that have occurred. -/
def repeatedName? (seen : List String) : List Argument → Option String
  | [] => none
  | arg :: rest =>
    if seen.contains arg.name then some arg.name else repeatedName? (arg.name :: seen) rest

def ofValue : Value → Except Failure Signature
  | .object fields =>
    match firstMisspelling? fields with
    | some misspelling => .error (.misspelledType misspelling)
    | none =>
      match checkFields fields with
      | .error faults => .error (.invalid faults)
      | .ok signature =>
        match repeatedName? [] signature.args with
        | some name => .error (.duplicate name signature.name)
        | none => .ok signature
  | value => .error (.notObject value.kindName)

end TypedRecords.Signature
