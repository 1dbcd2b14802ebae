import TypedRecords.Value.Basic

/-!
Checking loosely typed data against the fields that are expected.  A check
collects the faults of all fields, each with the place where it was found.  The
faults, their order and what passes for a field of some kind are those of pydantic
in its lax mode.
-/

set_option autoImplicit false

namespace TypedRecords.Schema

inductive Step where
  | field (name : String)
  | position (index : Nat)
  deriving DecidableEq

inductive FaultKind where
  | missing
  | notText
  | notList
  | notObject
  | notInChoice
  | inconsistent
  | notInteger
  | notIntegerText
  | longIntegerText
  | hasFraction
  | notFinite
  | notNumber
  deriving DecidableEq

def FaultKind.code : FaultKind → String
  | .missing => "missing"
  | .notText => "string_type"
  | .notList => "list_type"
  | .notObject => "model_type"
  | .notInChoice => "enum"
  | .inconsistent => "value_error"
  | .notInteger => "int_type"
  | .notIntegerText => "int_parsing"
  | .longIntegerText => "int_parsing_size"
  | .hasFraction => "int_from_float"
  | .notFinite => "finite_number"
  | .notNumber => "float_type"

structure Fault where
  place : List Step
  kind : FaultKind
  deriving DecidableEq

/-- The result of a check: what was checked, or the faults in the order of the fields. -/
abbrev Checked (α : Type) := Except (List Fault) α

def Checked.fault {α : Type} (kind : FaultKind) : Checked α :=
  .error [⟨[], kind⟩]

def Checked.faults {α : Type} : Checked α → List Fault
  | .ok _ => []
  | .error faults => faults

def Checked.below {α : Type} (step : Step) (check : Checked α) : Checked α :=
  check.mapError fun faults => faults.map fun fault => { fault with place := step :: fault.place }

def Checked.both {α β : Type} (first : Checked α) (second : Checked β) : Checked (α × β) :=
  match first, second with
  | .ok a, .ok b => .ok (a, b)
  | first, second => .error (Checked.faults first ++ Checked.faults second)

def text : Value → Checked String
  | .text s => .ok s
  | _ => Checked.fault .notText

def optionalText : Value → Checked (Option String)
  | .null => .ok none
  | .text s => .ok (some s)
  | _ => Checked.fault .notText

def required {α : Type} (fields : Fields) (name : String) (check : Value → Checked α) : Checked α :=
  Checked.below (.field name) (match Fields.get? fields name with
    | none => Checked.fault .missing
    | some value => check value)

/-- A field that may be left out for a value that is known beforehand. -/
def optional {α : Type} (fields : Fields) (name : String) (default : α)
    (check : Value → Checked α) : Checked α :=
  match Fields.get? fields name with
  | none => .ok default
  | some value => Checked.below (.field name) (check value)

def itemsFrom {α : Type} (check : Value → Checked α) (position : Nat) :
    List Value → Checked (List α)
  | [] => .ok []
  | value :: rest =>
    ((Checked.below (.position position) (check value)).both
      (itemsFrom check (position + 1) rest)).map fun (item, items) => item :: items

def list {α : Type} (check : Value → Checked α) : Value → Checked (List α)
  | .list values => itemsFrom check 0 values
  | _ => Checked.fault .notList

end TypedRecords.Schema
