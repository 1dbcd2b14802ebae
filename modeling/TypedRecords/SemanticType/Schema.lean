import TypedRecords.Schema.Fault
import TypedRecords.SemanticType.Basic

/-!
Types as data: an object with the name of the kind, the element type of an array,
and the labels.  Exactly the arrays have an element type.  Data are checked as
pydantic does in its lax mode, but at any depth: pydantic itself stops at arrays of
255 levels, of which it neither reads nor writes the data.
-/

set_option autoImplicit false

namespace TypedRecords.SemanticType

open TypedRecords.Schema (Checked FaultKind Step)

inductive Kind where
  | leaf (kind : LeafKind)
  | array
  deriving DecidableEq

def kindOf : Value → Checked Kind
  | .text name =>
    if name = arrayName then .ok .array
    else
      match LeafKind.ofName? name with
      | some kind => .ok (.leaf kind)
      | none => Checked.fault .notInChoice
  | _ => Checked.fault .notInChoice

/-- A type of its kind, element type and labels, if they go together. -/
def assemble : Kind → Option SemanticType → TypeLabels → Checked SemanticType
  | .array, some element, labels => .ok (.array element labels)
  | .leaf kind, none, labels => .ok (.leaf kind labels)
  | _, _, _ => Checked.fault .inconsistent

def labelsOf (fields : Fields) : Checked TypeLabels :=
  ((Schema.optional fields "unit" none Schema.optionalText).both
    ((Schema.optional fields "entity_type" none Schema.optionalText).both
      (Schema.optional fields "name" none Schema.optionalText))).map
    fun (unit, entityType, name) => { unit, entityType, name }

/-- A type from the fields of an object, once its element type has been checked. -/
def ofFields (fields : Fields) (element : Checked (Option SemanticType)) : Checked SemanticType :=
  ((Schema.required fields "kind" kindOf).both
    ((Checked.below (.field "elem") element).both (labelsOf fields))).bind
    fun (kind, element, labels) => assemble kind element labels

mutual

def check : Value → Checked SemanticType
  | .object fields => ofFields fields (checkElement fields)
  | _ => Checked.fault .notObject

def checkElement : List (String × Value) → Checked (Option SemanticType)
  | [] => .ok none
  | (name, value) :: rest =>
    if name == "elem" then
      match value with
      | .null => .ok none
      | value => (check value).map some
    else checkElement rest

end

def kindName : SemanticType → String
  | .leaf kind _ => kind.name
  | .array .. => arrayName
  | .bareArray _ => arrayName

def labels : SemanticType → TypeLabels
  | .leaf _ labels => labels
  | .array _ labels => labels
  | .bareArray labels => labels

def labelField (name : String) : Option String → Fields
  | none => []
  | some label => [(name, .text label)]

def labelFields (labels : TypeLabels) : Fields :=
  labelField "unit" labels.unit ++ labelField "entity_type" labels.entityType ++
    labelField "name" labels.name

def toFields : SemanticType → Fields
  | .leaf kind labels => ("kind", .text kind.name) :: labelFields labels
  | .array element labels =>
    ("kind", .text arrayName) :: ("elem", .object element.toFields) :: labelFields labels
  | .bareArray labels => ("kind", .text arrayName) :: labelFields labels

def toValue (type : SemanticType) : Value :=
  .object type.toFields

end TypedRecords.SemanticType
