/-!
The declared types of values: a closed vocabulary of leaf types, arrays of them
to any depth, and names beyond the vocabulary that are kept as they are.
-/

set_option autoImplicit false

namespace TypedRecords

inductive LeafKind where
  | string
  | number
  | boolean
  | date
  | measure
  | currency
  | entity
  | location
  | other
  deriving DecidableEq, Inhabited

def LeafKind.name : LeafKind → String
  | .string => "String"
  | .number => "Number"
  | .boolean => "Boolean"
  | .date => "Date"
  | .measure => "Measure"
  | .currency => "Currency"
  | .entity => "Entity"
  | .location => "Location"
  | .other => "Other"

def LeafKind.all : List LeafKind :=
  [.string, .number, .boolean, .date, .measure, .currency, .entity, .location, .other]

def LeafKind.ofName? (name : String) : Option LeafKind :=
  LeafKind.all.find? fun kind => kind.name == name

/-- What is said about a type besides its kind: the unit of a measure, the type of an entity, and
the spelling of a type beyond the vocabulary. -/
structure TypeLabels where
  unit : Option String
  entityType : Option String
  name : Option String
  deriving DecidableEq, Inhabited

def TypeLabels.none : TypeLabels := ⟨.none, .none, .none⟩

/-- A declared type.  An array without an element type is not complete: no reader makes one, but
there is nothing to stop others. -/
inductive SemanticType where
  | leaf (kind : LeafKind) (labels : TypeLabels)
  | array (element : SemanticType) (labels : TypeLabels)
  | bareArray (labels : TypeLabels)
  deriving DecidableEq, Inhabited

namespace SemanticType

def arrayOf (element : SemanticType) : SemanticType :=
  .array element TypeLabels.none

def plain (kind : LeafKind) : SemanticType :=
  .leaf kind TypeLabels.none

def isComplete : SemanticType → Bool
  | .leaf .. => true
  | .array element _ => element.isComplete
  | .bareArray _ => false

def isArray : SemanticType → Bool
  | .leaf .. => false
  | _ => true

/-- Whether texts are read as numbers: this is so for numbers and measures. -/
def isNumeric : SemanticType → Bool
  | .leaf .number _ => true
  | .leaf .measure _ => true
  | _ => false

def arrayName : String := "Array"

/-- A name with a label between parentheses, unless the label is missing or empty. -/
def labelled (name : String) : Option String → String
  | none => name
  | some label => if label = "" then name else name ++ "(" ++ label ++ ")"

def text : SemanticType → String
  | .array element _ => arrayName ++ "(" ++ element.text ++ ")"
  | .bareArray _ => arrayName ++ "(None)"
  | .leaf .measure labels => labelled LeafKind.measure.name labels.unit
  | .leaf .entity labels => labelled LeafKind.entity.name labels.entityType
  | .leaf .other labels =>
    match labels.name with
    | none => LeafKind.other.name
    | some name => if name = "" then LeafKind.other.name else name
  | .leaf kind _ => kind.name

end SemanticType

end TypedRecords
