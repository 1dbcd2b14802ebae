import TypedRecords.Calendar.Moment

/-!
Loosely typed values: what decoded data consists of, and the currency amounts,
entities and places that coercion makes of it.
-/

set_option autoImplicit false

namespace TypedRecords

open TypedRecords.Numeric (Double)
open TypedRecords.Calendar (Date Moment TimeOfDay)

structure Currency where
  amount : Double
  code : String
  deriving DecidableEq

/-- Something that a service identifies by a text, with a label when one is known. -/
structure Entity where
  id : String
  display : Option String
  deriving DecidableEq

/-- A place on the globe, in degrees north and east, with a name when one is known. -/
structure Location where
  latitude : Double
  longitude : Double
  display : Option String
  deriving DecidableEq

/-- A loosely typed value.  The fields of an object stand in the order in which they came. -/
inductive Value where
  | null
  | bool (b : Bool)
  | int (n : Int)
  | float (x : Double)
  | text (s : String)
  | list (items : List Value)
  | object (fields : List (String × Value))
  | date (d : Date)
  | time (t : TimeOfDay)
  | moment (m : Moment)
  | currency (c : Currency)
  | entity (e : Entity)
  | location (l : Location)
  deriving Inhabited

abbrev Named (α : Type) := List (String × α)

namespace Named

variable {α : Type}

/-- Sets an entry: a name that is there keeps its place, a new one comes last. -/
def put (name : String) (item : α) : Named α → Named α
  | [] => [(name, item)]
  | entry :: rest => if entry.1 == name then (name, item) :: rest else entry :: put name item rest

def putAll (entries more : Named α) : Named α :=
  more.foldl (fun entries entry => put entry.1 entry.2 entries) entries

end Named

abbrev Fields := Named Value

namespace Fields

def get? (fields : Fields) (name : String) : Option Value :=
  (fields.find? fun field => field.1 == name).map Prod.snd

def has (fields : Fields) (name : String) : Bool :=
  fields.any fun field => field.1 == name

/-- The fields of a list of pairs, in which a later value replaces an earlier one. -/
def ofPairs (pairs : List (String × Value)) : Fields :=
  Named.putAll [] pairs

end Fields

namespace Value

def kindName : Value → String
  | .null => "NoneType"
  | .bool _ => "bool"
  | .int _ => "int"
  | .float _ => "float"
  | .text _ => "str"
  | .list _ => "list"
  | .object _ => "dict"
  | .date _ => "date"
  | .time _ => "time"
  | .moment _ => "datetime"
  | .currency _ => "Currency"
  | .entity _ => "EntityValue"
  | .location _ => "Location"

def isNumber : Value → Bool
  | .int _ => true
  | .float _ => true
  | _ => false

/-- Whether a value is there and says something: neither null, false, zero nor empty. -/
def isSubstantial : Value → Bool
  | .null => false
  | .bool b => b
  | .int n => n != 0
  | .float x => !x.isZero
  | .text s => s != ""
  | .list items => !items.isEmpty
  | .object fields => !fields.isEmpty
  | _ => true

end Value

end TypedRecords
