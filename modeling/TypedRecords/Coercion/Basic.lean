import TypedRecords.Coercion.Number
import TypedRecords.Coercion.Split
import TypedRecords.Coercion.Timestamp
import TypedRecords.DateText.Moment
import TypedRecords.Numeric.FieldNumber
import TypedRecords.Settings.Basic

/-!
Coercion of values to their declared types.  Null stays null.  A value that does
not fit its type stays as it is, or is refused in strict mode.
-/

set_option autoImplicit false

namespace TypedRecords.Coercion

open TypedRecords.Numeric (Double)
open TypedRecords.Calendar (Clock Moment TimeOfDay)

def mismatch (settings : Settings) (value : Value) (typeName : String) : Except Failure Value :=
  if settings.strict then .error (.rejected (.mismatch value typeName)) else .ok value

/-- A result, or else what becomes of a value that does not fit a type. -/
def orMismatch (settings : Settings) (value : Value) (typeName : String) :
    Option Value → Except Failure Value
  | some result => .ok result
  | none => mismatch settings value typeName

def number (settings : Settings) (text : String) : Except Failure Double :=
  (readNumber settings.strict text).mapError Failure.rejected

def textToDate (clock : Clock) (settings : Settings) (text : String) : Except Failure Value :=
  match DateText.read clock text with
  | .ok moment => .ok (.moment moment.orUtc)
  | .error .notDate => mismatch settings (.text text) LeafKind.date.name
  | .error .indivisible => .error .indivisibleDate

/-- Coerces a value to a moment: from a moment, a day, milliseconds, or a text. -/
def toDate (clock : Clock) (settings : Settings) : Value → Except Failure Value
  | .moment m => .ok (.moment m.orUtc)
  | .date d => .ok (.moment ⟨d, TimeOfDay.midnight, some 0⟩)
  | .int n =>
    orMismatch settings (.int n) LeafKind.date.name ((ofMilliseconds? n).map Value.moment)
  | .float x =>
    orMismatch settings (.float x) LeafKind.date.name ((ofDoubleMilliseconds? x).map Value.moment)
  | .text s => textToDate clock settings s
  | value => mismatch settings value LeafKind.date.name

def amountOf (amount : Double) (code : String) : Value :=
  .currency ⟨amount, Text.Case.lower code⟩

/-- A value where a field asks for a number: numbers that are not too large, truth values as one
and zero, and texts of numbers. -/
def fieldNumber? : Value → Option Double
  | .bool b => Double.ofInt? (if b then 1 else 0)
  | .int n => Double.ofInt? n
  | .float x => some x
  | .text s => Numeric.FieldNumber.number? s
  | _ => none

/-- The amount of an object, whose texts are read as texts of amounts are. -/
def fieldAmount (settings : Settings) : Value → Except Failure (Option Double)
  | .text s => (number settings s).map some
  | value => .ok (fieldNumber? value)

/-- The code of a currency: the unit if there is one, and else the one that is set. -/
def codeOf (settings : Settings) : Option Value → Option String
  | none => some settings.currency
  | some (.text s) => some (if s = "" then settings.currency else s)
  | some unit => if unit.isSubstantial then none else some settings.currency

def objectToCurrency (settings : Settings) (fields : Fields) (amount : Value) :
    Except Failure Value :=
  (fieldAmount settings amount).bind fun amount =>
    orMismatch settings (.object fields) LeafKind.currency.name
      (amount.bind fun amount =>
        (codeOf settings (Fields.get? fields "unit")).map fun code => amountOf amount code)

/-- Coerces a value to an amount: from a number, a text, or an object with an amount. -/
def toCurrency (settings : Settings) : Value → Except Failure Value
  | .int n =>
    match Double.ofInt? n with
    | some amount => .ok (amountOf amount settings.currency)
    | none => .error .hugeAmount
  | .float x => .ok (amountOf x settings.currency)
  | .text s => (number settings s).map fun amount => amountOf amount settings.currency
  | .object fields =>
    match Fields.get? fields "value" with
    | some amount => objectToCurrency settings fields amount
    | none => mismatch settings (.object fields) LeafKind.currency.name
  | value => mismatch settings value LeafKind.currency.name

def displayOf (fields : Fields) : Option String :=
  match Fields.get? fields "display" with
  | none => none
  | some .null => none
  | some value => some value.plain

def identifier? : Value → Option String
  | .text s => some s
  | .int n => some (Value.int n).plain
  | .float x => some (Value.float x).plain
  | _ => none

/-- Coerces a value to an entity: from a text, or an object with an identifier. -/
def toEntity (settings : Settings) : Value → Except Failure Value
  | .text s => .ok (.entity ⟨s, none⟩)
  | .object fields =>
    orMismatch settings (.object fields) LeafKind.entity.name
      ((Fields.get? fields "value").bind fun value =>
        (identifier? value).map fun id => .entity ⟨id, displayOf fields⟩)
  | value => mismatch settings value LeafKind.entity.name

/-- The names of the fields for latitude and longitude, in the order in which they are tried; on a
screen the latitude is the vertical axis. -/
def axes : List (String × String) :=
  [("y", "x"), ("latitude", "longitude"), ("lat", "lon")]

/-- The values of latitude and longitude: the first pair of which both are there. -/
def position? (fields : Fields) : Option (Value × Value) :=
  axes.findSome? fun (north, east) =>
    (Fields.get? fields north).bind fun latitude =>
      (Fields.get? fields east).map fun longitude => (latitude, longitude)

/-- Coerces a value to a place: from an object with a latitude and a longitude. -/
def toLocation (settings : Settings) : Value → Except Failure Value
  | .object fields =>
    orMismatch settings (.object fields) LeafKind.location.name
      ((position? fields).bind fun (north, east) =>
        (fieldNumber? north).bind fun latitude =>
          (fieldNumber? east).map fun longitude =>
            .location ⟨latitude, longitude, displayOf fields⟩)
  | value => mismatch settings value LeafKind.location.name

/-- A value of a type that converts nothing; in strict mode it must be of the kind. -/
def expect (settings : Settings) (value : Value) (fits : Bool) (typeName : String) :
    Except Failure Value :=
  if settings.strict ∧ !fits then .error (.rejected (.unexpected value typeName)) else .ok value

def isText : Value → Bool
  | .text _ => true
  | _ => false

def isBool : Value → Bool
  | .bool _ => true
  | _ => false

def toNumeric (settings : Settings) (typeName : String) : Value → Except Failure Value
  | .text s => (number settings s).map Value.float
  | value => expect settings value value.isNumber typeName

def toLeaf (clock : Clock) (settings : Settings) (kind : LeafKind) (typeName : String)
    (value : Value) : Except Failure Value :=
  match kind with
  | .string => expect settings value (isText value) LeafKind.string.name
  | .boolean => expect settings value (isBool value) LeafKind.boolean.name
  | .number => toNumeric settings typeName value
  | .measure => toNumeric settings typeName value
  | .date => toDate clock settings value
  | .currency => toCurrency settings value
  | .entity => toEntity settings value
  | .location => toLocation settings value
  | .other => .ok value

/-- The items that a value has for an array: those of a list, and the pieces of a text. -/
def itemsOf? : Value → Option (List Value)
  | .text s => some ((pieces s).map Value.text)
  | .list items => some items
  | _ => none

end TypedRecords.Coercion

namespace TypedRecords

def coerce (clock : Calendar.Clock) (settings : Settings) :
    SemanticType → Value → Except Coercion.Failure Value
  | _, .null => .ok .null
  | .leaf kind labels, value =>
    Coercion.toLeaf clock settings kind (SemanticType.leaf kind labels).text value
  | .array element labels, value =>
    match Coercion.itemsOf? value with
    | some items => (items.mapM (coerce clock settings element)).map Value.list
    | none => Coercion.mismatch settings value (SemanticType.array element labels).text
  | .bareArray _, _ => .error (.rejected .noElementType)

end TypedRecords
