import TypedRecords.Text.Case
import TypedRecords.Text.Quoted
import TypedRecords.Value.Basic

/-!
Two written forms of a value: the literal form, in which texts are quoted and
dates are spelt out part by part, and the plain form, in which a text stands for
itself.  Inside lists and objects everything is literal.
-/

set_option autoImplicit false

namespace TypedRecords

open TypedRecords.Numeric (Double DoubleLayout)
open TypedRecords.Calendar (Date Moment TimeOfDay)
open TypedRecords.Text (quoted)

def Value.layout : DoubleLayout := DoubleLayout.standard

def Value.numberText (x : Double) : String :=
  x.text Value.layout

def Value.integerText (n : Int) : String :=
  (if n < 0 then "-" else "") ++ Nat.repr n.natAbs

def Value.enclosed (opening : String) (parts : List String) (closing : String) : String :=
  opening ++ ", ".intercalate parts ++ closing

/-- The parts of a time of day that its literal form names: trailing zero seconds are left out. -/
def Calendar.TimeOfDay.parts (t : TimeOfDay) : List Nat :=
  [t.hour, t.minute] ++
    (if t.microsecond ≠ 0 then [t.second, t.microsecond]
    else if t.second ≠ 0 then [t.second]
    else [])

/-- The literal form of an offset, with days borrowed so that the seconds are not negative. -/
def Calendar.Moment.offsetLiteral (offset : Int) : String :=
  if offset = 0 then "datetime.timezone.utc"
  else
    let days := offset / 86400
    let seconds := offset % 86400
    let parts := (if days = 0 then [] else ["days=" ++ Value.integerText days]) ++
      (if seconds = 0 then [] else ["seconds=" ++ Value.integerText seconds])
    "datetime.timezone(" ++ Value.enclosed "datetime.timedelta(" parts ")" ++ ")"

def Calendar.Date.literal (d : Date) : String :=
  Value.enclosed "datetime.date(" ([d.year, d.month, d.day].map Nat.repr) ")"

def Calendar.TimeOfDay.literal (t : TimeOfDay) : String :=
  Value.enclosed "datetime.time(" (t.parts.map Nat.repr) ")"

def Calendar.Moment.literal (m : Moment) : String :=
  let parts := ([m.date.year, m.date.month, m.date.day] ++ m.time.parts).map Nat.repr
  let zone := match m.offset with
    | none => []
    | some offset => ["tzinfo=" ++ Calendar.Moment.offsetLiteral offset]
  Value.enclosed "datetime.datetime(" (parts ++ zone) ")"

def Value.optionalLiteral : Option String → String
  | none => "None"
  | some s => quoted s

def Currency.literal (c : Currency) : String :=
  Value.enclosed "Currency(" ["value=" ++ Value.numberText c.amount, "code=" ++ quoted c.code] ")"

def Currency.plain (c : Currency) : String :=
  Value.numberText c.amount ++ " " ++ Text.Case.upper c.code

def Entity.literal (e : Entity) : String :=
  Value.enclosed "EntityValue("
    ["value=" ++ quoted e.id, "display=" ++ Value.optionalLiteral e.display] ")"

/-- The label of an entity, or its identifier when there is no label. -/
def Entity.plain (e : Entity) : String :=
  e.display.getD e.id

def Location.literal (l : Location) : String :=
  Value.enclosed "Location("
    ["latitude=" ++ Value.numberText l.latitude, "longitude=" ++ Value.numberText l.longitude,
      "display=" ++ Value.optionalLiteral l.display] ")"

/-- The name of a place if it has one that is not empty, and else its position to three places. -/
def Location.plain (l : Location) : String :=
  match l.display with
  | some name => if name = "" then position else name
  | none => position
where
  position : String :=
    "[Latitude: " ++ l.latitude.fixedText Value.layout 3 ++ " deg, Longitude: " ++
      l.longitude.fixedText Value.layout 3 ++ " deg]"

namespace Value

mutual

def literal : Value → String
  | .null => "None"
  | .bool b => if b then "True" else "False"
  | .int n => integerText n
  | .float x => numberText x
  | .text s => quoted s
  | .list items => enclosed "[" (itemLiterals items) "]"
  | .object fields => enclosed "\x7b" (fieldLiterals fields) "\x7d"
  | .date d => d.literal
  | .time t => t.literal
  | .moment m => m.literal
  | .currency c => c.literal
  | .entity e => e.literal
  | .location l => l.literal

def itemLiterals : List Value → List String
  | [] => []
  | item :: rest => item.literal :: itemLiterals rest

def fieldLiterals : List (String × Value) → List String
  | [] => []
  | (name, value) :: rest => (quoted name ++ ": " ++ value.literal) :: fieldLiterals rest

end

def plain : Value → String
  | .text s => s
  | .date d => d.isoText
  | .time t => t.isoText
  | .moment m => m.isoText " "
  | .currency c => c.plain
  | .entity e => e.plain
  | .location l => l.plain
  | value => value.literal

end Value

end TypedRecords
