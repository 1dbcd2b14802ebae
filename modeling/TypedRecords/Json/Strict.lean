import TypedRecords.Value.Printer

/-!
Values as JSON knows them: amounts, entities and places become objects of their
parts, moments become texts, and numbers that are not finite become null.
-/

set_option autoImplicit false

namespace TypedRecords.Json

open TypedRecords.Numeric (Double)

def strictNumber (x : Double) : Value :=
  if x.isFinite then .float x else .null

def strictText : Option String → Value
  | none => .null
  | some s => .text s

mutual

/-- A value as JSON knows it; a moment whose offset cannot be written has none. -/
def strict? : Value → Option Value
  | .float x => some (strictNumber x)
  | .list items => (strictItems? items).map Value.list
  | .object fields => (strictFields? fields).map Value.object
  | .moment m => if m.hasWritableOffset then some (.text (m.isoText "T")) else none
  | .currency c => some (.object [("value", strictNumber c.amount), ("code", .text c.code)])
  | .entity e => some (.object [("value", .text e.id), ("display", strictText e.display)])
  | .location l =>
    some (.object [("latitude", strictNumber l.latitude), ("longitude", strictNumber l.longitude),
      ("display", strictText l.display)])
  | value => some value

def strictItems? : List Value → Option (List Value)
  | [] => some []
  | item :: rest => (strict? item).bind fun item => (strictItems? rest).map (item :: ·)

def strictFields? : List (String × Value) → Option (List (String × Value))
  | [] => some []
  | (name, value) :: rest =>
    (strict? value).bind fun value => (strictFields? rest).map ((name, value) :: ·)

end

end TypedRecords.Json
