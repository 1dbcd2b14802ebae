import TypedRecords.Schema.Fault

/-!
Invocations of mixins: a kind with parameters in order, of which several may have
one name.  As a map the last of a name counts; a search finds the first.
-/

set_option autoImplicit false

namespace TypedRecords.Mixin

open TypedRecords.Schema (Checked)

/-- The value of a parameter, which may be written in any way that has a native value. -/
structure Expression where
  native : Value
  deriving Inhabited

structure Param where
  name : String
  value : Expression
  deriving Inhabited

structure Invocation where
  kind : String
  params : List Param
  deriving Inhabited

namespace Invocation

/-- All parameters by name; the last of a name counts, in the place of the first. -/
def args (mixin : Invocation) : Fields :=
  Fields.ofPairs (mixin.params.map fun param => (param.name, param.value.native))

/-- The value of the first parameter of a name, null if there is none. -/
def find (mixin : Invocation) (name : String) : Value :=
  match mixin.params.find? fun param => param.name == name with
  | some param => param.value.native
  | none => .null

end Invocation

def checkParam (express : Value → Expression) : Value → Checked Param
  | .object fields =>
    ((Schema.required fields "name" Schema.text).both
      (Schema.required fields "value" fun value => .ok (express value))).map
      fun (name, value) => { name, value }
  | _ => Checked.fault .notObject

def check (express : Value → Expression) : Value → Checked Invocation
  | .object fields =>
    ((Schema.optional fields "kind" "" Schema.text).both
      (Schema.optional fields "in_params" [] (Schema.list (checkParam express)))).map
      fun (kind, params) => { kind, params }
  | _ => Checked.fault .notObject

end TypedRecords.Mixin
