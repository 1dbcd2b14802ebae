import TypedRecords.SemanticType.Basic

/-!
Signatures of queries: the arguments with their types, and where in a response
their values lie.
-/

set_option autoImplicit false

namespace TypedRecords

inductive Direction where
  | input
  | output
  deriving DecidableEq, Inhabited

def Direction.name : Direction → String
  | .input => "in"
  | .output => "out"

def Direction.ofName? (name : String) : Option Direction :=
  [Direction.input, .output].find? fun direction => direction.name == name

/-- An argument.  Its value lies at a path within an element of the response, or in the field of
its name. -/
structure Argument where
  name : String
  direction : Direction
  type : SemanticType
  sourcePath : Option String
  deriving DecidableEq, Inhabited

def Argument.isInput (arg : Argument) : Bool :=
  arg.direction == .input

/-- A signature.  The elements lie at a path within the response, or are the response itself; the
interval of polling is in milliseconds. -/
structure Signature where
  name : String
  args : List Argument
  sourcePath : Option String
  pollInterval : Option Int
  deriving DecidableEq, Inhabited

namespace Signature

def outputs (signature : Signature) : List Argument :=
  signature.args.filter fun arg => !arg.isInput

def argument? (signature : Signature) (name : String) : Option Argument :=
  signature.args.find? fun arg => arg.name == name

def effectivePollInterval (signature : Signature) : Int :=
  signature.pollInterval.getD (-1)

def contextName (signature : Signature) : Option String :=
  if signature.name = "" then none else some signature.name

end Signature

end TypedRecords
