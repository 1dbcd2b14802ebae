/-!
Where in an extraction something went wrong: the function, the argument and the
element, as far as they are known.
-/

set_option autoImplicit false

namespace TypedRecords

structure Context where
  function : Option String
  argument : Option String
  element : Option Int
  deriving DecidableEq

namespace Context

def named (label : String) : Option String → List String
  | none => []
  | some name => if name = "" then [] else [label ++ " " ++ name]

def parts (c : Context) : List String :=
  named "function" c.function ++ named "argument" c.argument ++
    (match c.element with
    | none => []
    | some n => ["element " ++ toString n])

def text (c : Context) : String :=
  if c.parts.isEmpty then "" else "in " ++ ", ".intercalate c.parts

def of? (function argument : Option String) (element : Option Int) : Option Context :=
  let context : Context := ⟨function, argument, element⟩
  if context.parts.isEmpty then none else some context

/-- A message with its context, when there is one, on the line before. -/
def situate (context : Option Context) (message : String) : String :=
  match context with
  | none => message
  | some context => context.text ++ "\n" ++ message

end Context

end TypedRecords
