import TypedRecords.Template.Format

/-!
How a device presents itself: a name and a description made from templates, and
an identifier that its parameters make unique.
-/

set_option autoImplicit false

namespace TypedRecords.Device

structure Labels where
  name : Option String
  description : Option String
  deriving DecidableEq

/-- Fills in a template; one that is missing or empty stays as it is. -/
def render (state : Fields) : Option String → Option String
  | none => none
  | some template =>
    some (if template = "" then template else Template.format .keep template state none)

def Labels.ofTemplates (name description : Option String) (state : Fields) : Labels :=
  { name := render state name, description := render state description }

/-- A parameter with its value, which is left out if it is null or missing. -/
def idPart (state : Fields) (param : String) : String :=
  param ++ ":" ++
    (match Fields.get? state param with
    | none => ""
    | some .null => ""
    | some value => value.plain)

/-- The way of signing in that leaves the identifier to the parameters. -/
def noAuthentication : String := "none"

/-- The identifier of a device that signs in nowhere: its kind and its parameters.  Other devices
have none. -/
def uniqueId (kind authentication : String) (params : List String) (state : Fields) :
    Option String :=
  if authentication = noAuthentication then
    some ("-".intercalate (kind :: params.map (idPart state)))
  else none

end TypedRecords.Device
