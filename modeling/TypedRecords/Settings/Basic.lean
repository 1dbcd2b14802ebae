/-!
The settings of extraction: the currency of bare amounts, how strictly values
must fit their types, the size of the store of parsed paths, and what becomes of
placeholders without a value.
-/

set_option autoImplicit false

namespace TypedRecords

/-- What stands in a formatted text for a placeholder without a value: the placeholder itself, or
nothing. -/
inductive MissingPolicy where
  | keep
  | empty
  deriving DecidableEq, Inhabited

def MissingPolicy.name : MissingPolicy → String
  | .keep => "keep"
  | .empty => "empty"

def MissingPolicy.all : List MissingPolicy := [.keep, .empty]

def MissingPolicy.ofName? (name : String) : Option MissingPolicy :=
  MissingPolicy.all.find? fun policy => policy.name == name

/-- The settings. -/
structure Settings where
  /-- The code of the currency of amounts that name none. -/
  currency : String
  /-- Whether a value that does not fit its type is refused. -/
  strict : Bool
  /-- The number of parsed paths that are kept. -/
  cacheSize : Int
  missing : MissingPolicy
  deriving DecidableEq, Inhabited

def Settings.default : Settings :=
  { currency := "usd", strict := false, cacheSize := 256, missing := .keep }

end TypedRecords
