import TypedRecords.Url.Split

/-!
Whether others on the internet can fetch a URL.
-/

set_option autoImplicit false

namespace TypedRecords.Url

def localLabels : List String := ["local", "localhost", "localdomain", "invalid", "onion"]

def webSchemes : List String := ["http", "https"]

def labels (host : String) : List String :=
  let name := (host.toList.reverse.dropWhile fun c => c = '.').reverse
  (Text.pieces '.' name).map String.ofList

/-- Whether a name is for everywhere: it has several labels, and the last is not for local use. -/
def isPublicName (host : String) : Bool :=
  match labels host with
  | [] => false
  | [_] => false
  | parts => !localLabels.contains (Text.Case.lower ((parts.getLast?).getD ""))

def isPublicHost (host : String) : Bool :=
  match Address.ofChars? host.toList with
  | some address => address.isGlobal
  | none => isPublicName host

def isPublic (url : String) : Bool :=
  match split? url with
  | none => false
  | some parts => webSchemes.contains parts.scheme && parts.host != "" && isPublicHost parts.host

end TypedRecords.Url
