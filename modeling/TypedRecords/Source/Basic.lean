import TypedRecords.Extraction.Basic
import TypedRecords.Template.Format

/-!
Sources of records: a query that is answered at a URL, with the parameters of the
device that asks.  The request of a call is its URL and its headers; only the URL
depends on the parameters of the call.
-/

set_option autoImplicit false

namespace TypedRecords

abbrev Headers := Named String

structure Source where
  template : String
  signature : Signature
  device : Fields
  settings : Settings
  /-- The name under which requests are made, when it is not the usual one. -/
  agent : Option String
  /-- Whether the device signs in with its token. -/
  signsIn : Bool
  headers : Headers

namespace Source

def usualAgent : String := "respcast"

def tokenName : String := "accessToken"

def url (source : Source) (call : Option Fields) : String :=
  Template.format source.settings.missing source.template source.device call

def token? (source : Source) : Option String :=
  ((Fields.get? source.device tokenName).filter Value.isSubstantial).map Value.plain

/-- The header that signs a request, when the device signs in and has a token. -/
def authorization (source : Source) : Headers :=
  match source.signsIn, source.token? with
  | true, some token => [("Authorization", "Bearer " ++ token)]
  | _, _ => []

def agentName (source : Source) : String :=
  match source.agent with
  | none => usualAgent
  | some name => if name = "" then usualAgent else name

def requestHeaders (source : Source) : Headers :=
  Named.putAll
    ([("Accept", "application/json"), ("User-Agent", source.agentName)] ++ source.authorization)
    source.headers

def missingTokenMessage (function : String) : String :=
  "OAuth2 requested for " ++ function ++ " but device has no access token"

def requestWarnings (source : Source) : List String :=
  match source.signsIn, source.token? with
  | true, none => [missingTokenMessage source.signature.name]
  | _, _ => []

end Source

end TypedRecords
