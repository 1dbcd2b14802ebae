import TypedRecords.Json.Bytes
import TypedRecords.Source.Basic

/-!
Fetching: what becomes of the reply to a request.  A reply of success must hold
JSON, of which the records are extracted.  The reply is what a client of httpx gives:
a status and the bytes of a body, or the reason why there is none; a status counts
as success, and a body is decoded, as httpx does it.
-/

set_option autoImplicit false

namespace TypedRecords.Source

open TypedRecords.Calendar (Clock)

/-- What comes back from a request: a response, or nothing because no connection was made. -/
inductive Answer where
  | response (status : Int) (body : List UInt8)
  | unreachable (message : String)

structure Reply where
  clock : Clock
  answer : Answer

inductive FetchFailure where
  | badStatus (url : String) (status : Int) (body : List UInt8)
  | notJson (url : String) (cause : Json.BytesFailure)
  | unreachable (message : String)
  | extraction (failure : Extraction.Failure)

/-- The number of code points that are shown of the body of a response without success. -/
def shownLength : Nat := 200

def bodyStart (body : List UInt8) : String :=
  String.ofList (((Text.Utf8.decodeReplacing 0 body).take shownLength).flatMap Text.spell)

def FetchFailure.message : FetchFailure → String
  | .badStatus url status body =>
    "GET " ++ url ++ " returned " ++ Value.integerText status ++ ": " ++ bodyStart body
  | .notJson url cause => "GET " ++ url ++ " did not return JSON: " ++ cause.message
  | .unreachable message => message
  | .extraction failure => failure.message

/-- Whether a failure is a fault of the reply, as opposed to a limit of the program. -/
def FetchFailure.isForeseen : FetchFailure → Bool
  | .extraction failure => failure.isForeseen
  | _ => true

def isSuccess (status : Int) : Bool :=
  200 ≤ status ∧ status < 300

def payload (url : String) : Answer → Except FetchFailure Value
  | .unreachable message => .error (.unreachable message)
  | .response status body =>
    if isSuccess status then (Json.readBytes body).mapError (FetchFailure.notJson url)
    else .error (.badStatus url status body)

def fetch (source : Source) (cache : Path.Cache) (call : Option Fields) (reply : Reply) :
    Except FetchFailure (List Fields) × Path.Cache :=
  match payload (source.url call) reply.answer with
  | .error failure => (.error failure, cache)
  | .ok value =>
    let (result, cache) := Extraction.run reply.clock source.settings cache value source.signature
    (result.mapError FetchFailure.extraction, cache)

def fetchOnce (source : Source) (call : Option Fields) (reply : Reply) :
    Except FetchFailure (List Fields) :=
  (payload (source.url call) reply.answer).bind fun value =>
    (Extraction.once reply.clock source.settings value source.signature).mapError
      FetchFailure.extraction

end TypedRecords.Source
