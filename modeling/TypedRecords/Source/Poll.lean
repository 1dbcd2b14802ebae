import TypedRecords.Source.Fetch

/-!
Polling: a request in every interval, for ever.  What happens is told as a list of
events, as far as the replies to the requests are given.  A reply that yields no
records is warned of, and polling goes on; the store of paths is carried from one
request to the next.
-/

set_option autoImplicit false

namespace TypedRecords.Source

open TypedRecords.Numeric (Double)

inductive Event where
  | warning (message : String)
  | request (url : String) (headers : Headers)
  | records (records : List Fields)
  | sleep (seconds : Double)

inductive PollFailure where
  | notPolled (function : String)
  | longPause
  | fetch (failure : FetchFailure)

def PollFailure.message : PollFailure → String
  | .notPolled function => "Function '" ++ function ++ "' has no poll interval"
  | .longPause => "integer division result too large for a float"
  | .fetch failure => failure.message

/-- How a run stands: the next reply is awaited, or polling has ended. -/
inductive Ending where
  | awaiting
  | failed (failure : PollFailure)

structure Run where
  events : List Event
  ending : Ending

def millisecondsPerSecond : Nat := 1000

/-- The pause between requests in seconds; `none` where the number is out of range. -/
def pause? (interval : Int) : Option Double :=
  Double.ofIntRatio? interval millisecondsPerSecond

def requestEvents (source : Source) (call : Option Fields) : List Event :=
  source.requestWarnings.map Event.warning ++ [.request (source.url call) source.requestHeaders]

def failureWarning (function : String) (failure : FetchFailure) : String :=
  "Error reading from upstream server for " ++ function ++ ": " ++ failure.message

def replyEvent (function : String) :
    Except FetchFailure (List Fields) → Except PollFailure Event
  | .ok records => .ok (.records records)
  | .error failure =>
    if failure.isForeseen then .ok (.warning (failureWarning function failure))
    else .error (.fetch failure)

def pollFrom (source : Source) (call : Option Fields) (pause : Option Double) :
    Path.Cache → List Reply → Run
  | _, [] => ⟨[], .awaiting⟩
  | cache, reply :: rest =>
    let (result, cache) := source.fetch cache call reply
    match replyEvent source.signature.name result, pause with
    | .error failure, _ => ⟨source.requestEvents call, .failed failure⟩
    | .ok event, none => ⟨source.requestEvents call ++ [event], .failed .longPause⟩
    | .ok event, some seconds =>
      let later := pollFrom source call pause cache rest
      ⟨source.requestEvents call ++ event :: .sleep seconds :: later.events, later.ending⟩

/-- The interval in milliseconds: a given one, or else that of the signature. -/
def interval (source : Source) (given : Option Int) : Int :=
  given.getD source.signature.effectivePollInterval

def poll (source : Source) (cache : Path.Cache) (call : Option Fields) (given : Option Int)
    (replies : List Reply) : Run :=
  if source.interval given < 0 then ⟨[], .failed (.notPolled source.signature.name)⟩
  else pollFrom source call (pause? (source.interval given)) cache replies

end TypedRecords.Source
