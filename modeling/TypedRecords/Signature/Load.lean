import TypedRecords.Files.Basic
import TypedRecords.Json.Reader
import TypedRecords.Signature.Schema

/-!
Loading signatures from files.
-/

set_option autoImplicit false

namespace TypedRecords.Signature

/-- Why a signature is not loaded.  A file that cannot be read, and an integer with too many
digits, are not told as wrong signatures. -/
inductive LoadFailure where
  | unreadable (failure : Files.Failure)
  | malformed (path : String) (fault : Json.Fault) (place : Json.Place)
  | tooManyDigits (count : Nat)
  | invalid (failure : Failure)
  deriving DecidableEq

def LoadFailure.message : LoadFailure → String
  | .unreadable failure => failure.message
  | .malformed path fault place =>
    "Invalid JSON in " ++ path ++ ": " ++ (Json.Failure.malformed fault place).message
  | .tooManyDigits count => (Json.Failure.tooManyDigits count).message
  | .invalid failure => failure.message

/-- Whether a failure is a fault of the file, or the system refuses to read it. -/
def LoadFailure.isForeseen : LoadFailure → Bool
  | .unreadable failure => failure.isSystemError
  | .tooManyDigits _ => false
  | _ => true

def parse (path text : String) : Except LoadFailure Signature :=
  match Json.read text with
  | .error (.malformed fault place) => .error (.malformed path fault place)
  | .error (.tooManyDigits count) => .error (.tooManyDigits count)
  | .ok value => (ofValue value).mapError LoadFailure.invalid

def load (files : Files) (path : String) : Except LoadFailure Signature :=
  match files.text path with
  | .error failure => .error (.unreadable failure)
  | .ok text => parse (Files.normal path) text

end TypedRecords.Signature
