import TypedRecords.Coercion.Basic
import TypedRecords.Context
import TypedRecords.Path.Cache
import TypedRecords.Signature.Basic

/-!
Extraction of records from a response.  The elements of the response each make a
record with the arguments that the query puts out, every value coerced to its
type.  Paths are parsed through a store, which is handed on also by an extraction
that fails.
-/

set_option autoImplicit false

namespace TypedRecords.Extraction

open TypedRecords.Calendar (Clock)
open TypedRecords.Text (quoted)

/-- Why a response is not extracted.  A rejection tells the argument and the element; a position
with too many digits, a negative size of the store, and the failures of coercion that are no
rejections tell nothing more. -/
inductive Failure where
  | nullResponse (path : Option String) (function : Option String)
  | nullElement (function : Option String) (element : Nat)
  | rejected (rejection : Coercion.Rejection) (function : Option String) (argument : String)
      (element : Nat)
  | hugeAmount
  | indivisibleDate
  | longIndex (cause : Path.LongIndex)
  | negativeCacheSize

def Failure.bareMessage : Failure → String
  | .nullResponse path _ =>
    "Response" ++ (match path with
      | none => ""
      | some path => " at " ++ quoted path) ++ " is null, expected an object or an array"
  | .nullElement _ _ => "Response element is null"
  | .rejected rejection _ _ _ => rejection.message
  | .hugeAmount => "Currency"
  | .indivisibleDate => "[<class 'decimal.DivisionImpossible'>]"
  | .longIndex cause => cause.message
  | .negativeCacheSize => Path.Cache.negativeSizeMessage

def Failure.context : Failure → Option Context
  | .nullResponse _ function => Context.of? function none none
  | .nullElement function element => Context.of? function none (some element)
  | .rejected _ function argument element => Context.of? function (some argument) (some element)
  | _ => none

def Failure.message (e : Failure) : String :=
  Context.situate e.context e.bareMessage

/-- Whether a failure is a fault of the response, as opposed to a limit of the program. -/
def Failure.isForeseen : Failure → Bool
  | .nullResponse _ _ => true
  | .nullElement _ _ => true
  | .rejected _ _ _ _ => true
  | _ => false

def usable (path : Option String) : Option String :=
  path.filter fun path => path != ""

/-- The failure of an extraction that the failure of a coercion amounts to. -/
def ofCoercion (function : Option String) (argument : String) (element : Nat) :
    Coercion.Failure → Failure
  | .rejected rejection => .rejected rejection function argument element
  | .hugeAmount => .hugeAmount
  | .indivisibleDate => .indivisibleDate

def rawValue (cache : Path.Cache) (element : Value) (arg : Argument) :
    Except Path.LongIndex Value × Path.Cache :=
  match usable arg.sourcePath with
  | some path => cache.lookup element path
  | none => (Path.follow element [arg.name], cache)

def field (clock : Clock) (settings : Settings) (function : Option String) (cache : Path.Cache)
    (element : Value) (index : Nat) (arg : Argument) : Except Failure Value × Path.Cache :=
  match rawValue cache element arg with
  | (.error cause, cache) => (.error (.longIndex cause), cache)
  | (.ok raw, cache) =>
    ((coerce clock settings arg.type raw).mapError (ofCoercion function arg.name index), cache)

def fields (clock : Clock) (settings : Settings) (function : Option String) (element : Value)
    (index : Nat) : Path.Cache → List Argument → Except Failure Fields × Path.Cache
  | cache, [] => (.ok [], cache)
  | cache, arg :: rest =>
    match field clock settings function cache element index arg with
    | (.error e, cache) => (.error e, cache)
    | (.ok value, cache) =>
      match fields clock settings function element index cache rest with
      | (.error e, cache) => (.error e, cache)
      | (.ok more, cache) => (.ok ((arg.name, value) :: more), cache)

def record (clock : Clock) (settings : Settings) (function : Option String)
    (outputs : List Argument) (cache : Path.Cache) (index : Nat) : Value →
      Except Failure Fields × Path.Cache
  | .null => (.error (.nullElement function index), cache)
  | element => fields clock settings function element index cache outputs

def records (clock : Clock) (settings : Settings) (function : Option String)
    (outputs : List Argument) :
    Path.Cache → Nat → List Value → Except Failure (List Fields) × Path.Cache
  | cache, _, [] => (.ok [], cache)
  | cache, index, element :: rest =>
    match record clock settings function outputs cache index element with
    | (.error e, cache) => (.error e, cache)
    | (.ok first, cache) =>
      match records clock settings function outputs cache (index + 1) rest with
      | (.error e, cache) => (.error e, cache)
      | (.ok more, cache) => (.ok (first :: more), cache)

def body (cache : Path.Cache) (raw : Value) (signature : Signature) :
    Except Path.LongIndex Value × Path.Cache :=
  match usable signature.sourcePath with
  | some path => cache.lookup raw path
  | none => (.ok raw, cache)

/-- The elements of a response: the items of a list, or the response itself. -/
def elements : Value → List Value
  | .list items => items
  | value => [value]

def ofBody (clock : Clock) (settings : Settings) (cache : Path.Cache) (signature : Signature) :
    Value → Except Failure (List Fields) × Path.Cache
  | .null =>
    (.error (.nullResponse (usable signature.sourcePath) signature.contextName), cache)
  | value => records clock settings signature.contextName signature.outputs cache 0 (elements value)

def run (clock : Clock) (settings : Settings) (cache : Path.Cache) (raw : Value)
    (signature : Signature) :
    Except Failure (List Fields) × Path.Cache :=
  match body cache raw signature with
  | (.error cause, cache) => (.error (.longIndex cause), cache)
  | (.ok value, cache) => ofBody clock settings cache signature value

/-- The store of paths that settings ask for; a negative size is refused. -/
def newCache (settings : Settings) : Except Failure Path.Cache :=
  match Path.Cache.capacity? settings.cacheSize with
  | some capacity => .ok (Path.Cache.empty capacity)
  | none => .error .negativeCacheSize

def once (clock : Clock) (settings : Settings) (raw : Value) (signature : Signature) :
    Except Failure (List Fields) :=
  (newCache settings).bind fun cache => (run clock settings cache raw signature).1

end TypedRecords.Extraction
