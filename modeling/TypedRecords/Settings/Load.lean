import TypedRecords.Files.Basic
import TypedRecords.Settings.Field
import TypedRecords.Toml.Document

/-!
Loading the settings: what a manifest says, and over it what the environment
says.  A wrong value in the manifest is refused also where the environment would
replace it.
-/

set_option autoImplicit false

namespace TypedRecords.Settings

def manifestName : String := "respcast.toml"

def tableName : String := "respcast"

inductive Failure where
  | noManifest (path : String)
  | malformed (path : String)
  | notTable (path : String)
  | field (failure : FieldFailure)
  | unreadable (failure : Files.Failure)
  | tooManyDigits (count : Nat)

def Failure.message : Failure → String
  | .noManifest path => "Config file not found: " ++ path
  | .malformed path => "Invalid TOML in " ++ path
  | .notTable path => "[" ++ tableName ++ "] in " ++ path ++ " must be a table"
  | .field failure => failure.message
  | .unreadable failure => failure.message
  | .tooManyDigits count => Numeric.longNumeralMessage count

def Failure.isWrongSetting : Failure → Bool
  | .noManifest _ => true
  | .malformed _ => true
  | .notTable _ => true
  | .field failure => failure.isWrongSetting
  | _ => false

def Failure.isSystemError : Failure → Bool
  | .unreadable failure => failure.isSystemError
  | _ => false

/-- Whether a value or the content of the manifest is refused without being told as a wrong
configuration. -/
def Failure.isRefusal : Failure → Bool
  | .unreadable failure => !failure.isSystemError
  | .tooManyDigits _ => true
  | .field .longInteger => true
  | _ => false

def overlay {α : Type} (fields : Fields) (name : String) (current : α)
    (read : Value → Except FieldFailure α) : Except FieldFailure α :=
  match Fields.get? fields name with
  | none => .ok current
  | some value => read value

structure Names where
  currency : String
  strict : String
  cacheSize : String
  missing : String

def manifestNames : Names :=
  ⟨"default_currency", "strict", "path_cache_size", "missing_placeholder"⟩

def environmentNames : Names :=
  ⟨"RESPCAST_DEFAULT_CURRENCY", "RESPCAST_STRICT", "RESPCAST_PATH_CACHE_SIZE",
    "RESPCAST_MISSING_PLACEHOLDER"⟩

def Names.toList (names : Names) : List String :=
  [names.currency, names.strict, names.cacheSize, names.missing]

/-- Lays the settings among some fields over others; they are read in their order. -/
def apply (names : Names) (fields : Fields) (settings : Settings) :
    Except FieldFailure Settings := do
  let currency ← overlay fields names.currency settings.currency readCurrency
  let strict ← overlay fields names.strict settings.strict (readSwitch names.strict)
  let cacheSize ← overlay fields names.cacheSize settings.cacheSize readCacheSize
  let missing ← overlay fields names.missing settings.missing readMissing
  return { currency, strict, cacheSize, missing }

/-- The table with the settings of a manifest, empty if there is none. -/
def table (path : String) (document : Fields) : Except Failure Fields :=
  match Fields.get? document tableName with
  | none => .ok []
  | some (.object fields) => .ok fields
  | some _ => .error (.notTable path)

def parseManifest (path text : String) : Except Failure Fields :=
  match Toml.read text with
  | .error .malformed => .error (.malformed path)
  | .error (.tooManyDigits count) => .error (.tooManyDigits count)
  | .ok document => table path document

def readManifest (files : Files) (path : String) : Except Failure Fields :=
  match files.text path with
  | .error failure => .error (.unreadable failure)
  | .ok text => parseManifest (Files.normal path) text

/-- The settings in a manifest.  One that is not named may be missing. -/
def manifestFields (files : Files) (path : Option String) : Except Failure Fields :=
  let name := path.getD manifestName
  match files.find name with
  | .ok _ => readManifest files name
  | .error .longName => .error (.unreadable (.unreachable .longName (Files.normal name)))
  | .error _ =>
    if path.isSome then .error (.noManifest (Files.normal name)) else .ok []

def load (files : Files) (path : Option String) (environment : Fields) :
    Except Failure Settings := do
  let fields ← manifestFields files path
  let settings ← (apply manifestNames fields Settings.default).mapError Failure.field
  (apply environmentNames environment settings).mapError Failure.field

end TypedRecords.Settings
