import TypedRecords.Numeric.Limit
import TypedRecords.Numeric.WholeNumber
import TypedRecords.Settings.Basic
import TypedRecords.Text.Alphabetic
import TypedRecords.Text.Case
import TypedRecords.Value.Printer

/-!
Reading single settings from loosely typed values, as they come from a manifest
or from the environment.
-/

set_option autoImplicit false

namespace TypedRecords.Settings

open TypedRecords.Numeric (digitLimit isTooLong longIntegerMessage)
open TypedRecords.Text (isLetter strip)

/-- Why a value is not a setting.  An infinite size and an integer that is too long to be shown are
not told as wrong settings but by themselves. -/
inductive FieldFailure where
  | badCurrency (value : Value)
  | badSwitch (name : String) (value : Value)
  | badCacheSize (value : Value)
  | negativeCacheSize (size : Int)
  | badMissing (value : Value)
  | infiniteCacheSize
  | longInteger

def FieldFailure.message : FieldFailure → String
  | .badCurrency value => "Currency code must be three letters, got " ++ value.literal
  | .badSwitch name value => name ++ " must be a boolean, got " ++ value.literal
  | .badCacheSize value => "path_cache_size must be an integer, got " ++ value.literal
  | .negativeCacheSize size => "path_cache_size must be >= 0, got " ++ Value.integerText size
  | .badMissing value =>
    "missing_placeholder must be one of " ++ ", ".intercalate (MissingPolicy.all.map (·.name)) ++
      ", got " ++ value.literal
  | .infiniteCacheSize => "cannot convert float infinity to integer"
  | .longInteger => longIntegerMessage

def FieldFailure.isWrongSetting : FieldFailure → Bool
  | .infiniteCacheSize => false
  | .longInteger => false
  | _ => true

mutual

def isShowable : Value → Bool
  | .int n => !isTooLong n
  | .list items => areShowable items
  | .object fields => areFieldsShowable fields
  | _ => true

def areShowable : List Value → Bool
  | [] => true
  | item :: rest => isShowable item && areShowable rest

def areFieldsShowable : List (String × Value) → Bool
  | [] => true
  | (_, value) :: rest => isShowable value && areFieldsShowable rest

end

def showing (value : Value) (failure : FieldFailure) : FieldFailure :=
  if isShowable value then failure else .longInteger

def readCurrency (value : Value) : Except FieldFailure String :=
  match value with
  | .text code =>
    if code.length = 3 ∧ code.toList.all isLetter then .ok (Text.Case.lower code)
    else .error (.badCurrency value)
  | value => .error (showing value (.badCurrency value))

def onWords : List String := ["1", "true", "yes", "on"]

def offWords : List String := ["0", "false", "no", "off", ""]

/-- The text of a value without white space around it, in small letters. -/
def word (value : Value) : String :=
  Text.Case.lower (strip value.plain)

def readSwitch (name : String) (value : Value) : Except FieldFailure Bool :=
  match value with
  | .bool b => .ok b
  | value =>
    if onWords.contains (word value) then .ok true
    else if offWords.contains (word value) then .ok false
    else .error (showing value (.badSwitch name value))

/-- The integer that a value is taken for; the fraction of a number is cut off. -/
def integerOf (value : Value) : Except FieldFailure Int :=
  match value with
  | .bool b => .ok (if b then 1 else 0)
  | .int n => .ok n
  | .float (.infinite _) => .error .infiniteCacheSize
  | .float x =>
    match x.truncate? with
    | some n => .ok n
    | none => .error (.badCacheSize value)
  | .text s =>
    match Numeric.WholeNumber.integer? s with
    | some n => .ok n
    | none => .error (.badCacheSize value)
  | value => .error (showing value (.badCacheSize value))

def readCacheSize (value : Value) : Except FieldFailure Int :=
  (integerOf value).bind fun size =>
    if size < 0 then .error (showing (.int size) (.negativeCacheSize size)) else .ok size

def readMissing (value : Value) : Except FieldFailure MissingPolicy :=
  match MissingPolicy.ofName? (word value) with
  | some policy => .ok policy
  | none => .error (showing value (.badMissing value))

end TypedRecords.Settings
