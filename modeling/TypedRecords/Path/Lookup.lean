import TypedRecords.Numeric.Limit
import TypedRecords.Path.Segments
import TypedRecords.Text.Digit
import TypedRecords.Value.Basic

/-!
Following segments into a value.  A segment names a field of an object or, in
digits, a position in a list.  Where there is nothing to find the walk ends in
null.
-/

set_option autoImplicit false

namespace TypedRecords.Path

open TypedRecords.Numeric (digitLimit longNumeralMessage)
open TypedRecords.Text (isPlainDigit digitsValue?)

/-- A position in a list with more digits than are converted to a number. -/
structure LongIndex where
  digits : Nat
  deriving DecidableEq

def LongIndex.message (e : LongIndex) : String :=
  longNumeralMessage e.digits

def index? (segment : String) : Option Nat :=
  if segment ≠ "" ∧ segment.toList.all isPlainDigit then digitsValue? segment.toList else none

def item (items : List Value) (segment : String) : Except LongIndex Value :=
  match index? segment with
  | none => .ok .null
  | some position =>
    if digitLimit < segment.length then .error ⟨segment.length⟩
    else .ok ((items[position]?).getD .null)

def step (value : Value) (segment : String) : Except LongIndex Value :=
  match value with
  | .object fields => .ok ((Fields.get? fields segment).getD .null)
  | .list items => item items segment
  | _ => .ok .null

def follow (value : Value) : List String → Except LongIndex Value
  | [] => .ok value
  | segment :: rest => (step value segment).bind fun part => follow part rest

def lookup (value : Value) (path : String) : Except LongIndex Value :=
  follow value (segments path)

end TypedRecords.Path
