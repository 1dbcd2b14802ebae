import TypedRecords.Numeric.Limit
import TypedRecords.Text.CodePoint

/-!
Why a text is not read as JSON: it does not have the form, which is reported with
the place, or an integer in it has more digits than are converted.
-/

set_option autoImplicit false

namespace TypedRecords.Json

inductive Fault where
  | missingValue
  | missingName
  | missingColon
  | missingComma
  | unterminatedText
  | controlCharacter
  | unknownEscape
  | malformedCodePoint
  | extraData
  | byteOrderMark
  deriving DecidableEq

def Fault.wording : Fault → String
  | .missingValue => "Expecting value"
  | .missingName => "Expecting property name enclosed in double quotes"
  | .missingColon => "Expecting ':' delimiter"
  | .missingComma => "Expecting ',' delimiter"
  | .unterminatedText => "Unterminated string starting at"
  | .controlCharacter => "Invalid control character at"
  | .unknownEscape => "Invalid \\escape"
  | .malformedCodePoint => "Invalid \\uXXXX escape"
  | .extraData => "Extra data"
  | .byteOrderMark => "Unexpected UTF-8 BOM (decode using utf-8-sig)"

/-- A place in a text: lines and columns count from one, code points from zero. -/
structure Place where
  line : Nat
  column : Nat
  index : Nat
  deriving DecidableEq

def Place.after (cs : List Char) : Place :=
  { line := cs.count '\n' + 1
    column := Text.width (cs.reverse.takeWhile fun c => c ≠ '\n').reverse + 1
    index := Text.width cs }

inductive Failure where
  | malformed (fault : Fault) (place : Place)
  | tooManyDigits (count : Nat)
  deriving DecidableEq

def Failure.message : Failure → String
  | .malformed fault place =>
    fault.wording ++ ": line " ++ Nat.repr place.line ++ " column " ++ Nat.repr place.column ++
      " (char " ++ Nat.repr place.index ++ ")"
  | .tooManyDigits count => Numeric.longNumeralMessage count

end TypedRecords.Json
