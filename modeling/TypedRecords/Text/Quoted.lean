import TypedRecords.Text.CodePoint
import TypedRecords.Text.Printable

/-!
Texts between quotation marks.  The mark is the apostrophe, unless the text has
apostrophes and no double quotes.  The mark, the backslash and what cannot be
shown are written with a backslash.
-/

set_option autoImplicit false

namespace TypedRecords.Text

/-- A number in base sixteen with small letters, filled up with zeros to a width. -/
def hexText (width n : Nat) : String :=
  let digits := Nat.toDigits 16 n
  String.ofList (List.replicate (width - digits.length) '0' ++ digits)

def escapeCode (code : Nat) : String :=
  if code < 0x100 then "\\x" ++ hexText 2 code
  else if code < 0x10000 then "\\u" ++ hexText 4 code
  else "\\U" ++ hexText 8 code

/-- One code point of a quoted text; a surrogate is no character and so cannot be shown. -/
def quoteCode (quotation : Char) (code : Nat) : String :=
  let c := Char.ofNat code
  if c == quotation || c == '\\' then String.ofList ['\\', c]
  else if c == '\n' then "\\n"
  else if c == '\r' then "\\r"
  else if c == '\t' then "\\t"
  else if isPrintable c then String.singleton c
  else escapeCode code

def quotationMark (cs : List Char) : Char :=
  if cs.contains '\x27' && !cs.contains '"' then '"' else '\x27'

def quoted (s : String) : String :=
  let quotation := quotationMark s.toList
  String.singleton quotation ++ String.join ((points s.toList).map (quoteCode quotation)) ++
    String.singleton quotation

end TypedRecords.Text
