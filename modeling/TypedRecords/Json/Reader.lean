import TypedRecords.Json.Failure
import TypedRecords.Text.Digit
import TypedRecords.Text.WideUnits
import TypedRecords.Value.Basic

/-!
Reading JSON.  Each reader takes the characters that are left and hands on those
behind what it read; a fault is marked by the number of characters left where it
stands.  Numbers without fraction and exponent are integers of any size, the
words for not-a-number and the infinities are numbers, and of several fields with
one name the last counts.  Lists and objects may be nested at any depth; the limit
of a reader that keeps the levels on a stack of bounded size is left out.
-/

set_option autoImplicit false

namespace TypedRecords.Json

open TypedRecords.Numeric (Double digitLimit)
open TypedRecords.Text (isPlainDigit positional spellBack)
open TypedRecords.Text.WideUnits (isHighSurrogate isLowSurrogate joinSurrogates)

inductive Stop where
  | fault (what : Fault) (left : Nat)
  | tooManyDigits (count : Nat)

def stopAt {α : Type} (what : Fault) (left : List Char) : Except Stop α :=
  .error (.fault what left.length)

def isGap (c : Char) : Bool :=
  c == ' ' || c == '\t' || c == '\n' || c == '\r'

def skipGap (cs : List Char) : List Char :=
  cs.dropWhile isGap

def hexDigit? (c : Char) : Option Nat :=
  if '0' ≤ c ∧ c ≤ '9' then some (c.toNat - '0'.toNat)
  else if 'a' ≤ c ∧ c ≤ 'f' then some (c.toNat - 'a'.toNat + 10)
  else if 'A' ≤ c ∧ c ≤ 'F' then some (c.toNat - 'A'.toNat + 10)
  else none

def fourHex? (a b c d : Char) : Option Nat :=
  (hexDigit? a).bind fun a => (hexDigit? b).bind fun b => (hexDigit? c).bind fun c =>
    (hexDigit? d).map fun d => ((a * 16 + b) * 16 + c) * 16 + d

def escaped? : Char → Option Char
  | '"' => some '"'
  | '\\' => some '\\'
  | '/' => some '/'
  | 'b' => some (Char.ofNat 8)
  | 'f' => some (Char.ofNat 12)
  | 'n' => some '\n'
  | 'r' => some '\r'
  | 't' => some '\t'
  | _ => none

/-- Reads a text behind its opening mark.  `opening` is the number of characters left at that
mark, `done` the characters read so far, the last one first.  A code point in digits must have
something behind it, or the text could not end. -/
def readText (opening : Nat) (done : List Char) : List Char → Except Stop (String × List Char)
  | [] => .error (.fault .unterminatedText opening)
  | c :: rest =>
    if c = '"' then .ok (String.ofList done.reverse, rest)
    else if c = '\\' then
      match rest with
      | [] => .error (.fault .unterminatedText opening)
      | e :: more =>
        if e = 'u' then
          match more with
          | h₁ :: h₂ :: h₃ :: h₄ :: behind =>
            if behind.isEmpty then stopAt .malformedCodePoint (e :: more)
            else
              match fourHex? h₁ h₂ h₃ h₄ with
              | none => stopAt .malformedCodePoint (e :: more)
              | some code =>
                if isHighSurrogate code then
                  match behind with
                  | b :: u :: l₁ :: l₂ :: l₃ :: l₄ :: further =>
                    if b = '\\' ∧ u = 'u' ∧ !further.isEmpty then
                      match fourHex? l₁ l₂ l₃ l₄ with
                      | none => stopAt .malformedCodePoint (u :: l₁ :: l₂ :: l₃ :: l₄ :: further)
                      | some low =>
                        if isLowSurrogate low then
                          readText opening (spellBack (joinSurrogates code low) done) further
                        else
                          readText opening (spellBack code done)
                            (b :: u :: l₁ :: l₂ :: l₃ :: l₄ :: further)
                    else
                      readText opening (spellBack code done)
                        (b :: u :: l₁ :: l₂ :: l₃ :: l₄ :: further)
                  | behind => readText opening (spellBack code done) behind
                else readText opening (spellBack code done) behind
          | _ => stopAt .malformedCodePoint (e :: more)
        else
          match escaped? e with
          | some plain => readText opening (plain :: done) more
          | none => stopAt .unknownEscape (c :: rest)
    else if c.toNat < 0x20 then stopAt .controlCharacter (c :: rest)
    else readText opening (c :: done) rest
termination_by cs => cs.length

/-- The numeral at the front of some characters: the digits of the integer part, of the fraction
and of the exponent. -/
structure Numeral where
  negative : Bool
  whole : List Char
  fraction : List Char
  exponent : Option (Bool × List Char)

def splitFraction : List Char → List Char × List Char
  | '.' :: rest =>
    match rest.takeWhile isPlainDigit with
    | [] => ([], '.' :: rest)
    | digits => (digits, rest.dropWhile isPlainDigit)
  | cs => ([], cs)

def splitExponent : List Char → Option (Bool × List Char) × List Char
  | [] => (none, [])
  | e :: rest =>
    if e = 'e' ∨ e = 'E' then
      let (negative, digits) := match rest with
        | '-' :: digits => (true, digits)
        | '+' :: digits => (false, digits)
        | digits => (false, digits)
      match digits.takeWhile isPlainDigit with
      | [] => (none, e :: rest)
      | exponent => (some (negative, exponent), digits.dropWhile isPlainDigit)
    else (none, e :: rest)

/-- Splits a numeral off.  The integer part is a zero or begins with another digit. -/
def splitNumeral? (cs : List Char) : Option (Numeral × List Char) :=
  let (negative, unsigned) := match cs with
    | '-' :: rest => (true, rest)
    | cs => (false, cs)
  let whole := match unsigned with
    | '0' :: _ => ['0']
    | cs => cs.takeWhile isPlainDigit
  if whole.isEmpty then none
  else
    let (fraction, rest) := splitFraction (unsigned.drop whole.length)
    let (exponent, rest) := splitExponent rest
    some ({ negative, whole, fraction, exponent }, rest)

def naturalOf (digits : List Char) : Nat :=
  positional 10 (digits.map fun c => c.toNat - '0'.toNat)

/-- The value of a numeral.  With a fraction or an exponent it is the nearest number of double
precision. -/
def Numeral.value (n : Numeral) : Except Stop Value :=
  if n.fraction.isEmpty ∧ n.exponent.isNone then
    if digitLimit < n.whole.length then .error (.tooManyDigits n.whole.length)
    else
      let size := naturalOf n.whole
      .ok (.int (if n.negative then -(size : Int) else (size : Int)))
  else
    let power : Int := match n.exponent with
      | none => 0
      | some (negative, digits) =>
        if negative then -(naturalOf digits : Int) else (naturalOf digits : Int)
    .ok (.float (Double.ofDecimal n.negative (naturalOf (n.whole ++ n.fraction))
      (power - n.fraction.length)))

def words : List (List Char × Value) :=
  [("null".toList, .null), ("true".toList, .bool true), ("false".toList, .bool false),
   ("NaN".toList, .float .nan), ("Infinity".toList, .float (.infinite false)),
   ("-Infinity".toList, .float (.infinite true))]

def readScalar (cs : List Char) : Except Stop (Value × List Char) :=
  match words.find? fun word => word.1.isPrefixOf cs with
  | some (word, value) => .ok (value, cs.drop word.length)
  | none =>
    match splitNumeral? cs with
    | some (numeral, rest) => numeral.value.map fun value => (value, rest)
    | none => stopAt .missingValue cs

mutual

def readValue : Nat → List Char → Except Stop (Value × List Char)
  | 0, cs => stopAt .missingValue cs
  | fuel + 1, cs =>
    match cs with
    | '"' :: rest => (readText cs.length [] rest).map fun (s, rest) => (.text s, rest)
    | '[' :: rest =>
      match skipGap rest with
      | ']' :: behind => .ok (.list [], behind)
      | inside => (readItems fuel inside).map fun (items, rest) => (.list items, rest)
    | '\x7b' :: rest =>
      match skipGap rest with
      | '\x7d' :: behind => .ok (.object [], behind)
      | inside =>
        (readFields fuel inside).map fun (pairs, rest) => (.object (Fields.ofPairs pairs), rest)
    | cs => readScalar cs

def readItems : Nat → List Char → Except Stop (List Value × List Char)
  | 0, cs => stopAt .missingValue cs
  | fuel + 1, cs => do
    let (item, rest) ← readValue fuel cs
    match skipGap rest with
    | ']' :: behind => return ([item], behind)
    | ',' :: behind =>
      let (items, rest) ← readItems fuel (skipGap behind)
      return (item :: items, rest)
    | other => stopAt .missingComma other

def readFields : Nat → List Char → Except Stop (List (String × Value) × List Char)
  | 0, cs => stopAt .missingName cs
  | fuel + 1, cs =>
    match cs with
    | '"' :: rest => do
      let (name, rest) ← readText cs.length [] rest
      match skipGap rest with
      | ':' :: behind =>
        let (value, rest) ← readValue fuel (skipGap behind)
        match skipGap rest with
        | '\x7d' :: behind => return ([(name, value)], behind)
        | ',' :: behind =>
          let (pairs, rest) ← readFields fuel (skipGap behind)
          return ((name, value) :: pairs, rest)
        | other => stopAt .missingComma other
      | other => stopAt .missingColon other
    | cs => stopAt .missingName cs

end

/-- Reads a whole document: one value with nothing but gaps around it. -/
def readDocument (cs : List Char) : Except Stop Value := do
  let (value, rest) ← readValue (2 * cs.length + 2) (skipGap cs)
  match skipGap rest with
  | [] => return value
  | extra => stopAt .extraData extra

def Stop.failure (cs : List Char) : Stop → Failure
  | .fault what left => .malformed what (Place.after (cs.take (cs.length - left)))
  | .tooManyDigits count => .tooManyDigits count

/-- The mark of the order of bytes, which no document may begin with. -/
def byteOrderMark : Char := Char.ofNat 0xfeff

/-- The value that a text writes, without looking for a mark of the order of bytes. -/
def readUnmarked (text : String) : Except Failure Value :=
  (readDocument text.toList).mapError (Stop.failure text.toList)

def read (text : String) : Except Failure Value :=
  if text.toList.head? = some byteOrderMark then .error (.malformed .byteOrderMark (Place.after []))
  else readUnmarked text

end TypedRecords.Json
