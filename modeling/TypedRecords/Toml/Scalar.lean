import TypedRecords.Numeric.LeadingNumber
import TypedRecords.Toml.Text

/-!
The values of TOML that are neither texts nor made of other values: numbers,
truth values, dates and times.
-/

set_option autoImplicit false

namespace TypedRecords.Toml

open TypedRecords.Calendar (Date Moment TimeOfDay)
open TypedRecords.Json (hexDigit? naturalOf)
open TypedRecords.Numeric (Double digitLimit)
open TypedRecords.Text (isPlainDigit positional)

/-- Digits with single underscores between them, and the characters behind them. -/
def splitGroups (isDigit : Char → Bool) : List Char → List Char × List Char
  | [] => ([], [])
  | c :: rest =>
    if isDigit c then
      let (digits, behind) := splitTail isDigit rest
      (c :: digits, behind)
    else ([], c :: rest)
where
  splitTail (isDigit : Char → Bool) : List Char → List Char × List Char
    | [] => ([], [])
    | c :: rest =>
      if isDigit c then
        let (digits, behind) := splitTail isDigit rest
        (c :: digits, behind)
      else if c = '_' then
        match rest with
        | d :: more =>
          if isDigit d then
            let (digits, behind) := splitTail isDigit more
            (d :: digits, behind)
          else ([], c :: rest)
        | [] => ([], c :: rest)
      else ([], c :: rest)

def isDigitOf (base : Nat) (c : Char) : Bool :=
  (hexDigit? c).any fun d => d < base

def naturalIn (base : Nat) (digits : List Char) : Nat :=
  positional base (digits.map fun c => (hexDigit? c).getD 0)

def baseOf? : Char → Option Nat
  | 'x' => some 16
  | 'o' => some 8
  | 'b' => some 2
  | _ => none

def splitBased? : List Char → Option (Value × List Char)
  | '0' :: letter :: rest =>
    (baseOf? letter).bind fun base =>
      match splitGroups (isDigitOf base) rest with
      | ([], _) => none
      | (digits, behind) => some (.int (naturalIn base digits : Int), behind)
  | _ => none

def splitFraction : List Char → List Char × List Char
  | '.' :: rest =>
    match splitGroups isPlainDigit rest with
    | ([], _) => ([], '.' :: rest)
    | (digits, behind) => (digits, behind)
  | cs => ([], cs)

def splitExponent : List Char → Option Int × List Char
  | [] => (none, [])
  | e :: rest =>
    if e = 'e' ∨ e = 'E' then
      let (negative, unsigned) := Numeric.LeadingNumber.splitSign rest
      match splitGroups isPlainDigit unsigned with
      | ([], _) => (none, e :: rest)
      | (digits, behind) =>
        (some (if negative then -(naturalOf digits : Int) else (naturalOf digits : Int)), behind)
    else (none, e :: rest)

/-- Splits off the integer part of a number in base ten: a zero, or digits that begin with another
digit. -/
def splitWhole : List Char → List Char × List Char
  | '0' :: rest => (['0'], rest)
  | cs => splitGroups isPlainDigit cs

def splitDecimal? (cs : List Char) : Option (Except Failure (Value × List Char)) :=
  let (negative, unsigned) := Numeric.LeadingNumber.splitSign cs
  match splitWhole unsigned with
  | ([], _) => none
  | (whole, rest) =>
    let (fraction, rest) := splitFraction rest
    let (exponent, rest) := splitExponent rest
    if fraction.isEmpty ∧ exponent.isNone then
      if digitLimit < whole.length then some (.error (.tooManyDigits whole.length))
      else
        let size := naturalOf whole
        some (.ok (.int (if negative then -(size : Int) else (size : Int)), rest))
    else
      some (.ok (.float (Double.ofDecimal negative (naturalOf (whole ++ fraction))
        (exponent.getD 0 - fraction.length)), rest))

def splitPart? (width least greatest : Nat) (cs : List Char) : Option (Nat × List Char) :=
  let digits := cs.take width
  let n := naturalOf digits
  if digits.length = width ∧ digits.all isPlainDigit ∧ least ≤ n ∧ n ≤ greatest then
    some (n, cs.drop width)
  else none

def splitMark? (mark : Char) : List Char → Option (List Char)
  | c :: rest => if c = mark then some rest else none
  | [] => none

/-- Splits off the microseconds behind a point; of the digits six count. -/
def splitMicroseconds : List Char → Nat × List Char
  | '.' :: rest =>
    match rest.takeWhile isPlainDigit with
    | [] => (0, '.' :: rest)
    | digits =>
      (naturalOf ((digits ++ List.replicate (6 - digits.length) '0').take 6),
        rest.drop digits.length)
  | cs => (0, cs)

def splitTime? (cs : List Char) : Option (TimeOfDay × List Char) := do
  let (hour, rest) ← splitPart? 2 0 23 cs
  let (minute, rest) ← splitPart? 2 0 59 (← splitMark? ':' rest)
  let (second, rest) ← splitPart? 2 0 59 (← splitMark? ':' rest)
  let (microsecond, rest) := splitMicroseconds rest
  return (⟨hour, minute, second, microsecond⟩, rest)

def splitClock? (cs : List Char) : Option (Nat × List Char) := do
  let (hour, rest) ← splitPart? 2 0 23 cs
  let (minute, rest) ← splitPart? 2 0 59 (← splitMark? ':' rest)
  return (3600 * hour + 60 * minute, rest)

def splitOffset : List Char → Option Int × List Char
  | [] => (none, [])
  | c :: rest =>
    if c = 'Z' ∨ c = 'z' then (some 0, rest)
    else if c = '+' ∨ c = '-' then
      match splitClock? rest with
      | some (seconds, behind) =>
        (some (if c = '-' then -(seconds : Int) else (seconds : Int)), behind)
      | none => (none, c :: rest)
    else (none, c :: rest)

def splitDay? (cs : List Char) : Option ((Nat × Nat × Nat) × List Char) := do
  let (year, rest) ← splitPart? 4 0 9999 cs
  let (month, rest) ← splitPart? 2 1 12 (← splitMark? '-' rest)
  let (day, rest) ← splitPart? 2 1 31 (← splitMark? '-' rest)
  return ((year, month, day), rest)

def splitTimeBehindDay? : List Char → Option (TimeOfDay × List Char)
  | c :: rest => if c = 'T' ∨ c = 't' ∨ c = ' ' then splitTime? rest else none
  | [] => none

/-- Splits off a day, perhaps with a time of day and an offset; the day must exist. -/
def splitDate? (cs : List Char) : Option (Except Failure (Value × List Char)) :=
  (splitDay? cs).map fun ((year, month, day), rest) =>
    match Date.ofParts? year month day with
    | none => .error .malformed
    | some date =>
      match splitTimeBehindDay? rest with
      | none => .ok (.date date, rest)
      | some (time, rest) =>
        let (offset, rest) := splitOffset rest
        .ok (.moment ⟨date, time, offset⟩, rest)

def words : List (List Char × Value) :=
  [("true".toList, .bool true), ("false".toList, .bool false),
   ("inf".toList, .float (.infinite false)), ("+inf".toList, .float (.infinite false)),
   ("-inf".toList, .float (.infinite true)), ("nan".toList, .float .nan),
   ("+nan".toList, .float .nan), ("-nan".toList, .float .nan)]

def splitWord? (cs : List Char) : Option (Value × List Char) :=
  (words.find? fun word => word.1.isPrefixOf cs).map fun (word, value) =>
    (value, cs.drop word.length)

/-- Reads a value that is neither a text nor made of other values.  Dates go before times and
times before numbers, for each may begin like the next. -/
def readScalar (cs : List Char) : Except Failure (Value × List Char) :=
  match splitDate? cs with
  | some result => result
  | none =>
    match splitTime? cs with
    | some (time, rest) => .ok (.time time, rest)
    | none =>
      match splitBased? cs with
      | some result => .ok result
      | none =>
        match splitDecimal? cs with
        | some result => result
        | none =>
          match splitWord? cs with
          | some result => .ok result
          | none => .error .malformed

end TypedRecords.Toml
