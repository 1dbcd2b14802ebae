import TypedRecords.DateText.DayParts
import TypedRecords.DateText.Token
import TypedRecords.DateText.Vocabulary

/-!
Gathering what the tokens of a text say about a day, a time of day and a zone.
What a number means depends on its length and on the tokens around it.

This is what the parser of dateutil does as it is set up by itself: months come
before days, years come last, and no word is passed over that it does not know.
-/

set_option autoImplicit false

namespace TypedRecords.DateText

open TypedRecords.Calendar (Clock)

structure Findings where
  parts : DayParts
  weekday : Option Nat
  hour : Option Nat
  minute : Option Nat
  second : Option Nat
  microsecond : Option Nat
  zoneName : Option String
  zoneOffset : Option Int
  deriving DecidableEq

def Findings.empty : Findings :=
  ⟨DayParts.empty, none, none, none, none, none, none, none⟩

def tokenAt (tokens : List String) (i : Nat) : Except Failure String :=
  need tokens[i]?

/-- Whether the token at a position is there and satisfies a condition. -/
def tokenIs (tokens : List String) (i : Nat) (condition : String → Bool) : Bool :=
  (tokens[i]?).any condition

def tokenEq (tokens : List String) (i : Nat) (token : String) : Bool :=
  tokenIs tokens i fun t => t == token

def isUnit (token : String) : Bool :=
  (unit? token).isSome

def onFullClock (hour : Nat) (afternoon : Bool) : Nat :=
  if afternoon ∧ hour < 12 then hour + 12
  else if !afternoon ∧ hour = 12 then 0
  else hour

def Findings.setMinute (found : Findings) (q : Quantity) : Except Failure Findings :=
  q.sixtieths.map fun second => { found with minute := some q.whole, second }

def Findings.setSecond (found : Findings) (cs : List Char) : Except Failure Findings :=
  (secondsOf cs).map fun (second, microsecond) =>
    { found with second := some second, microsecond := some microsecond }

def Findings.setHour (found : Findings) (q : Quantity) : Except Failure Findings :=
  q.sixtieths.map fun minute =>
    { found with hour := some q.whole, minute := minute.or found.minute }

/-- A number with a unit of time; the unit after seconds takes nothing. -/
def Findings.setUnit (found : Findings) (token : String) (q : Quantity) (unit : Nat) :
    Except Failure Findings :=
  match unit with
  | 0 => found.setHour q
  | 1 => found.setMinute q
  | 2 => found.setSecond token.toList
  | _ => .ok found

/-- Where the unit of the number at a position stands: behind it, or before it. -/
def unitPosition? (tokens : List String) (i : Nat) : Option Nat :=
  if tokenIs tokens (i + 1) isUnit then some (i + 1)
  else if tokenEq tokens (i + 1) " " ∧ tokenIs tokens (i + 2) isUnit then some (i + 2)
  else if 0 < i ∧ tokenIs tokens (i - 1) isUnit then some (i - 1)
  else if 1 < i ∧ i + 1 = tokens.length ∧ tokenEq tokens (i - 1) " " ∧
      tokenIs tokens (i - 2) isUnit then some (i - 2)
  else none

/-- Reads a number with a unit; one whose unit stands before it takes the next smaller unit. -/
def readWithUnit (tokens : List String) (i unitAt : Nat) (token : String) (q : Quantity)
    (found : Findings) : Except Failure (Findings × Nat) := do
  let unit ← need ((tokens[unitAt]?).bind unit?)
  if i < unitAt then return (← found.setUnit token q unit, unitAt)
  else return (← found.setUnit token q (unit + 1), i)

/-- Reads two or four digits that follow a complete day: hours, and perhaps minutes. -/
def readShortTime (token : String) (found : Findings) : Except Failure Findings := do
  let hour ← natural (slice token 0 2)
  if token.length = 4 then
    let minute ← natural (slice token 2 4)
    return { found with hour := some hour, minute := some minute }
  else return { found with hour := some hour }

/-- Reads six digits, perhaps with a fraction: a day without century, or a time. -/
def readSix (token : String) (found : Findings) : Except Failure Findings := do
  if found.parts.values.isEmpty ∧ !token.toList.contains '.' then
    let parts ← found.parts.addDigits (slice token 0 2)
    let parts ← parts.addDigits (slice token 2 4)
    let parts ← parts.addDigits (slice token 4 6)
    return { found with parts }
  else
    let hour ← natural (slice token 0 2)
    let minute ← natural (slice token 2 4)
    { found with hour := some hour, minute := some minute }.setSecond (token.toList.drop 4)

/-- Reads eight, twelve or fourteen digits: a day, and perhaps a time. -/
def readLong (token : String) (found : Findings) : Except Failure Findings := do
  let parts ← found.parts.addYearDigits (slice token 0 4)
  let parts ← parts.addDigits (slice token 4 6)
  let parts ← parts.addDigits (slice token 6 8)
  let found := { found with parts }
  if token.length = 8 then return found
  else
    let hour ← natural (slice token 8 10)
    let minute ← natural (slice token 10 12)
    let found := { found with hour := some hour, minute := some minute }
    if token.length = 12 then return found
    else
      let second ← natural (slice token 12 14)
      return { found with second := some second }

/-- Reads hours before a colon, minutes behind it and perhaps seconds behind another. -/
def readClock (tokens : List String) (i : Nat) (q : Quantity) (found : Findings) :
    Except Failure (Findings × Nat) := do
  let minute ← Quantity.ofToken (← tokenAt tokens (i + 2))
  let found ← { found with hour := some q.whole }.setMinute minute
  if i + 4 < tokens.length ∧ tokenEq tokens (i + 3) ":" then
    let found ← found.setSecond (← tokenAt tokens (i + 4)).toList
    return (found, i + 4)
  else return (found, i + 2)

def addMonthOrDigits (parts : DayParts) (token : String) : Except Failure DayParts :=
  match month? token with
  | some month => parts.addMonth month
  | none => parts.addDigits token.toList

def readSeparated (tokens : List String) (i : Nat) (token separator : String) (found : Findings) :
    Except Failure (Findings × Nat) := do
  let parts ← found.parts.addDigits token.toList
  match tokens[i + 2]? with
  | none => return ({ found with parts }, i + 1)
  | some second =>
    if isFiller second then return ({ found with parts }, i + 1)
    else
      let parts ←
        if isDigits second.toList then parts.addDigits second.toList
        else (need (month? second)).bind parts.addMonth
      if tokenEq tokens (i + 3) separator then
        let parts ← addMonthOrDigits parts (← tokenAt tokens (i + 4))
        return ({ found with parts }, i + 4)
      else return ({ found with parts }, i + 2)

/-- Reads a number at a position, and hands on the position of the last token that was used. -/
def readNumber (tokens : List String) (i : Nat) (token : String) (found : Findings) :
    Except Failure (Findings × Nat) := do
  let q ← Quantity.ofToken token
  let length := token.length
  let next := tokens[i + 1]?
  if found.parts.values.length = 3 ∧ (length = 2 ∨ length = 4) ∧ found.hour.isNone ∧
      !next.any (fun t => t == ":" || isUnit t) then
    return (← readShortTime token found, i)
  else if length = 6 ∨ (6 < length ∧ (token.toList.takeWhile fun c => c ≠ '.').length = 6) then
    return (← readSix token found, i)
  else if length = 8 ∨ length = 12 ∨ length = 14 then
    return (← readLong token found, i)
  else
    match unitPosition? tokens i with
    | some unitAt => readWithUnit tokens i unitAt token q found
    | none =>
      if i + 2 < tokens.length ∧ tokenEq tokens (i + 1) ":" then readClock tokens i q found
      else
        match next with
        | none => return ({ found with parts := ← found.parts.addQuantity q }, i + 1)
        | some mark =>
          if mark = "-" ∨ mark = "/" ∨ mark = "." then readSeparated tokens i token mark found
          else if isFiller mark then
            match (tokens[i + 2]?).bind afternoon? with
            | some afternoon =>
              return ({ found with hour := some (onFullClock q.whole afternoon) }, i + 2)
            | none => return ({ found with parts := ← found.parts.addQuantity q }, i + 1)
          else
            match (afternoon? mark).filter fun _ => q.whole < 24 with
            | some afternoon =>
              return ({ found with hour := some (onFullClock q.whole afternoon) }, i + 1)
            | none =>
              if found.parts.admitsDay q then
                return ({ found with parts := ← found.parts.addQuantity q }, i)
              else .error .notDate

/-- Reads what follows the name of a month: a day and a year between separators, or a year. -/
def readBehindMonth (clock : Clock) (tokens : List String) (i : Nat) (found : Findings) :
    Except Failure (Findings × Nat) := do
  match tokens[i + 1]? with
  | none => return (found, i)
  | some next =>
    if next = "-" ∨ next = "/" then
      let parts ← found.parts.addDigits (← tokenAt tokens (i + 2)).toList
      if tokenEq tokens (i + 3) next then
        let parts ← parts.addDigits (← tokenAt tokens (i + 4)).toList
        return ({ found with parts }, i + 4)
      else return ({ found with parts }, i + 2)
    else if next = " " ∧ tokenIs tokens (i + 2) isBelonging ∧ tokenEq tokens (i + 3) " " then
      match tokens[i + 4]? with
      | none => return (found, i)
      | some year =>
        if isDigits year.toList then
          let n ← natural year.toList
          let parts ← { found.parts with fullYear := true }.addYear (nearYear clock n)
          return ({ found with parts }, i + 4)
        else return (found, i + 4)
    else return (found, i)

def isZoneName (token : String) : Bool :=
  token.length ≤ 5 &&
    (token.toList.all (fun c => 'A' ≤ c && c ≤ 'Z') || ["UTC", "GMT", "Z", "z"].contains token)

def otherSign (sign : String) : String :=
  if sign = "+" then "-" else "+"

def isSign (token : String) : Bool :=
  token == "+" || token == "-"

/-- Reads the name of a zone.  Behind a name, a sign tells what universal time adds to local time,
so it is turned round, and a name of universal time then names nothing. -/
def readZoneName (tokens : List String) (i : Nat) (token : String) (found : Findings) :
    Findings × List String :=
  match tokens[i + 1]? with
  | some next =>
    if isSign next then
      ({ found with zoneName := if isUtcName token then none else some token, zoneOffset := none },
        tokens.set (i + 1) (otherSign next))
    else (named, tokens)
  | none => (named, tokens)
where
  named : Findings :=
    { found with zoneName := some token, zoneOffset := if token = "z" then some 0 else none }

/-- The hours and minutes of an offset, and the position of their last token. -/
def readOffsetDigits (tokens : List String) (i : Nat) : Except Failure (Nat × Nat × Nat) := do
  let digits ← tokenAt tokens (i + 1)
  if digits.length = 4 then
    return (← natural (slice digits 0 2), ← natural (slice digits 2 4), i + 1)
  else if tokenEq tokens (i + 2) ":" then
    return (← natural digits.toList, ← natural (← tokenAt tokens (i + 3)).toList, i + 3)
  else if digits.length ≤ 2 then return (← natural digits.toList, 0, i + 1)
  else .error .notDate

/-- Whether the name of a zone stands between parentheses behind an offset. -/
def zoneNameBehind? (tokens : List String) (i : Nat) (found : Findings) : Option String :=
  if i + 4 < tokens.length ∧ tokenIs tokens (i + 1) isFiller ∧ tokenEq tokens (i + 2) "(" ∧
      tokenEq tokens (i + 4) ")" ∧ found.zoneName.isNone ∧
      tokenIs tokens (i + 3) (fun t => 3 ≤ t.length && isZoneName t) then tokens[i + 3]?
  else none

def readOffset (tokens : List String) (i : Nat) (negative : Bool) (found : Findings) :
    Except Failure (Findings × Nat) := do
  let (hours, minutes, last) ← readOffsetDigits tokens i
  let seconds : Int := 3600 * hours + 60 * minutes
  let offset := if negative then -seconds else seconds
  match zoneNameBehind? tokens last found with
  | some name => return ({ found with zoneOffset := some offset, zoneName := some name }, last + 4)
  | none => return ({ found with zoneOffset := some offset }, last)

/-- Reads the token at a position and those that belong to it; hands on the tokens, of which a sign
may have been turned round, and the position of the last token that was used. -/
def readToken (clock : Clock) (tokens : List String) (i : Nat) (token : String)
    (found : Findings) : Except Failure (Findings × List String × Nat) := do
  if isNumeric token then
    let (found, last) ← readNumber tokens i token found
    return (found, tokens, last)
  else if let some weekday := weekday? token then
    return ({ found with weekday := some weekday }, tokens, i)
  else if let some month := month? token then
    let parts ← found.parts.addMonth month
    let (found, last) ← readBehindMonth clock tokens i { found with parts }
    return (found, tokens, last)
  else if let some afternoon := afternoon? token then
    let hour ← need found.hour
    if 12 < hour then .error .notDate
    else return ({ found with hour := some (onFullClock hour afternoon) }, tokens, i)
  else if found.hour.isSome ∧ found.zoneName.isNone ∧ found.zoneOffset.isNone ∧
      isZoneName token then
    let (found, tokens) := readZoneName tokens i token found
    return (found, tokens, i)
  else if found.hour.isSome ∧ isSign token then
    let (found, last) ← readOffset tokens i (token == "-") found
    return (found, tokens, last)
  else if isFiller token then return (found, tokens, i)
  else .error .notDate

def readFrom (clock : Clock) : Nat → List String → Nat → Findings → Except Failure Findings
  | 0, _, _, found => .ok found
  | fuel + 1, tokens, i, found =>
    match tokens[i]? with
    | none => .ok found
    | some token => do
      let (found, tokens, last) ← readToken clock tokens i token found
      readFrom clock fuel tokens (last + 1) found

def findingsOf (clock : Clock) (text : String) : Except Failure Findings :=
  let tokens := tokensOf text
  readFrom clock (tokens.length + 1) tokens 0 Findings.empty

end TypedRecords.DateText
