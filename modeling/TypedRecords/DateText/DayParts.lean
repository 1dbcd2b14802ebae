import TypedRecords.Calendar.Clock
import TypedRecords.DateText.Quantity

/-!
The numbers that may be a year, a month and a day, in the order in which they
come, and telling which is which as dateutil does.
-/

set_option autoImplicit false

namespace TypedRecords.DateText

open TypedRecords.Calendar (Clock monthLength)

/-- The full year of a year without century: the one less than fifty years after the year of the
clock. -/
def nearYear (clock : Clock) (year : Nat) : Nat :=
  if 100 ≤ year then year
  else
    let inCentury := clock.today.year / 100 * 100 + year
    if clock.today.year + 50 ≤ inCentury then inCentury - 100
    else if inCentury + 50 < clock.today.year then inCentury + 100
    else inCentury

/-- The numbers so far, with the positions of those whose meaning is known.  `fullYear` tells that
one was written as a year that needs no century. -/
structure DayParts where
  values : List Nat
  year : Option Nat
  month : Option Nat
  fullYear : Bool
  deriving DecidableEq

structure DayChoice where
  year : Option Nat
  month : Option Nat
  day : Option Nat
  deriving DecidableEq

namespace DayParts

def empty : DayParts := ⟨[], none, none, false⟩

def addPlain (parts : DayParts) (n : Nat) : DayParts :=
  { parts with values := parts.values ++ [n] }

def addYear (parts : DayParts) (n : Nat) : Except Failure DayParts :=
  if parts.year.isSome then .error .notDate
  else .ok { parts with values := parts.values ++ [n], year := some parts.values.length }

def addMonth (parts : DayParts) (n : Nat) : Except Failure DayParts :=
  if parts.month.isSome then .error .notDate
  else .ok { parts with values := parts.values ++ [n], month := some parts.values.length }

def addDigits (parts : DayParts) (cs : List Char) : Except Failure DayParts := do
  let n ← natural cs
  if 2 < cs.length then addYear { parts with fullYear := true } n
  else return parts.addPlain n

def addYearDigits (parts : DayParts) (cs : List Char) : Except Failure DayParts := do
  let n ← natural cs
  addYear { parts with fullYear := parts.fullYear || 2 < cs.length } n

/-- Adds the integer part of a decimal; more than a hundred is a year. -/
def addQuantity (parts : DayParts) (q : Quantity) : Except Failure DayParts :=
  if q.exceeds 100 then addYear { parts with fullYear := true } q.whole
  else .ok (parts.addPlain q.whole)

def value? (parts : DayParts) (position : Option Nat) : Option Nat :=
  position.bind fun i => parts.values[i]?

/-- Whether a decimal may be a day of the month, as far as month and year are known. -/
def admitsDay (parts : DayParts) (q : Quantity) : Bool :=
  let last := match parts.value? parts.month with
    | none => 31
    | some month =>
      match parts.value? parts.year with
      | none => monthLength 2000 month
      | some year => monthLength year month
  Nat.pow 10 q.places ≤ q.coefficient && !q.exceeds last

/-- The number at the position that the two known ones of three leave over. -/
def remaining (first second : Nat) : Nat :=
  3 - first - second

def chooseWithoutMonth (yearFirst : Bool) : List Nat → Except Failure DayChoice
  | [] => .ok ⟨none, none, none⟩
  | [a] => .ok (if 31 < a then ⟨some a, none, none⟩ else ⟨none, none, some a⟩)
  | [a, b] =>
    .ok (if 31 < a then ⟨some a, some b, none⟩
      else if 31 < b then ⟨some b, some a, none⟩
      else ⟨none, some a, some b⟩)
  | [a, b, c] =>
    .ok (if 31 < a ∨ yearFirst then ⟨some a, some b, some c⟩
      else if 12 < a then ⟨some c, some b, some a⟩
      else ⟨some c, some a, some b⟩)
  | _ => .error .notDate

def chooseWithMonth (position : Nat) : List Nat → Except Failure DayChoice
  | [a] => .ok ⟨none, some a, none⟩
  | [a, b] =>
    let (month, other) := if position = 0 then (a, b) else (b, a)
    .ok (if 31 < other then ⟨some other, some month, none⟩ else ⟨none, some month, some other⟩)
  | [a, b, c] =>
    .ok (match position with
      | 0 => if 31 < b then ⟨some b, some a, some c⟩ else ⟨some c, some a, some b⟩
      | 1 => if 31 < a then ⟨some a, some b, some c⟩ else ⟨some c, some b, some a⟩
      | _ => if 31 < b then ⟨some b, some c, some a⟩ else ⟨some a, some c, some b⟩)
  | _ => .error .notDate

/-- Tells the year, the month and the day.  When year and month are known, and there are no more
than three numbers, nothing is left to guess. -/
def choose (parts : DayParts) : Except Failure DayChoice :=
  match parts.year, parts.month, parts.values with
  | some _, none, [a] => .ok ⟨some a, none, none⟩
  | some year, some month, [_, _] =>
    .ok ⟨parts.value? (some year), parts.value? (some month), none⟩
  | some year, some month, [_, _, _] =>
    .ok ⟨parts.value? (some year), parts.value? (some month),
      parts.value? (some (remaining year month))⟩
  | _, some month, values => chooseWithMonth month values
  | year, none, values => chooseWithoutMonth (year == some 0) values

end DayParts

end TypedRecords.DateText
