import TypedRecords.Numeric.DoubleText

/-!
Days of the proleptic Gregorian calendar, from the year 1 to the year 9999, and
their numbering from the first of them.
-/

set_option autoImplicit false

namespace TypedRecords.Calendar

open TypedRecords.Numeric (padded)

structure Date where
  year : Nat
  month : Nat
  day : Nat
  deriving DecidableEq, Inhabited

/-- Every fourth year is a leap year, but of the centuries only every fourth. -/
def isLeapYear (year : Nat) : Bool :=
  year % 4 == 0 && (year % 100 != 0 || year % 400 == 0)

def monthLengths (year : Nat) : List Nat :=
  [31, if isLeapYear year then 29 else 28, 31, 30, 31, 30, 31, 31, 30, 31, 30, 31]

/-- The number of days of a month counted from one; a month that does not exist has none. -/
def monthLength (year month : Nat) : Nat :=
  if month = 0 then 0 else ((monthLengths year)[month - 1]?).getD 0

namespace Date

def isValid (d : Date) : Bool :=
  1 ≤ d.year && d.year ≤ 9999 && 1 ≤ d.day && d.day ≤ monthLength d.year d.month

def ofParts? (year month day : Nat) : Option Date :=
  if (Date.mk year month day).isValid then some ⟨year, month, day⟩ else none

def daysBeforeYear (year : Nat) : Nat :=
  let past := year - 1
  365 * past + past / 4 - past / 100 + past / 400

def daysBeforeMonth (year month : Nat) : Nat :=
  ((monthLengths year).take (month - 1)).foldr (· + ·) 0

/-- The number of a day; the first day of the year 1 has the number zero. -/
def number (d : Date) : Nat :=
  daysBeforeYear d.year + daysBeforeMonth d.year d.month + (d.day - 1)

/-- The month and the day of the month, given the days that remain of the year. -/
def monthAndDay (month remaining : Nat) : List Nat → Nat × Nat
  | [] => (month, remaining + 1)
  | length :: rest =>
    if remaining < length then (month, remaining + 1)
    else monthAndDay (month + 1) (remaining - length) rest

/-- The day with a number.  Whole cycles of 400, 100, 4 and 1 years are taken off in turn; the
last year of a cycle is one day longer. -/
def ofNumber (n : Nat) : Date :=
  let fourCenturies := n / 146097
  let n := n % 146097
  let centuries := min 3 (n / 36524)
  let n := n - 36524 * centuries
  let olympiads := n / 1461
  let n := n % 1461
  let years := min 3 (n / 365)
  let remaining := n - 365 * years
  let year := 400 * fourCenturies + 100 * centuries + 4 * olympiads + years + 1
  let (month, day) := monthAndDay 1 remaining (monthLengths year)
  ⟨year, month, day⟩

def lastNumber : Nat := 3652058

def ofNumber? (n : Int) : Option Date :=
  if 0 ≤ n ∧ n ≤ lastNumber then some (ofNumber n.toNat) else none

def weekday (d : Date) : Nat :=
  d.number % 7

/-- The text `YYYY-MM-DD`. -/
def isoText (d : Date) : String :=
  padded 4 d.year ++ "-" ++ padded 2 d.month ++ "-" ++ padded 2 d.day

end Date

end TypedRecords.Calendar
