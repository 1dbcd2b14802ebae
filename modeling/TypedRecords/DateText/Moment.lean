import TypedRecords.Calendar.Moment
import TypedRecords.DateText.Reader

/-!
The moment that the text of a date means.  What the text leaves open comes from
the clock: the year, the month and the day of today, with the day taken back to
the end of a shorter month, and midnight.  A day of the week without a day of the
month moves forward to the next such day.  So dateutil completes a text, and so it
takes the zone from the clock where the text names one that the clock knows.
-/

set_option autoImplicit false

namespace TypedRecords.DateText

open TypedRecords.Calendar (Clock Date Moment TimeOfDay monthLength)

def Findings.isEmpty (found : Findings) (day : DayChoice) : Bool :=
  day.year.isNone && day.month.isNone && day.day.isNone && found.weekday.isNone &&
    found.hour.isNone && found.minute.isNone && found.second.isNone &&
    found.microsecond.isNone && found.zoneName.isNone && found.zoneOffset.isNone

def dayOf? (clock : Clock) (day : DayChoice) : Option Date :=
  let year := day.year.getD clock.today.year
  let month := day.month.getD clock.today.month
  Date.ofParts? year month (day.day.getD (min clock.today.day (monthLength year month)))

/-- The first day from a given one on that is a given day of the week. -/
def nextWeekday? (weekday : Nat) (date : Date) : Option Date :=
  Date.ofNumber? ((date.number + (7 - date.weekday + weekday) % 7 : Nat) : Int)

def Findings.time? (found : Findings) : Option TimeOfDay :=
  let time : TimeOfDay :=
    ⟨found.hour.getD 0, found.minute.getD 0, found.second.getD 0, found.microsecond.getD 0⟩
  if time.isValid then some time else none

def longestSpan : Int := 999999999

def countable? (offset : Int) : Option Int :=
  if -longestSpan ≤ offset / 86400 ∧ offset / 86400 ≤ longestSpan then some offset else none

/-- Whether a zone is universal time: by name, or because its offset is zero. -/
def Findings.isUtc (found : Findings) : Bool :=
  found.zoneName.any isUtcName || found.zoneOffset == some 0

/-- The name of the zone; an offset of zero without a name, and the letter for universal time, have
the name of that. -/
def Findings.zone? (found : Findings) : Option String :=
  if found.zoneOffset = some 0 ∧ found.zoneName = none ∨ found.zoneName = some "Z" ∨
      found.zoneName = some "z" then some "UTC"
  else found.zoneName

def Findings.localZone? (clock : Clock) (found : Findings) : Option String :=
  found.zone?.filter clock.zoneNames.contains

/-- The offset of the zone, `none` when it is open.  A name of the local zone goes before a written
offset; any other name than that of universal time tells nothing. -/
def Findings.offset? (clock : Clock) (found : Findings) (date : Date) (time : TimeOfDay) :
    Option (Option Int) :=
  match found.localZone? clock with
  | some name => (clock.localOffset? name date time).map some
  | none =>
    if found.isUtc then some (some 0)
    else
      match found.zoneOffset with
      | none => some none
      | some offset => (countable? offset).map some

def Findings.moment? (clock : Clock) (found : Findings) (day : DayChoice) : Option Moment := do
  let year := if found.parts.fullYear then day.year else day.year.map (nearYear clock)
  let date ← dayOf? clock { day with year }
  let time ← found.time?
  let date ← match found.weekday, day.day with
    | some weekday, none => nextWeekday? weekday date
    | _, _ => some date
  let offset ← found.offset? clock date time
  return ⟨date, time, offset⟩

def read (clock : Clock) (text : String) : Except Failure Moment := do
  let found ← findingsOf clock text
  let day ← found.parts.choose
  if found.isEmpty day then .error .notDate else need (found.moment? clock day)

end TypedRecords.DateText
