import TypedRecords.Calendar.Date

/-!
Times of day and moments: a day, a time of day to the microsecond, and, when the
zone is known, its distance from universal time.
-/

set_option autoImplicit false

namespace TypedRecords.Calendar

open TypedRecords.Numeric (padded)

structure TimeOfDay where
  hour : Nat
  minute : Nat
  second : Nat
  microsecond : Nat
  deriving DecidableEq, Inhabited

namespace TimeOfDay

def midnight : TimeOfDay := ⟨0, 0, 0, 0⟩

def isValid (t : TimeOfDay) : Bool :=
  t.hour < 24 && t.minute < 60 && t.second < 60 && t.microsecond < 1000000

/-- The time with a number of seconds since midnight, and microseconds. -/
def ofSeconds (seconds microsecond : Nat) : TimeOfDay :=
  ⟨seconds / 3600, seconds / 60 % 60, seconds % 60, microsecond⟩

def toSeconds (t : TimeOfDay) : Nat :=
  3600 * t.hour + 60 * t.minute + t.second

/-- The text `HH:MM:SS`, with six decimals when the microseconds are not zero. -/
def isoText (t : TimeOfDay) : String :=
  padded 2 t.hour ++ ":" ++ padded 2 t.minute ++ ":" ++ padded 2 t.second ++
    (if t.microsecond = 0 then "" else "." ++ padded 6 t.microsecond)

end TimeOfDay

/-- A moment.  The offset counts seconds east of universal time; without one the zone is open. -/
structure Moment where
  date : Date
  time : TimeOfDay
  offset : Option Int
  deriving DecidableEq, Inhabited

namespace Moment

def epochDay : Int := 719162

/-- The moment a number of seconds and microseconds after the beginning of 1970 in universal
time, within the calendar. -/
def ofEpoch? (seconds : Int) (microsecond : Nat) : Option Moment :=
  (Date.ofNumber? (seconds / 86400 + epochDay)).map fun date =>
    ⟨date, TimeOfDay.ofSeconds (seconds % 86400).toNat microsecond, some 0⟩

/-- The microseconds since the beginning of 1970 in universal time; an open zone counts as
universal time. -/
def toEpochMicroseconds (m : Moment) : Int :=
  (((m.date.number : Int) - epochDay) * 86400 + m.time.toSeconds - m.offset.getD 0) * 1000000 +
    m.time.microsecond

def orUtc (m : Moment) : Moment :=
  { m with offset := some (m.offset.getD 0) }

def hasWritableOffset (m : Moment) : Bool :=
  (m.offset.getD 0).natAbs < 86400

/-- The text of an offset: sign, hours and minutes, and seconds when they are not zero. -/
def offsetText (offset : Int) : String :=
  let seconds := offset.natAbs
  (if offset < 0 then "-" else "+") ++ padded 2 (seconds / 3600) ++ ":" ++
    padded 2 (seconds / 60 % 60) ++
    (if seconds % 60 = 0 then "" else ":" ++ padded 2 (seconds % 60))

/-- Day, separator, time of day and, when it is known, the offset. -/
def isoText (separator : String) (m : Moment) : String :=
  m.date.isoText ++ separator ++ m.time.isoText ++
    (match m.offset with
    | none => ""
    | some offset => offsetText offset)

end Moment

end TypedRecords.Calendar
