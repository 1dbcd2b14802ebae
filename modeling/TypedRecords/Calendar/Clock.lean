import TypedRecords.Calendar.Moment

/-!
The day and the zone of the place where a program runs, which fill in what the text of a date leaves
open.  Both are taken to stay the same while a text is read.
-/

set_option autoImplicit false

namespace TypedRecords.Calendar

structure Clock where
  today : Date
  todayIsValid : today.isValid = true
  /-- The names that the zone of the place goes by, those of its summer time included. -/
  zoneNames : List String
  /-- The seconds east of universal time at a time of day that is given in the zone, by one of its
  names; there are none where they cannot be told. -/
  localOffset? : String → Date → TimeOfDay → Option Int

def Clock.universal (today : Date) (valid : today.isValid = true) : Clock where
  today := today
  todayIsValid := valid
  zoneNames := ["UTC"]
  localOffset? := fun _ _ _ => some 0

def Clock.epoch : Clock :=
  .universal ⟨1970, 1, 1⟩ rfl

end TypedRecords.Calendar
