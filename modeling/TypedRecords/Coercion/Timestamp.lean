import TypedRecords.Calendar.Moment
import TypedRecords.Value.Basic

/-!
Moments from numbers, which count milliseconds since the beginning of 1970 in
universal time.  The quotient by a thousand is rounded to double precision, its
fraction to microseconds.
-/

set_option autoImplicit false

namespace TypedRecords.Coercion

open TypedRecords.Numeric (Double)
open TypedRecords.Calendar (Moment)

def ofSeconds? (x : Double) : Option Moment := do
  let seconds ← x.truncate?
  let microseconds ← (x.fraction.mulNat 1000000).round?
  if 1000000 ≤ microseconds then Moment.ofEpoch? (seconds + 1) (microseconds - 1000000).toNat
  else if microseconds < 0 then Moment.ofEpoch? (seconds - 1) (microseconds + 1000000).toNat
  else Moment.ofEpoch? seconds microseconds.toNat

/-- The moment an integer number of milliseconds after the beginning of 1970. -/
def ofMilliseconds? (n : Int) : Option Moment :=
  (Double.ofIntRatio? n 1000).bind ofSeconds?

def ofDoubleMilliseconds? (x : Double) : Option Moment :=
  ofSeconds? (x.divNat 1000)

end TypedRecords.Coercion
