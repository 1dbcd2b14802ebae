import Mathlib.Tactic.ByContra
import Mathlib.Tactic.SplitIfs
import TypedRecords.Calendar.Moment

/-!
The numbering of days and the counting of microseconds are one to one.  A day number splits into
the days before a year and those of the year, and these into the days before a month and those of
the month, each in one way only; a count of microseconds splits into a day number and a time of day.
-/

set_option autoImplicit false

namespace TypedRecords.Calendar

def total (lengths : List Nat) : Nat :=
  lengths.foldr (· + ·) 0

private theorem total_cons (length : Nat) (rest : List Nat) :
    total (length :: rest) = length + total rest :=
  rfl

private theorem total_take_add_le {lengths : List Nat} {index length : Nat}
    (listed : lengths[index]? = some length) :
    total (lengths.take index) + length ≤ total lengths := by
  induction lengths generalizing index with
  | nil => simp at listed
  | cons head rest ih =>
    cases index with
    | zero =>
      obtain rfl : head = length := by simpa using listed
      simp [total]
    | succ index =>
      have behind := ih (by simpa using listed)
      rw [List.take_succ_cons, total_cons, total_cons]
      omega

def yearLength (year : Nat) : Nat :=
  total (monthLengths year)

private theorem yearLength_eq (year : Nat) :
    yearLength year = if isLeapYear year then 366 else 365 := by
  unfold yearLength monthLengths
  split <;> rfl

private theorem isLeapYear_iff (year : Nat) :
    isLeapYear year = true ↔ 4 ∣ year ∧ (¬ 100 ∣ year ∨ 400 ∣ year) := by
  simp [isLeapYear, Nat.dvd_iff_mod_eq_zero]

namespace Date

section Months

variable {lengths : List Nat} {index length past : Nat}

private theorem monthAndDay_add (first : Nat) (listed : lengths[index]? = some length)
    (within : past < length) :
    monthAndDay first (total (lengths.take index) + past) lengths = (first + index, past + 1) := by
  induction lengths generalizing first index with
  | nil => simp at listed
  | cons head rest ih =>
    cases index with
    | zero =>
      obtain rfl : head = length := by simpa using listed
      simp [monthAndDay, total, within]
    | succ index =>
      rw [List.getElem?_cons_succ] at listed
      have later : ¬ head + total (rest.take index) + past < head := by omega
      have fewer : head + total (rest.take index) + past - head =
          total (rest.take index) + past := by
        omega
      rw [List.take_succ_cons, total_cons, monthAndDay, if_neg later, fewer, ih _ listed]
      simp only [Prod.mk.injEq, and_true]
      omega

private theorem exists_month {day : Nat} (within : day < total lengths) :
    ∃ index length past, lengths[index]? = some length ∧ past < length ∧
      day = total (lengths.take index) + past := by
  induction lengths generalizing day with
  | nil => exact absurd within (Nat.not_lt_zero day)
  | cons head rest ih =>
    rw [total_cons] at within
    rcases Nat.lt_or_ge day head with first | later
    · exact ⟨0, head, day, rfl, first, (Nat.zero_add day).symm⟩
    · obtain ⟨index, length, past, listed, short, split⟩ := @ih (day - head) (by omega)
      refine ⟨index + 1, length, past, by simpa using listed, short, ?_⟩
      rw [List.take_succ_cons, total_cons]
      omega

end Months

private theorem daysBeforeMonth_eq (year month : Nat) :
    daysBeforeMonth year month = total ((monthLengths year).take (month - 1)) :=
  rfl

section Years

private theorem daysBeforeYear_succ {year : Nat} (positive : 1 ≤ year) :
    daysBeforeYear (year + 1) = daysBeforeYear year + yearLength year := by
  obtain ⟨past, rfl⟩ : ∃ past, year = past + 1 := ⟨year - 1, by omega⟩
  change 365 * (past + 1) + (past + 1) / 4 - (past + 1) / 100 + (past + 1) / 400 =
    365 * past + past / 4 - past / 100 + past / 400 + yearLength (past + 1)
  rw [yearLength_eq, Nat.succ_div, Nat.succ_div, Nat.succ_div]
  simp only [isLeapYear_iff]
  split_ifs <;> omega

private theorem exists_year (n : Nat) :
    ∃ year day, 1 ≤ year ∧ day < yearLength year ∧ n = daysBeforeYear year + day := by
  have long (year : Nat) : 0 < yearLength year := by
    rw [yearLength_eq]
    split <;> decide
  induction n with
  | zero => exact ⟨1, 0, Nat.le_refl 1, long 1, rfl⟩
  | succ n ih =>
    obtain ⟨year, day, positive, within, rfl⟩ := ih
    rcases Nat.lt_or_ge (day + 1) (yearLength year) with same | next
    · exact ⟨year, day + 1, positive, same, Nat.add_assoc _ _ _⟩
    · refine ⟨year + 1, 0, Nat.le_add_left 1 year, long _, ?_⟩
      rw [daysBeforeYear_succ positive]
      omega

private theorem daysBeforeYear_mono {earlier later : Nat} (positive : 1 ≤ earlier)
    (le : earlier ≤ later) :
    daysBeforeYear earlier ≤ daysBeforeYear later := by
  induction le with
  | refl => exact Nat.le_refl _
  | step le ih =>
    rw [daysBeforeYear_succ (Nat.le_trans positive le)]
    exact Nat.le_add_right_of_le ih

end Years

section Cycles

variable (a : Nat) {b c e : Nat} (centuries : b < 4) (years : e < 4)

include centuries years

private theorem daysBeforeYear_cycles (olympiads : c < 25) :
    daysBeforeYear (400 * a + 100 * b + 4 * c + e + 1) =
      146097 * a + 36524 * b + 1461 * c + 365 * e := by
  dsimp only [daysBeforeYear]
  omega

/-- The last day of a leap year comes at the end of four years, and of a century only at the end of
four centuries. -/
theorem lt_yearLength_cycles {day : Nat}
    (within : day < yearLength (400 * a + 100 * b + 4 * c + e + 1)) :
    day < 365 ∨ day = 365 ∧ e = 3 ∧ (c = 24 → b = 3) := by
  have leap := isLeapYear_iff (400 * a + 100 * b + 4 * c + e + 1)
  rw [yearLength_eq] at within
  by_cases long : isLeapYear (400 * a + 100 * b + 4 * c + e + 1) = true
  · rw [if_pos long] at within
    have divides := leap.mp long
    omega
  · rw [if_neg long] at within
    exact Or.inl within

private theorem ofNumber_cycles {day : Nat} (olympiads : c < 25)
    (within : day < 365 ∨ day = 365 ∧ e = 3 ∧ (c = 24 → b = 3)) :
    ofNumber (146097 * a + (36524 * b + (1461 * c + (365 * e + day)))) =
      ⟨400 * a + 100 * b + 4 * c + e + 1,
        (monthAndDay 1 day (monthLengths (400 * a + 100 * b + 4 * c + e + 1))).1,
        (monthAndDay 1 day (monthLengths (400 * a + 100 * b + 4 * c + e + 1))).2⟩ := by
  have quarters : (146097 * a + (36524 * b + (1461 * c + (365 * e + day)))) / 146097 = a := by
    omega
  have ofQuarter : (146097 * a + (36524 * b + (1461 * c + (365 * e + day)))) % 146097 =
      36524 * b + (1461 * c + (365 * e + day)) := by
    omega
  have hundreds : min 3 ((36524 * b + (1461 * c + (365 * e + day))) / 36524) = b := by omega
  have fours : (1461 * c + (365 * e + day)) / 1461 = c := by omega
  have ofFour : (1461 * c + (365 * e + day)) % 1461 = 365 * e + day := by omega
  have ones : min 3 ((365 * e + day) / 365) = e := by omega
  simp only [ofNumber, quarters, ofQuarter, hundreds, fours, ofFour, ones, Nat.add_sub_cancel_left]

end Cycles

private theorem ofNumber_add {year day : Nat} (positive : 1 ≤ year)
    (within : day < yearLength year) :
    ofNumber (daysBeforeYear year + day) =
      ⟨year, (monthAndDay 1 day (monthLengths year)).1,
        (monthAndDay 1 day (monthLengths year)).2⟩ := by
  -- The years that are past, in cycles of 400, 100, 4 and 1.
  obtain ⟨a, b, c, e, rfl, centuries, olympiads, years⟩ :
      ∃ a b c e, year = 400 * a + 100 * b + 4 * c + e + 1 ∧ b < 4 ∧ c < 25 ∧ e < 4 :=
    ⟨(year - 1) / 400, (year - 1) % 400 / 100, (year - 1) % 100 / 4, (year - 1) % 4,
      by omega, by omega, by omega, by omega⟩
  have short := lt_yearLength_cycles a centuries years within
  rw [daysBeforeYear_cycles a centuries years olympiads]
  simpa only [Nat.add_assoc] using ofNumber_cycles a centuries years olympiads short

section Valid

variable {d : Date}

private theorem isValid_iff :
    d.isValid = true ↔
      (1 ≤ d.year ∧ d.year ≤ 9999) ∧ 1 ≤ d.day ∧
        ∃ index length, d.month = index + 1 ∧ (monthLengths d.year)[index]? = some length ∧
          d.day ≤ length := by
  simp only [isValid, Bool.and_eq_true, decide_eq_true_eq, and_assoc]
  refine and_congr_right fun _ => and_congr_right fun _ => and_congr_right fun dayPositive => ?_
  constructor
  · intro dayMost
    unfold monthLength at dayMost
    split at dayMost
    · omega
    · cases listed : (monthLengths d.year)[d.month - 1]? with
      | none =>
        rw [listed] at dayMost
        change d.day ≤ 0 at dayMost
        omega
      | some length =>
        rw [listed] at dayMost
        exact ⟨d.month - 1, length, by omega, listed, dayMost⟩
  · rintro ⟨index, length, month, listed, dayMost⟩
    simpa [monthLength, month, listed] using dayMost

private theorem daysOfYear_lt (valid : d.isValid = true) :
    daysBeforeMonth d.year d.month + (d.day - 1) < yearLength d.year := by
  obtain ⟨-, dayPositive, index, length, month, listed, dayMost⟩ := isValid_iff.mp valid
  have most := total_take_add_le listed
  rw [daysBeforeMonth_eq, month, Nat.add_sub_cancel, yearLength]
  omega

private theorem ofNumber_number (valid : d.isValid = true) : ofNumber d.number = d := by
  obtain ⟨⟨yearPositive, -⟩, dayPositive, index, length, month, listed, dayMost⟩ :=
    isValid_iff.mp valid
  have within := daysOfYear_lt valid
  rw [number, Nat.add_assoc, ofNumber_add yearPositive within, daysBeforeMonth_eq, month,
    Nat.add_sub_cancel, monthAndDay_add 1 listed (by omega : d.day - 1 < length)]
  obtain ⟨year, _, day⟩ := d
  obtain rfl : _ = index + 1 := month
  simp only [mk.injEq, true_and]
  exact ⟨Nat.add_comm 1 index, Nat.sub_add_cancel dayPositive⟩

private theorem daysBeforeYear_end : daysBeforeYear 10000 = lastNumber + 1 :=
  rfl

private theorem number_le_lastNumber (valid : d.isValid = true) : d.number ≤ lastNumber := by
  obtain ⟨⟨yearPositive, yearMost⟩, -⟩ := isValid_iff.mp valid
  have within := daysOfYear_lt valid
  have next := daysBeforeYear_succ yearPositive
  have last := daysBeforeYear_mono (Nat.le_add_left 1 d.year) (Nat.add_le_add_right yearMost 1)
  rw [daysBeforeYear_end] at last
  unfold number
  omega

private theorem exists_number {n : Nat} (most : n ≤ lastNumber) :
    ∃ d : Date, d.isValid = true ∧ d.number = n := by
  obtain ⟨year, day, yearPositive, within, rfl⟩ := exists_year n
  obtain ⟨index, length, past, listed, short, rfl⟩ := exists_month within
  refine ⟨⟨year, index + 1, past + 1⟩, isValid_iff.mpr ⟨⟨yearPositive, ?_⟩,
    Nat.le_add_left 1 past, index, length, rfl, listed, short⟩, ?_⟩
  · change year ≤ 9999
    by_contra late
    have beyond := daysBeforeYear_mono (by decide) (Nat.not_le.mp late)
    rw [Nat.succ_eq_add_one, daysBeforeYear_end] at beyond
    omega
  · simp only [number, daysBeforeMonth_eq, Nat.add_sub_cancel, Nat.add_assoc]

/-- Days that exist and numbers up to the last one are one to one. -/
theorem ofNumber?_eq_some_iff {n : Int} :
    ofNumber? n = some d ↔ d.isValid = true ∧ (d.number : Int) = n := by
  unfold ofNumber?
  constructor
  · intro found
    split_ifs at found with bounds
    obtain rfl := Option.some.inj found
    obtain ⟨e, valid, same⟩ := exists_number (n := n.toNat) (by omega)
    rw [← same, ofNumber_number valid]
    exact ⟨valid, by omega⟩
  · rintro ⟨valid, rfl⟩
    have most := number_le_lastNumber valid
    rw [if_pos ⟨by omega, by omega⟩, Int.toNat_natCast, ofNumber_number valid]

end Valid

end Date

namespace TimeOfDay

private theorem isValid_iff {t : TimeOfDay} :
    t.isValid = true ↔
      t.hour < 24 ∧ t.minute < 60 ∧ t.second < 60 ∧ t.microsecond < 1000000 := by
  simp only [isValid, Bool.and_eq_true, decide_eq_true_eq, and_assoc]

/-- Times of day and the seconds and microseconds of a day are one to one. -/
theorem ofSeconds_eq_iff {seconds microsecond : Nat} {t : TimeOfDay} (within : seconds < 86400)
    (small : microsecond < 1000000) :
    ofSeconds seconds microsecond = t ↔
      t.isValid = true ∧ t.toSeconds = seconds ∧ t.microsecond = microsecond := by
  rw [isValid_iff, toSeconds]
  constructor
  · rintro rfl
    simp only [ofSeconds, and_true]
    omega
  · obtain ⟨hour, minute, second, rest⟩ := t
    simp only [ofSeconds, mk.injEq]
    omega

end TimeOfDay

namespace Moment

structure IsUniversal (m : Moment) : Prop where
  date : m.date.isValid = true
  time : m.time.isValid = true
  offset : m.offset = some 0

/-- The moment a number of microseconds after the beginning of 1970 in universal time. -/
def ofEpochMicroseconds? (t : Int) : Option Moment :=
  ofEpoch? (t / 1000000) (t % 1000000).toNat

/-- The moments of universal time and the counts of microseconds are one to one. -/
theorem ofEpochMicroseconds?_eq_some_iff {t : Int} {m : Moment} :
    ofEpochMicroseconds? t = some m ↔ m.IsUniversal ∧ m.toEpochMicroseconds = t := by
  have time := @TimeOfDay.ofSeconds_eq_iff (t / 1000000 % 86400).toNat (t % 1000000).toNat m.time
    (by omega) (by omega)
  unfold ofEpochMicroseconds? ofEpoch?
  rw [Option.map_eq_some_iff]
  constructor
  · rintro ⟨date, found, made⟩
    obtain ⟨dateValid, number⟩ := Date.ofNumber?_eq_some_iff.mp found
    obtain ⟨timeValid, seconds, microsecond⟩ := time.mp (congrArg Moment.time made)
    obtain rfl : date = m.date := congrArg Moment.date made
    have offset : m.offset = some 0 := (congrArg Moment.offset made).symm
    refine ⟨⟨dateValid, timeValid, offset⟩, ?_⟩
    rw [toEpochMicroseconds, number, offset, Option.getD_some]
    omega
  · rintro ⟨⟨dateValid, timeValid, offset⟩, counted⟩
    have bounds : m.time.toSeconds < 86400 ∧ m.time.microsecond < 1000000 := by
      rw [TimeOfDay.isValid_iff] at timeValid
      unfold TimeOfDay.toSeconds
      omega
    rw [toEpochMicroseconds, offset, Option.getD_some] at counted
    refine ⟨m.date, Date.ofNumber?_eq_some_iff.mpr ⟨dateValid, by omega⟩, ?_⟩
    rw [time.mpr ⟨timeValid, by omega, by omega⟩, ← offset]

theorem exists_universal_iff {t : Int} :
    (∃ m : Moment, m.IsUniversal ∧ m.toEpochMicroseconds = t) ↔
      -62135596800000000 ≤ t ∧ t < 253402300800000000 := by
  simp only [← ofEpochMicroseconds?_eq_some_iff, ← Option.isSome_iff_exists, ofEpochMicroseconds?,
    ofEpoch?, Option.isSome_map, Date.ofNumber?, Option.isSome_ite]
  unfold epochDay Date.lastNumber
  omega

theorem IsUniversal.microsecond_eq {m : Moment} (universal : m.IsUniversal) :
    (m.time.microsecond : Int) = m.toEpochMicroseconds % 1000000 := by
  have valid := TimeOfDay.isValid_iff.mp universal.time
  unfold toEpochMicroseconds
  omega

theorem IsUniversal.withMicrosecond {m : Moment} (universal : m.IsUniversal) {microsecond : Nat}
    (small : microsecond < 1000000) :
    ofEpochMicroseconds? (m.toEpochMicroseconds - m.time.microsecond + microsecond) =
      some { m with time := { m.time with microsecond := microsecond } } := by
  obtain ⟨date, time, offset⟩ := universal
  refine ofEpochMicroseconds?_eq_some_iff.mpr ⟨⟨date, ?_, offset⟩, ?_⟩
  · rw [TimeOfDay.isValid_iff] at time ⊢
    exact ⟨time.1, time.2.1, time.2.2.1, small⟩
  · simp only [toEpochMicroseconds, TimeOfDay.toSeconds]
    omega

end Moment

end TypedRecords.Calendar
