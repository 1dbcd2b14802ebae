import TypedRecords.Proofs.Calendar.Numbering
import TypedRecords.Proofs.Coercion.Basic
import TypedRecords.Proofs.Numeric.Parts

/-!
Numbers of milliseconds as moments.  The quotient by a thousand is rounded to double precision and
its fraction to microseconds, so that the moment is exact as long as a number of double precision
lies within half a microsecond of the exact quotient.  Up to `2 ^ 33` seconds one always does; up to
`2 ^ 38`, which is more than the calendar covers, one is never farther than `2 ^ -16` seconds, and
the moment keeps its second.
-/

set_option autoImplicit false

namespace TypedRecords.Coercion

open TypedRecords.Numeric (Double RoundsTo)
open TypedRecords.Numeric.Double
open TypedRecords.Calendar (Moment)

variable {clock : Calendar.Clock}

/-- Seconds and microseconds that may have reached the next second or fallen behind count as
microseconds altogether. -/
theorem ofSeconds?_eq {x : Double} {seconds microseconds : Int}
    (whole : x.truncate? = some seconds)
    (rounded : (x.fraction.mulNat 1000000).round? = some microseconds)
    (least : -1000000 ≤ microseconds) (most : microseconds ≤ 1000000) :
    ofSeconds? x = Moment.ofEpochMicroseconds? (seconds * 1000000 + microseconds) := by
  simp only [ofSeconds?, whole, rounded, Option.bind_eq_bind, Option.bind_some]
  unfold Moment.ofEpochMicroseconds?
  split_ifs with next behind
  · congr 1 <;> omega
  · congr 1 <;> omega
  · rcases Int.lt_or_eq_of_le most with less | rfl
    · congr 1 <;> omega
    · omega

private theorem ofSeconds?_finite (negative : Bool) {mantissa : Nat} {exponent : Int}
    (magnitude : IsMagnitude (size mantissa exponent)) :
    ∃ (microseconds : Nat) (product : ℚ),
      ofSeconds? (.finite negative mantissa exponent) =
        Moment.ofEpochMicroseconds?
          (signed negative (⌊size mantissa exponent⌋₊ * 1000000 + microseconds)) ∧
      IsNearest product ((size mantissa exponent - ⌊size mantissa exponent⌋₊) * 1000000) ∧
      RoundsTo product microseconds := by
  have fractionLess := Nat.lt_floor_add_one (size mantissa exponent)
  obtain ⟨m, e, fraction, exact⟩ := fraction_finite negative mantissa exponent magnitude
  obtain ⟨m', e', multiplied, nearest⟩ :=
    mulNat_finite negative m e 1000000 (by rw [exact]; push_cast; linarith)
  obtain ⟨n, rounded, rounds⟩ := round?_finite negative m' e'
  rw [exact, Nat.cast_ofNat] at nearest
  refine ⟨n, size m' e', ?_, nearest, rounds⟩
  have most : n ≤ 1000000 := by
    have million : IsMagnitude 1000000 := ⟨1000000, 0, by norm_num, by decide, by simp [size]⟩
    have productMost := nearest.ge_of_ge million (by linarith)
    have near := abs_le.mp rounds.near
    have less : (n : ℚ) < 1000000 + 1 := by linarith
    exact Nat.lt_succ_iff.mp (by exact_mod_cast less)
  rw [ofSeconds?_eq (truncate?_finite negative mantissa exponent)
    (by rw [fraction, multiplied, rounded])]
  · congr 1
    cases negative <;> simp only [signed, if_true] <;> push_cast <;> ring
  all_goals cases negative <;> simp only [signed, if_true] <;> omega

/-- A magnitude lies within half a microsecond of a number of milliseconds. -/
def IsResolved (n : Nat) : Prop :=
  ∃ w, IsMagnitude w ∧ |w - n / 1000| ≤ 1 / 2000000

section Nearest

variable {n : Nat} {v : ℚ} (nearest : IsNearest v (n / 1000))

private theorem seconds_split (n : Nat) : (n / 1000 : ℚ) = (n / 1000 : Nat) +
    (n % 1000 : Nat) / 1000 := by
  exact_mod_cast Numeric.quotient_split n (by decide : 0 < 1000)

include nearest

private theorem isResolved_iff : IsResolved n ↔ |v - n / 1000| ≤ 1 / 2000000 := by
  constructor
  · rintro ⟨w, magnitude, close⟩
    exact (nearest.le_of_isMagnitude w magnitude).trans close
  · exact fun close => ⟨v, nearest.isMagnitude, close⟩

private theorem error_below (count : Nat) (below : n < 1000 * 2 ^ count) :
    |v - n / 1000| ≤ 2 ^ ((count : Int) - 53) / 2 := by
  refine nearest.error _ (by unfold leastExponent; omega) (by positivity) ?_
  have seconds : (n : ℚ) ≤ 2 ^ count * 1000 := by
    rw [mul_comm]
    exact_mod_cast below.le
  rw [zpow_sub₀ two_ne_zero, zpow_natCast, div_le_iff₀ (by norm_num)]
  refine seconds.trans (le_of_eq ?_)
  norm_num
  ring

private theorem resolved_below (below : n < 1000 * 2 ^ 33) : |v - n / 1000| ≤ 1 / 2000000 :=
  (error_below nearest 33 below).trans (by norm_num)

private theorem near_below (below : n < 1000 * 2 ^ 38) : |v - n / 1000| ≤ 1 / 2 ^ 16 :=
  (error_below nearest 38 below).trans (by norm_num)

private theorem floor_nearest (below : n < 1000 * 2 ^ 38) : ⌊v⌋₊ = n / 1000 := by
  have natural : IsMagnitude (n / 1000 : Nat) :=
    ⟨n / 1000, 0, by omega, by decide, by simp [size]⟩
  have close := abs_le.mp (near_below nearest below)
  have split := seconds_split n
  have fraction : ((n % 1000 : Nat) : ℚ) ≤ 999 := by
    exact_mod_cast Nat.le_of_lt_succ (Nat.mod_lt n (by decide))
  have nonneg : (0 : ℚ) ≤ (n % 1000 : Nat) := Nat.cast_nonneg _
  have least := nearest.le_of_le natural (by linarith)
  exact (Nat.floor_eq_iff ((Nat.cast_nonneg _).trans least)).mpr ⟨least, by linarith⟩

private theorem product_nonneg : 0 ≤ (v - ⌊v⌋₊) * 1000000 :=
  mul_nonneg (sub_nonneg.mpr (Nat.floor_le nearest.isMagnitude.nonneg)) (by norm_num)

private theorem isMagnitude_product (reached : 1000 * 2 ^ 33 ≤ n) :
    IsMagnitude ((v - ⌊v⌋₊) * 1000000) := by
  have large : 2 ^ 52 * 2 ^ (-19 : Int) ≤ v := by
    refine nearest.le_of_le ⟨1, 33, by norm_num, by decide, by norm_num [size]⟩ ?_
    rw [le_div_iff₀ (by norm_num)]
    norm_num
    exact_mod_cast (by omega : 8589934592000 ≤ n)
  obtain ⟨k, rfl⟩ := nearest.isMagnitude.exists_units large
  have short : k % 2 ^ 19 < 2 ^ 19 := Nat.mod_lt _ (by norm_num)
  refine ⟨k % 2 ^ 19 * 1000000, -19, by omega, by decide, ?_⟩
  have fraction := fraction_size k 19
  rw [Nat.cast_ofNat] at fraction
  rw [fraction, size, size, Nat.cast_mul, Nat.cast_ofNat]
  ring

end Nearest

private theorem isResolved_of_whole_second {n : Nat} (below : n < 1000 * 2 ^ 38)
    (whole : n % 1000 = 0) : IsResolved n := by
  refine ⟨n / 1000, ⟨n / 1000, 0, by omega, by decide, ?_⟩, by norm_num⟩
  rw [seconds_split, whole]
  simp [size]

section Microseconds

variable {n microseconds : Nat} {v product : ℚ} (nearest : IsNearest v (n / 1000))
  (below : n < 1000 * 2 ^ 38) (multiplied : IsNearest product ((v - ⌊v⌋₊) * 1000000))
  (rounds : RoundsTo product microseconds)

private theorem product_sub (n : Nat) {v : ℚ} (whole : ⌊v⌋₊ = n / 1000) :
    (v - ⌊v⌋₊) * 1000000 - 1000 * (n % 1000 : Nat) = (v - n / 1000) * 1000000 := by
  rw [whole, seconds_split n]
  ring

include nearest below multiplied rounds

private theorem microseconds_near : |(microseconds : Int) - 1000 * (n % 1000 : Nat)| ≤ 15 := by
  have shift := product_sub n (floor_nearest nearest below)
  have middle : size (8000 * (n % 1000)) (-3) = 1000 * (n % 1000 : Nat) := by
    rw [size]
    push_cast
    ring
  have units : size 123 (-3) = 123 / 8 := by norm_num [size]
  have close := multiplied.within (8000 * (n % 1000)) 123 (-3) (by omega) (by decide)
    (product_nonneg nearest)
  rw [middle, units, shift, abs_mul] at close
  have few := mul_le_mul_of_nonneg_right (near_below nearest below) (abs_nonneg (1000000 : ℚ))
  have moved := close (few.trans (by norm_num))
  have near := rounds.near
  have triangle := abs_sub_le (microseconds : ℚ) product (1000 * (n % 1000 : Nat))
  have less : |(microseconds : ℚ) - 1000 * (n % 1000 : Nat)| < 16 := by linarith
  exact Int.lt_add_one_iff.mp (by exact_mod_cast less)

private theorem microseconds_eq_iff : microseconds = 1000 * (n % 1000) ↔ IsResolved n := by
  have shift := product_sub n (floor_nearest nearest below)
  have scaled : |(v - ⌊v⌋₊) * 1000000 - 1000 * (n % 1000 : Nat)| ≤ 1 / 2 ↔
      |v - n / 1000| ≤ 1 / 2000000 := by
    rw [shift, abs_mul, abs_of_pos (by norm_num : (0 : ℚ) < 1000000), ← le_div_iff₀ (by norm_num)]
    norm_num
  rw [rounds.eq_iff (by omega), isResolved_iff nearest, abs_sub_comm, Nat.cast_mul,
    Nat.cast_ofNat]
  constructor
  · -- Rounding the product could hide a distance of more than a half, but only where it is inexact.
    intro exact
    rcases Nat.lt_or_ge n (1000 * 2 ^ 33) with short | long
    · exact resolved_below nearest short
    · rw [multiplied.eq_of_isMagnitude (isMagnitude_product nearest long)] at exact
      exact scaled.mp exact
  · intro resolved
    have middle : size (2000 * (n % 1000)) (-1) = 1000 * (n % 1000 : Nat) := by
      rw [size]
      push_cast
      ring
    have half : size 1 (-1) = 1 / 2 := by norm_num [size]
    have close := multiplied.within (2000 * (n % 1000)) 1 (-1) (by omega) (by decide)
      (product_nonneg nearest)
    rw [middle, half] at close
    exact close (scaled.mpr resolved)

end Microseconds

private theorem exists_seconds {n : Int} (below : n.natAbs < 1000 * 2 ^ 38) :
    ∃ mantissa exponent,
      ofIntRatio? n 1000 = some (.finite (decide (n < 0)) mantissa exponent) ∧
      IsNearest (size mantissa exponent) (n.natAbs / 1000) := by
  have small : (n.natAbs / (1000 : Nat) : ℚ) < 2 ^ 64 := by
    rw [div_lt_iff₀ (by norm_num)]
    exact_mod_cast (by omega : n.natAbs < 2 ^ 64 * 1000)
  obtain ⟨mantissa, exponent, divided, nearest⟩ :=
    exists_ofRatio (decide (n < 0)) n.natAbs (by decide) small
  refine ⟨mantissa, exponent, ?_, nearest⟩
  rw [ofIntRatio?, divided]
  rfl

/-- A number of milliseconds is taken for microseconds that are near; for exactly so many when a
magnitude is near enough, as it is when the seconds are whole. -/
theorem ofMilliseconds?_eq {n : Int} (below : n.natAbs < 1000 * 2 ^ 38) :
    ∃ t, ofMilliseconds? n = Moment.ofEpochMicroseconds? t ∧ |t - 1000 * n| ≤ 15 ∧
      (1000 ∣ n → t = 1000 * n) ∧ (t = 1000 * n ↔ IsResolved n.natAbs) := by
  obtain ⟨mantissa, exponent, divided, nearest⟩ := exists_seconds below
  obtain ⟨microseconds, product, counted, multiplied, rounds⟩ :=
    ofSeconds?_finite (decide (n < 0)) nearest.isMagnitude
  rw [floor_nearest nearest below] at counted
  have near := microseconds_near nearest below multiplied rounds
  have resolved := microseconds_eq_iff nearest below multiplied rounds
  have exact : signed (decide (n < 0)) (n.natAbs / 1000 * 1000000 + microseconds) = 1000 * n ↔
      IsResolved n.natAbs := by
    rw [← resolved]
    simp only [signed, decide_eq_true_eq]
    omega
  refine ⟨_, by rw [ofMilliseconds?, divided, Option.bind_some, counted], ?_, ?_, exact⟩
  · rw [abs_le] at near ⊢
    simp only [signed, decide_eq_true_eq]
    omega
  · exact fun whole => exact.mpr (isResolved_of_whole_second below (by omega))

section Coerced

variable (settings : Settings) (labels : TypeLabels) {n : Int} {m : Moment}

private theorem coerce_int_date_iff :
    coerce clock settings (.leaf .date labels) (.int n) = .ok (.moment m) ↔
      ofMilliseconds? n = some m := by
  change orMismatch settings _ _ ((ofMilliseconds? n).map Value.moment) = _ ↔ _
  cases ofMilliseconds? n with
  | some found => simp [orMismatch]
  | none =>
    simp only [Option.map_none, orMismatch, mismatch, reduceCtorEq, iff_false]
    split <;> simp

/-- A number of milliseconds whose moment the calendar covers is coerced to that moment but for
at most fifteen microseconds within its second, strictly or not.  It is exact when a magnitude lies
within half a microsecond of the seconds, and so whenever these are fewer than `2 ^ 33`. -/
theorem coerce_milliseconds (universal : m.IsUniversal)
    (instant : m.toEpochMicroseconds = 1000 * n) :
    (∃ microsecond : Nat,
        coerce clock settings (.leaf .date labels) (.int n) =
          .ok (.moment { m with time := { m.time with microsecond := microsecond } }) ∧
        |(microsecond : Int) - m.time.microsecond| ≤ 15) ∧
      (coerce clock settings (.leaf .date labels) (.int n) = .ok (.moment m) ↔
        IsResolved n.natAbs) ∧
      (n.natAbs < 1000 * 2 ^ 33 →
        coerce clock settings (.leaf .date labels) (.int n) = .ok (.moment m)) := by
  have covered := Moment.exists_universal_iff.mp ⟨m, universal, instant⟩
  have below : n.natAbs < 1000 * 2 ^ 38 := by omega
  obtain ⟨t, counted, near, whole, resolved⟩ := ofMilliseconds?_eq below
  have exact : coerce clock settings (.leaf .date labels) (.int n) = .ok (.moment m) ↔
      IsResolved n.natAbs := by
    rw [coerce_int_date_iff, counted, Moment.ofEpochMicroseconds?_eq_some_iff, ← resolved,
      instant, eq_comm]
    exact and_iff_right universal
  refine ⟨?_, exact, fun few => ?_⟩
  · have second := universal.microsecond_eq
    rw [instant] at second
    rw [abs_le] at near
    -- In a whole second the count is exact, and in any other the second's end is far away.
    obtain ⟨microsecond, moved, small⟩ :
        ∃ microsecond : Nat, 1000 * n - m.time.microsecond + microsecond = t ∧
          microsecond < 1000000 :=
      ⟨(t - 1000 * n + m.time.microsecond).toNat, by omega, by omega⟩
    refine ⟨microsecond, (coerce_int_date_iff settings labels).mpr ?_, abs_le.mpr (by omega)⟩
    rw [counted, ← moved, ← instant, universal.withMicrosecond small]
  · obtain ⟨mantissa, exponent, -, nearest⟩ := exists_seconds below
    exact exact.mpr ((isResolved_iff nearest).mpr (resolved_below nearest few))

end Coerced

/-- The last millisecond before 1970 is exact; that before the year 10000 stays within its
second. -/
theorem coerce_milliseconds_last :
    let last : Moment := ⟨⟨1969, 12, 31⟩, ⟨23, 59, 59, 999000⟩, some 0⟩
    let far : Moment := ⟨⟨9999, 12, 31⟩, ⟨23, 59, 59, 999000⟩, some 0⟩
    coerce .epoch Settings.default (.plain .date) (.int (-1)) = .ok (.moment last) ∧
      ∃ microsecond : Nat,
        coerce .epoch Settings.default (.plain .date) (.int 253402300799999) =
          .ok (.moment { far with time := { far.time with microsecond := microsecond } }) ∧
        |(microsecond : Int) - 999000| ≤ 15 := by
  intro last far
  obtain ⟨-, -, exact⟩ := coerce_milliseconds Settings.default TypeLabels.none (n := -1) (m := last)
    ⟨rfl, rfl, rfl⟩ (by decide)
  obtain ⟨near, -⟩ := coerce_milliseconds Settings.default TypeLabels.none
    (n := 253402300799999) (m := far) ⟨rfl, rfl, rfl⟩ (by decide)
  exact ⟨exact (by decide), near⟩

/-- The first millisecond that is not exact: it is taken for the microsecond before it. -/
theorem coerce_milliseconds_shifted :
    let exact : Moment := ⟨⟨2242, 3, 16⟩, ⟨12, 56, 32, 1000⟩, some 0⟩
    let made : Moment := ⟨⟨2242, 3, 16⟩, ⟨12, 56, 32, 999⟩, some 0⟩
    exact.IsUniversal ∧ exact.toEpochMicroseconds = 1000 * 8589934592001 ∧
      ∀ strict, coerce .epoch { Settings.default with strict := strict } (.plain .date)
        (.int 8589934592001) = .ok (.moment made) := by
  intro exact made
  have counted : ofMilliseconds? 8589934592001 = some made := by decide +kernel
  exact ⟨⟨rfl, rfl, rfl⟩, by decide, fun _ => (coerce_int_date_iff _ _).mpr counted⟩

end TypedRecords.Coercion
