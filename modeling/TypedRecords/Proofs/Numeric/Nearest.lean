import Mathlib.Data.Rat.Floor
import Mathlib.Tactic.Linarith
import Mathlib.Tactic.NormNum
import Mathlib.Tactic.Positivity
import Mathlib.Tactic.Ring
import TypedRecords.Proofs.Numeric.Whole

/-!
Rounding in exact arithmetic.  A quotient of double precision is the nearest of all numbers with a
significand of 53 bits and an exponent that is not too small; so what has that form is not rounded,
the order is kept, and the error is at most half a unit.
-/

set_option autoImplicit false

namespace TypedRecords.Numeric

private theorem one_le_abs_sub {m n : Nat} (distinct : m ≠ n) : 1 ≤ |(m : ℚ) - n| := by
  have nonzero : (m : Int) - n ≠ 0 := by omega
  exact_mod_cast Int.one_le_abs nonzero

section HalfEven

variable (num : Nat) {den : Nat} (positive : 0 < den)

include positive

theorem quotient_split : (num / den : ℚ) = (num / den : Nat) + (num % den : Nat) / (den : ℚ) := by
  have unit : (den : ℚ) ≠ 0 := by exact_mod_cast positive.ne'
  have split : (num : ℚ) = den * (num / den : Nat) + (num % den : Nat) := by
    exact_mod_cast (Nat.div_add_mod num den).symm
  rw [div_eq_iff unit, add_mul, div_mul_cancel₀ _ unit, mul_comm _ (den : ℚ)]
  exact split

private theorem fraction_half :
    ((num % den : Nat) / (den : ℚ) < 1 / 2 ↔ 2 * (num % den) < den) ∧
      (1 / 2 < (num % den : Nat) / (den : ℚ) ↔ den < 2 * (num % den)) := by
  have unit : (0 : ℚ) < den := by exact_mod_cast positive
  rw [div_lt_div_iff₀ unit two_pos, div_lt_div_iff₀ two_pos unit, one_mul,
    mul_comm _ (2 : ℚ)]
  exact ⟨by exact_mod_cast Iff.rfl, by exact_mod_cast Iff.rfl⟩

theorem roundHalfEven_near :
    |(roundHalfEven num den : ℚ) - num / den| ≤ 1 / 2 ∧
      (|(roundHalfEven num den : ℚ) - num / den| = 1 / 2 → roundHalfEven num den % 2 = 0) := by
  obtain ⟨less, more⟩ := fraction_half num positive
  have nonneg : (0 : ℚ) ≤ (num % den : Nat) / (den : ℚ) := by positivity
  have small : (num % den : Nat) / (den : ℚ) < 1 := by
    rw [div_lt_one (by exact_mod_cast positive)]
    exact_mod_cast Nat.mod_lt num positive
  rw [quotient_split num positive]
  unfold roundHalfEven
  dsimp only
  generalize (num % den : Nat) / (den : ℚ) = f at less more nonneg small ⊢
  generalize num / den = q
  have down : |(q : ℚ) - (q + f)| = f := by
    rw [sub_add_cancel_left, abs_neg, abs_of_nonneg nonneg]
  have up : |((q + 1 : Nat) : ℚ) - (q + f)| = 1 - f := by
    rw [Nat.cast_succ, add_sub_add_left_eq_sub, abs_of_pos (sub_pos.mpr small)]
  split_ifs with below above even
  · rw [down]
    exact ⟨(less.mpr below).le, fun tie => absurd tie (less.mpr below).ne⟩
  · have high := more.mpr above
    rw [up]
    exact ⟨by linarith, fun tie => by linarith⟩
  · rw [down]
    exact ⟨not_lt.mp (mt more.mp above), fun _ => even⟩
  · have high := not_lt.mp (mt less.mp below)
    rw [up]
    exact ⟨by linarith, fun _ => by omega⟩

private theorem roundHalfEven_nearest (n : Nat) :
    |(roundHalfEven num den : ℚ) - num / den| ≤ |(n : ℚ) - num / den| := by
  obtain ⟨near, -⟩ := roundHalfEven_near num positive
  by_cases same : roundHalfEven num den = n
  · rw [same]
  · have apart := one_le_abs_sub same
    have triangle := abs_sub_le (roundHalfEven num den : ℚ) (num / den) n
    rw [abs_sub_comm (num / den : ℚ) n] at triangle
    linarith

theorem roundHalfEven_eq_iff_of_even {n : Nat} (even : n % 2 = 0) :
    roundHalfEven num den = n ↔ |(n : ℚ) - num / den| ≤ 1 / 2 := by
  obtain ⟨near, tie⟩ := roundHalfEven_near num positive
  constructor
  · rintro rfl
    exact near
  · intro close
    by_contra distinct
    -- The two numbers are at most one apart, so that both are a half away and both are even.
    have triangle := abs_sub_le (roundHalfEven num den : ℚ) (num / den) n
    rw [abs_sub_comm (num / den : ℚ) n] at triangle
    have apart := one_le_abs_sub distinct
    have bothEven := tie (by linarith)
    have adjacent : |(roundHalfEven num den : Int) - n| ≤ 1 := by
      have atMost : |(roundHalfEven num den : ℚ) - n| ≤ 1 := by linarith
      exact_mod_cast atMost
    rw [abs_le] at adjacent
    omega

end HalfEven

namespace Double

def size (mantissa : Nat) (exponent : Int) : ℚ :=
  mantissa * 2 ^ exponent

private theorem size_add (n power : Nat) (exponent : Int) :
    size n (exponent + power) = size (n * 2 ^ power) exponent := by
  rw [size, size, zpow_add₀ two_ne_zero, zpow_natCast]
  push_cast
  ring

private theorem size_carry (exponent : Int) :
    size (2 ^ 52) (exponent + 1) = size (2 ^ 53) exponent :=
  size_add (2 ^ 52) 1 exponent

theorem size_eq (mantissa : Nat) (exponent : Int) :
    size mantissa exponent =
      (magnitude mantissa exponent).1 / (magnitude mantissa exponent).2 := by
  unfold magnitude size
  split_ifs with nonneg
  · obtain ⟨power, rfl⟩ := Int.eq_ofNat_of_zero_le nonneg
    simp
  · obtain ⟨power, rfl⟩ : ∃ power : Nat, exponent = -power := ⟨(-exponent).toNat, by omega⟩
    simp [div_eq_mul_inv]

theorem magnitude_pos (mantissa : Nat) (exponent : Int) :
    0 < (magnitude mantissa exponent).2 := by
  rw [magnitude_eq]
  exact Nat.pow_pos (by decide)

/-- The values that a significand of 53 bits and an exponent that is not too small make.  The
exponent may be greater than that of a finite number. -/
def IsMagnitude (v : ℚ) : Prop :=
  ∃ (significand : Nat) (exponent : Int), significand < 2 ^ 53 ∧ leastExponent ≤ exponent ∧
    v = size significand exponent

theorem IsMagnitude.nonneg {v : ℚ} (magnitude : IsMagnitude v) : 0 ≤ v := by
  obtain ⟨significand, exponent, -, -, rfl⟩ := magnitude
  exact mul_nonneg (Nat.cast_nonneg _) (zpow_pos two_pos exponent).le

theorem units_le_of_lt {lower exponent : Int} (less : lower < exponent) :
    2 ^ 53 * (2 : ℚ) ^ lower ≤ 2 ^ 52 * 2 ^ exponent := by
  calc 2 ^ 53 * (2 : ℚ) ^ lower
      = 2 ^ 52 * 2 ^ (lower + 1) := by
        rw [zpow_add_one₀ two_ne_zero]
        ring
    _ ≤ 2 ^ 52 * 2 ^ exponent :=
        mul_le_mul_of_nonneg_left (zpow_le_zpow_right₀ one_le_two (by omega)) (by positivity)

theorem IsMagnitude.exists_units {v : ℚ} (magnitude : IsMagnitude v) {exponent : Int}
    (large : 2 ^ 52 * 2 ^ exponent ≤ v) : ∃ n : Nat, v = size n exponent := by
  obtain ⟨significand, own, small, -, rfl⟩ := magnitude
  have coarse : exponent ≤ own := by
    by_contra fine
    have below : size significand own < 2 ^ 53 * 2 ^ own :=
      mul_lt_mul_of_pos_right (by exact_mod_cast small) (zpow_pos two_pos own)
    exact absurd large (not_le.mpr (below.trans_le (units_le_of_lt (by omega))))
  obtain ⟨power, rfl⟩ := Int.le.dest coarse
  exact ⟨significand * 2 ^ power, size_add significand power exponent⟩

structure IsNearest (v q : ℚ) : Prop where
  isMagnitude : IsMagnitude v
  le_of_isMagnitude : ∀ w, IsMagnitude w → |v - q| ≤ |w - q|

private theorem isMagnitude_of_le {significand : Nat} {exponent : Int} (most : significand ≤ 2 ^ 53)
    (least : leastExponent ≤ exponent) : IsMagnitude (size significand exponent) := by
  rcases Nat.lt_or_eq_of_le most with less | rfl
  · exact ⟨significand, exponent, less, least, rfl⟩
  · exact ⟨2 ^ 52, exponent + 1, by norm_num, by omega, (size_carry exponent).symm⟩

section Units

variable (num : Nat) {den : Nat} (exponent : Int)

private theorem inUnits_pos (denPositive : den ≠ 0) : 0 < (inUnits num den exponent).2 := by
  unfold inUnits
  split_ifs
  · exact Nat.mul_pos (Nat.pos_of_ne_zero denPositive) (Nat.pow_pos (by decide))
  · exact Nat.pos_of_ne_zero denPositive

private theorem inUnits_quotient :
    ((inUnits num den exponent).1 / (inUnits num den exponent).2 : ℚ) =
      num / den / 2 ^ exponent := by
  unfold inUnits
  split_ifs with nonneg
  · obtain ⟨power, rfl⟩ := Int.eq_ofNat_of_zero_le nonneg
    simp [div_div]
  · obtain ⟨power, rfl⟩ : ∃ power : Nat, exponent = -power := ⟨(-exponent).toNat, by omega⟩
    simp [div_eq_mul_inv, mul_right_comm]

end Units

section Exponent

variable {num den : Nat} (numPositive : num ≠ 0) (denPositive : den ≠ 0)

include numPositive denPositive

private theorem guess_bounds :
    (2 : ℚ) ^ ((num.log2 : Int) - den.log2 - 1) < num / den ∧
      (num / den : ℚ) < 2 ^ ((num.log2 : Int) - den.log2 + 1) := by
  have unit : (0 : ℚ) < den := by exact_mod_cast Nat.pos_of_ne_zero denPositive
  have bounds {n : Nat} (positive : n ≠ 0) :
      (2 : ℚ) ^ (n.log2 : Int) ≤ n ∧ (n : ℚ) < 2 ^ ((n.log2 : Int) + 1) := by
    constructor
    · exact_mod_cast (Nat.le_log2 positive).mp (Nat.le_refl _)
    · exact_mod_cast (Nat.log2_lt positive).mp (Nat.lt_succ_self _)
  obtain ⟨numLeast, numMost⟩ := bounds numPositive
  obtain ⟨denLeast, denMost⟩ := bounds denPositive
  have power (n : Int) : (0 : ℚ) < 2 ^ n := zpow_pos two_pos n
  constructor
  · rw [lt_div_iff₀ unit]
    calc (2 : ℚ) ^ ((num.log2 : Int) - den.log2 - 1) * den
        < 2 ^ ((num.log2 : Int) - den.log2 - 1) * 2 ^ ((den.log2 : Int) + 1) :=
          mul_lt_mul_of_pos_left denMost (power _)
      _ = 2 ^ (num.log2 : Int) := by
          rw [← zpow_add₀ two_ne_zero]
          congr 1
          omega
      _ ≤ num := numLeast
  · rw [div_lt_iff₀ unit]
    calc (num : ℚ)
        < 2 ^ ((num.log2 : Int) + 1) := numMost
      _ = 2 ^ ((num.log2 : Int) - den.log2 + 1) * 2 ^ (den.log2 : Int) := by
          rw [← zpow_add₀ two_ne_zero]
          congr 1
          omega
      _ ≤ 2 ^ ((num.log2 : Int) - den.log2 + 1) * den :=
          mul_le_mul_of_nonneg_left denLeast (power _).le

/-- In units of its exponent a quotient has at most 53 binary digits, and no fewer unless the
exponent is the least. -/
theorem exponentOf_bounds :
    leastExponent ≤ exponentOf num den ∧
      (num / den : ℚ) < 2 ^ 53 * 2 ^ exponentOf num den ∧
      (exponentOf num den = leastExponent ∨
        2 ^ 52 * (2 : ℚ) ^ exponentOf num den ≤ num / den) := by
  obtain ⟨low, high⟩ := guess_bounds numPositive denPositive
  have join (count : Nat) (n : Int) : (2 : ℚ) ^ count * 2 ^ n = 2 ^ (count + n) := by
    rw [zpow_add₀ two_ne_zero, zpow_natCast]
  simp only [join]
  unfold exponentOf
  dsimp only
  generalize guessed : (num.log2 : Int) - den.log2 - 52 = guess
  have unit := inUnits_pos num guess denPositive
  have quotient := @inUnits_quotient num den guess
  have short : (inUnits num den guess).1 < Nat.pow 2 52 * (inUnits num den guess).2 ↔
      (num / den : ℚ) < 2 ^ ((52 : Nat) + guess) := by
    rw [← join, ← div_lt_iff₀ (zpow_pos two_pos guess), ← quotient,
      div_lt_iff₀ (by exact_mod_cast unit)]
    norm_cast
  generalize raised :
    (if (inUnits num den guess).1 < Nat.pow 2 52 * (inUnits num den guess).2 then guess - 1
      else guess) = raw
  have bounds : (2 : ℚ) ^ ((52 : Nat) + raw) ≤ num / den ∧
      (num / den : ℚ) < 2 ^ ((53 : Nat) + raw) := by
    split_ifs at raised with fewer
    · have lower : ((52 : Nat) : Int) + raw = (num.log2 : Int) - den.log2 - 1 := by omega
      have upper : ((53 : Nat) : Int) + raw = (52 : Nat) + guess := by omega
      rw [lower, upper]
      exact ⟨low.le, short.mp fewer⟩
    · have lower : ((52 : Nat) : Int) + raw = (52 : Nat) + guess := by omega
      have upper : ((53 : Nat) : Int) + raw = (num.log2 : Int) - den.log2 + 1 := by omega
      rw [lower, upper]
      exact ⟨not_lt.mp (mt short.mpr fewer), high⟩
  rcases le_total leastExponent raw with above | below
  · rw [max_eq_right above]
    exact ⟨above, bounds.2, Or.inr bounds.1⟩
  · rw [max_eq_left below]
    refine ⟨le_refl _, bounds.2.trans_le ?_, Or.inl rfl⟩
    exact zpow_le_zpow_right₀ one_le_two (by omega)

end Exponent

section Nearest

private theorem scaled_nearest (num : Nat) {den : Nat} (denPositive : den ≠ 0) (exponent : Int)
    (n : Nat) :
    |size (roundHalfEven (inUnits num den exponent).1 (inUnits num den exponent).2) exponent -
        num / den| ≤ |size n exponent - num / den| := by
  have unit : (0 : ℚ) < 2 ^ exponent := zpow_pos two_pos exponent
  have scaled (m : Nat) : |size m exponent - num / den| =
      |(m : ℚ) - (inUnits num den exponent).1 / (inUnits num den exponent).2| * 2 ^ exponent := by
    rw [inUnits_quotient, ← abs_of_pos unit, ← abs_mul, abs_of_pos unit, sub_mul,
      div_mul_cancel₀ _ unit.ne', size]
  rw [scaled, scaled]
  exact mul_le_mul_of_nonneg_right
    (roundHalfEven_nearest _ (inUnits_pos num exponent denPositive) n) unit.le

private theorem size_le_of_lt {significand : Nat} {lower exponent : Int}
    (small : significand < 2 ^ 53)
    (less : lower < exponent) : size significand lower ≤ size (2 ^ 52) exponent := by
  calc size significand lower
      ≤ 2 ^ 53 * (2 : ℚ) ^ lower :=
        mul_le_mul_of_nonneg_right (by exact_mod_cast small.le) (zpow_pos two_pos lower).le
    _ ≤ 2 ^ 52 * (2 : ℚ) ^ exponent := units_le_of_lt less
    _ = size (2 ^ 52) exponent := by
        unfold size
        norm_cast

/-- The significand that is rounded at the exponent of a quotient. -/
def roundedAt (num den : Nat) : Nat :=
  roundHalfEven (inUnits num den (exponentOf num den)).1 (inUnits num den (exponentOf num den)).2

private theorem roundedAt_nearest {num den : Nat} (numPositive : num ≠ 0) (denPositive : den ≠ 0) :
    IsNearest (size (roundedAt num den) (exponentOf num den)) (num / den) := by
  obtain ⟨least, below, digits⟩ := exponentOf_bounds numPositive denPositive
  have multiple := scaled_nearest num denPositive (exponentOf num den)
  change ∀ n, |size (roundedAt num den) _ - _| ≤ _ at multiple
  constructor
  · refine isMagnitude_of_le ?_ least
    have near := (roundHalfEven_near (inUnits num den (exponentOf num den)).1
      (inUnits_pos num (exponentOf num den) denPositive)).1
    rw [inUnits_quotient, abs_le] at near
    rw [← div_lt_iff₀ (zpow_pos two_pos _)] at below
    have most : (roundedAt num den : ℚ) < 2 ^ 53 + 1 := by
      unfold roundedAt
      linarith
    exact Nat.lt_succ_iff.mp (by exact_mod_cast most)
  · rintro w ⟨significand, exponent, small, leastToo, rfl⟩
    -- What has no smaller unit is a multiple of the unit; the rest is below all 53-bit multiples.
    rcases le_or_gt (exponentOf num den) exponent with coarse | fine
    · obtain ⟨power, rfl⟩ := Int.le.dest coarse
      rw [size_add]
      exact multiple _
    · have digits := digits.resolve_left (by omega)
      have order := size_le_of_lt small fine
      have top : size (2 ^ 52) (exponentOf num den) ≤ num / den := by
        unfold size
        exact_mod_cast digits
      calc |size (roundedAt num den) (exponentOf num den) - num / den|
          ≤ |size (2 ^ 52) (exponentOf num den) - num / den| := multiple _
        _ = num / den - size (2 ^ 52) (exponentOf num den) := by
            rw [abs_of_nonpos (sub_nonpos.mpr top), neg_sub]
        _ ≤ num / den - size significand exponent := sub_le_sub_left order _
        _ ≤ |size significand exponent - num / den| := by
            rw [abs_sub_comm]
            exact le_abs_self _

theorem ofRatio_nearest {negative sign : Bool} {num den mantissa : Nat} {exponent : Int}
    (denPositive : den ≠ 0) (rounded : ofRatio negative num den = .finite sign mantissa exponent) :
    sign = negative ∧ IsNearest (size mantissa exponent) (num / den) := by
  unfold ofRatio at rounded
  split at rounded
  · rename_i zero
    obtain ⟨rfl, rfl, rfl⟩ := Double.finite.inj rounded
    refine ⟨rfl, ⟨⟨0, _, by decide, le_refl _, rfl⟩, fun w _ => ?_⟩⟩
    simp [size, zero]
  · rename_i numPositive
    have nearest := roundedAt_nearest numPositive denPositive
    unfold roundedAt at nearest
    dsimp only at rounded
    generalize exponentOf num den = e at nearest rounded
    generalize roundHalfEven (inUnits num den e).1 (inUnits num den e).2 = digits
      at nearest rounded
    split_ifs at rounded with carried
    all_goals obtain ⟨rfl, rfl, rfl⟩ := Double.finite.inj rounded
    · have same : size (Nat.pow 2 52) (e + 1) = size (Nat.pow 2 53) e := size_carry e
      rw [same, ← carried]
      exact ⟨rfl, nearest⟩
    · exact ⟨rfl, nearest⟩

namespace IsNearest

variable {v w q : ℚ} (nearest : IsNearest v q)

include nearest

theorem eq_of_isMagnitude (exact : IsMagnitude q) : v = q := by
  have zero := nearest.le_of_isMagnitude q exact
  rw [sub_self, abs_zero, abs_nonpos_iff, sub_eq_zero] at zero
  exact zero

theorem le_of_le (magnitude : IsMagnitude w) (le : w ≤ q) : w ≤ v := by
  have near := nearest.le_of_isMagnitude w magnitude
  rw [abs_of_nonpos (sub_nonpos.mpr le), abs_le] at near
  linarith

theorem ge_of_ge (magnitude : IsMagnitude w) (ge : q ≤ w) : v ≤ w := by
  have near := nearest.le_of_isMagnitude w magnitude
  rw [abs_of_nonneg (sub_nonneg.mpr ge), abs_le] at near
  linarith

theorem error (exponent : Int) (least : leastExponent ≤ exponent) (nonneg : 0 ≤ q)
    (most : q ≤ 2 ^ 53 * 2 ^ exponent) : |v - q| ≤ 2 ^ exponent / 2 := by
  have unit : (0 : ℚ) < 2 ^ exponent := zpow_pos two_pos exponent
  rw [← div_le_iff₀ unit] at most
  have floor := Nat.floor_le (by positivity : 0 ≤ q / 2 ^ exponent + 1 / 2)
  have next := Nat.lt_floor_add_one (q / 2 ^ exponent + 1 / 2)
  generalize ⌊q / 2 ^ exponent + 1 / 2⌋₊ = n at floor next
  have few : n ≤ 2 ^ 53 := by
    have less : (n : ℚ) < 2 ^ 53 + 1 := by linarith
    exact Nat.lt_succ_iff.mp (by exact_mod_cast less)
  calc |v - q| ≤ |size n exponent - q| :=
        nearest.le_of_isMagnitude _ (isMagnitude_of_le few least)
    _ = |(n : ℚ) - q / 2 ^ exponent| * 2 ^ exponent := by
        rw [← abs_of_pos unit, ← abs_mul, abs_of_pos unit, sub_mul, div_mul_cancel₀ _ unit.ne',
          size]
    _ ≤ 1 / 2 * 2 ^ exponent :=
        mul_le_mul_of_nonneg_right (abs_le.mpr ⟨by linarith, by linarith⟩) unit.le
    _ = 2 ^ exponent / 2 := by ring

theorem within (m units : Nat) (exponent : Int) (few : m + units ≤ 2 ^ 53)
    (least : leastExponent ≤ exponent) (nonneg : 0 ≤ q)
    (close : |q - size m exponent| ≤ size units exponent) :
    |v - size m exponent| ≤ size units exponent := by
  have unit : (0 : ℚ) < 2 ^ exponent := zpow_pos two_pos exponent
  obtain ⟨low, high⟩ := abs_le.mp close
  have upper : v ≤ size (m + units) exponent := by
    refine nearest.ge_of_ge (isMagnitude_of_le few least) ?_
    simp only [size, Nat.cast_add, add_mul] at high ⊢
    linarith
  have lower : size m exponent - size units exponent ≤ v := by
    rcases Nat.le_total units m with fewer | more
    · refine le_trans (le_of_eq ?_) (nearest.le_of_le (w := size (m - units) exponent)
        (isMagnitude_of_le (by omega) least) ?_)
      · simp only [size, Nat.cast_sub fewer, sub_mul]
      · simp only [size, Nat.cast_sub fewer, sub_mul] at low ⊢
        linarith
    · have zero : IsMagnitude 0 := ⟨0, exponent, by norm_num, least, by simp [size]⟩
      have order : size m exponent ≤ size units exponent :=
        mul_le_mul_of_nonneg_right (by exact_mod_cast more) unit.le
      exact (sub_nonpos.mpr order).trans (nearest.le_of_le zero nonneg)
  rw [abs_le]
  simp only [size, Nat.cast_add, add_mul] at upper lower ⊢
  exact ⟨by linarith, by linarith⟩

end IsNearest

end Nearest

end Double

end TypedRecords.Numeric
