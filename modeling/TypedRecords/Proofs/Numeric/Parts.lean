import Mathlib.Algebra.Order.Floor.Semifield
import TypedRecords.Proofs.Numeric.IntegerRange

/-!
The parts of a number of double precision, in exact arithmetic.  The whole part and the fraction are
not rounded; a product is rounded once, and so is the nearest integer.
-/

set_option autoImplicit false

namespace TypedRecords.Numeric

/-- A natural number that a value is rounded to: at most a half away, and an even one whenever one
is that near. -/
structure RoundsTo (v : ℚ) (n : Nat) : Prop where
  near : |(n : ℚ) - v| ≤ 1 / 2
  even : ∀ m : Nat, m % 2 = 0 → |(m : ℚ) - v| ≤ 1 / 2 → n = m

theorem RoundsTo.eq_iff {v : ℚ} {n m : Nat} (rounds : RoundsTo v n) (even : m % 2 = 0) :
    n = m ↔ |(m : ℚ) - v| ≤ 1 / 2 := by
  refine ⟨?_, rounds.even m even⟩
  rintro rfl
  exact rounds.near

namespace Double

theorem exists_ofRatio (negative : Bool) (num : Nat) {den : Nat} (denPositive : den ≠ 0)
    (below : (num / den : ℚ) < 2 ^ 64) :
    ∃ mantissa exponent, ofRatio negative num den = .finite negative mantissa exponent ∧
      IsNearest (size mantissa exponent) (num / den) := by
  have finite : (ofRatio negative num den).finite? ≠ none := by
    by_cases zero : num = 0
    · rw [zero, ofRatio, if_pos rfl]
      simp [Double.zero, finite?]
    · rw [Ne, ofRatio_finite?_eq_none_iff zero denPositive, Nat.not_le]
      rw [div_lt_iff₀ (by exact_mod_cast Nat.pos_of_ne_zero denPositive)] at below
      have room : Nat.pow 2 64 + Nat.pow 2 970 ≤ Nat.pow 2 1024 := by decide +kernel
      have less : num < Nat.pow 2 64 * den := by exact_mod_cast below
      generalize Nat.pow 2 1024 = high at room ⊢
      generalize Nat.pow 2 970 = half at room ⊢
      have scaled := Nat.mul_le_mul_right den room
      rw [Nat.add_mul] at scaled
      omega
  cases made : ofRatio negative num den with
  | nan => rw [made] at finite; exact absurd rfl finite
  | infinite sign => rw [made] at finite; exact absurd rfl finite
  | finite sign mantissa exponent =>
    obtain ⟨rfl, nearest⟩ := ofRatio_nearest denPositive made
    exact ⟨mantissa, exponent, rfl, nearest⟩

section Operations

variable (negative : Bool) (mantissa : Nat) (exponent : Int)

private theorem floor_size :
    (magnitude mantissa exponent).1 / (magnitude mantissa exponent).2 =
      ⌊size mantissa exponent⌋₊ := by
  rw [size_eq, Nat.floor_div_eq_div]

theorem truncate?_finite :
    (Double.finite negative mantissa exponent).truncate? =
      some (signed negative ⌊size mantissa exponent⌋₊) := by
  rw [← floor_size]
  rfl

theorem round?_finite :
    ∃ n, (Double.finite negative mantissa exponent).round? = some (signed negative n) ∧
      RoundsTo (size mantissa exponent) n := by
  have positive := magnitude_pos mantissa exponent
  refine ⟨roundHalfEven (magnitude mantissa exponent).1 (magnitude mantissa exponent).2, rfl, ?_⟩
  rw [size_eq]
  exact ⟨(roundHalfEven_near _ positive).1,
    fun m even => (roundHalfEven_eq_iff_of_even _ positive even).mpr⟩

theorem fraction_size (n power : Nat) :
    size n (-power) - ⌊size n (-power)⌋₊ = size (n % 2 ^ power) (-power) := by
  have quotient (n : Nat) : size n (-power) = n / (2 ^ power : Nat) := by
    simp [size, div_eq_mul_inv]
  rw [quotient, quotient, Nat.floor_div_eq_div, quotient_split n (Nat.pow_pos (by decide)),
    add_sub_cancel_left]

private theorem isMagnitude_fraction {v : ℚ} (magnitude : IsMagnitude v) :
    IsMagnitude (v - ⌊v⌋₊) := by
  obtain ⟨significand, exponent, small, least, rfl⟩ := magnitude
  rcases Int.le_total 0 exponent with whole | divided
  · obtain ⟨power, rfl⟩ := Int.eq_ofNat_of_zero_le whole
    refine ⟨0, leastExponent, by norm_num, le_refl _, ?_⟩
    have natural : size significand (power : Int) = ((significand * 2 ^ power : Nat) : ℚ) := by
      simp [size]
    rw [natural, Nat.floor_natCast, sub_self]
    simp [size]
  · obtain ⟨power, rfl⟩ : ∃ power : Nat, exponent = -power := ⟨(-exponent).toNat, by omega⟩
    exact ⟨significand % 2 ^ power, -power, (Nat.mod_le _ _).trans_lt small, least,
      fraction_size significand power⟩

theorem fraction_finite (magnitude : IsMagnitude (size mantissa exponent)) :
    ∃ fractionMantissa fractionExponent,
      (Double.finite negative mantissa exponent).fraction =
        .finite negative fractionMantissa fractionExponent ∧
      size fractionMantissa fractionExponent =
        size mantissa exponent - ⌊size mantissa exponent⌋₊ := by
  have positive := magnitude_pos mantissa exponent
  have rest : ((Double.magnitude mantissa exponent).1 % (Double.magnitude mantissa exponent).2 :
        Nat) / ((Double.magnitude mantissa exponent).2 : ℚ) =
      size mantissa exponent - ⌊size mantissa exponent⌋₊ := by
    rw [← floor_size, size_eq, eq_sub_iff_add_eq, add_comm]
    exact (quotient_split _ positive).symm
  obtain ⟨m, e, made, nearest⟩ := exists_ofRatio negative
    ((Double.magnitude mantissa exponent).1 % (Double.magnitude mantissa exponent).2) positive.ne'
    (by
      rw [rest]
      have fractionLess := Nat.lt_floor_add_one (size mantissa exponent)
      linarith)
  rw [rest] at nearest
  exact ⟨m, e, made, nearest.eq_of_isMagnitude (isMagnitude_fraction magnitude)⟩

theorem mulNat_finite (factor : Nat) (below : size mantissa exponent * factor < 2 ^ 64) :
    ∃ productMantissa productExponent,
      (Double.finite negative mantissa exponent).mulNat factor =
        .finite negative productMantissa productExponent ∧
      IsNearest (size productMantissa productExponent) (size mantissa exponent * factor) := by
  have product : (((magnitude mantissa exponent).1 * factor : Nat) : ℚ) /
      (magnitude mantissa exponent).2 = size mantissa exponent * factor := by
    rw [size_eq, Nat.cast_mul, div_mul_eq_mul_div]
  rw [← product] at below ⊢
  exact exists_ofRatio negative _ (magnitude_pos mantissa exponent).ne' below

end Operations

end Double

end TypedRecords.Numeric
