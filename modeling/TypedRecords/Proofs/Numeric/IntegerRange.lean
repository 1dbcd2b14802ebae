import TypedRecords.Proofs.Numeric.Nearest

/-!
Which integers, and which quotients of integers, a number of double precision comes near to.  The
greatest finite number is `2 ^ 1024 - 2 ^ 971`; what lies half a unit or more above it is out of
range.
-/

set_option autoImplicit false

namespace TypedRecords.Numeric

private theorem roundHalfEven_eq_top_iff {num den half top : Nat} (halves : den = 2 * half)
    (positive : 0 < half) (even : top % 2 = 0) (below : num < top * den) :
    roundHalfEven num den = top ↔ top * den ≤ num + half := by
  have denPositive : 0 < den := by omega
  have unit : (0 : ℚ) < den := by exact_mod_cast denPositive
  have less : (num / den : ℚ) < top := by
    rw [div_lt_iff₀ unit]
    exact_mod_cast below
  have scaled : (den : ℚ) * (1 / 2) = half := by
    rw [halves]
    push_cast
    ring
  rw [roundHalfEven_eq_iff_of_even num denPositive even, abs_of_pos (sub_pos.mpr less),
    sub_le_iff_le_add', ← mul_le_mul_iff_of_pos_left unit, mul_add, scaled,
    mul_div_cancel₀ _ unit.ne', mul_comm (den : ℚ)]
  exact_mod_cast Iff.rfl

namespace Double

private theorem inUnits_of_nonneg (num den : Nat) {exponent : Int} (nonneg : 0 ≤ exponent) :
    inUnits num den exponent = (num, den * Nat.pow 2 exponent.toNat) :=
  if_pos nonneg

/-- The exponent of a quotient is at least a natural number when the quotient has 53 binary digits
or more in units of that power. -/
theorem le_exponentOf_iff {num den : Nat} (numPositive : num ≠ 0) (denPositive : den ≠ 0)
    (power : Nat) :
    (power : Int) ≤ exponentOf num den ↔ Nat.pow 2 (52 + power) * den ≤ num := by
  obtain ⟨-, below, digits⟩ := exponentOf_bounds numPositive denPositive
  have unit : (0 : ℚ) < den := by exact_mod_cast Nat.pos_of_ne_zero denPositive
  have quotient : Nat.pow 2 (52 + power) * den ≤ num ↔
      2 ^ 52 * (2 : ℚ) ^ (power : Int) ≤ num / den := by
    rw [le_div_iff₀ unit, zpow_natCast, ← pow_add]
    exact_mod_cast Iff.rfl
  rw [quotient]
  constructor
  · intro reached
    have digits := digits.resolve_left (by unfold leastExponent; omega)
    exact (mul_le_mul_of_nonneg_left (zpow_le_zpow_right₀ one_le_two reached)
      (by positivity)).trans digits
  · intro long
    by_contra short
    exact absurd (long.trans_lt below) (not_lt.mpr (units_le_of_lt (by omega)))

private theorem ofRatio_finite?_iff_rounding {negative : Bool} {num den : Nat}
    (positive : num ≠ 0) :
    (ofRatio negative num den).finite? = none ↔
      greatestExponent < exponentOf num den ∨
        greatestExponent = exponentOf num den ∧
          roundHalfEven (inUnits num den (exponentOf num den)).1
            (inUnits num den (exponentOf num den)).2 = Nat.pow 2 53 := by
  unfold ofRatio
  rw [if_neg positive]
  dsimp only
  generalize exponentOf num den = exponent
  generalize roundHalfEven _ _ = rounded
  by_cases full : rounded = Nat.pow 2 53
  · simp only [full, if_true]
    split <;> simp [finite?] <;> omega
  · simp only [full, if_false]
    split <;> simp [finite?] <;> omega

theorem ofRatio_finite?_eq_none_iff {negative : Bool} {num den : Nat} (numPositive : num ≠ 0)
    (denPositive : den ≠ 0) :
    (ofRatio negative num den).finite? = none ↔
      Nat.pow 2 1024 * den ≤ num + Nat.pow 2 970 * den := by
  have beyond := le_exponentOf_iff numPositive denPositive 972
  have within := le_exponentOf_iff numPositive denPositive 971
  have halfPositive : 0 < Nat.pow 2 970 := by decide +kernel
  have unit : Nat.pow 2 971 = 2 * Nat.pow 2 970 := by decide +kernel
  have whole : Nat.pow 2 1024 = Nat.pow 2 53 * Nat.pow 2 971 := by decide +kernel
  have room : Nat.pow 2 1023 + Nat.pow 2 970 < Nat.pow 2 1024 := by decide +kernel
  have even : Nat.pow 2 53 % 2 = 0 := by decide
  have units := inUnits_of_nonneg num den (by decide : (0 : Int) ≤ 971)
  have denLeast : 0 < den := Nat.pos_of_ne_zero denPositive
  rw [ofRatio_finite?_iff_rounding numPositive, greatestExponent]
  simp only [Nat.reduceAdd] at beyond within
  simp only [Int.reduceToNat] at units
  generalize Nat.pow 2 1024 = high at *
  generalize Nat.pow 2 1023 = low at *
  generalize Nat.pow 2 971 = step at *
  generalize Nat.pow 2 970 = half at *
  generalize Nat.pow 2 53 = top at *
  rcases Int.lt_trichotomy (exponentOf num den) 971 with below | exact | above
  · have scaled := Nat.mul_lt_mul_of_pos_right room denLeast
    rw [Nat.add_mul] at scaled
    exact iff_of_false (by omega) (by omega)
  · have halves : den * step = 2 * (half * den) := by
      rw [unit, Nat.mul_comm, Nat.mul_assoc]
    have scaled : top * (den * step) = high * den := by
      rw [whole, Nat.mul_comm den, Nat.mul_assoc]
    have below : num < top * (den * step) := by
      rw [scaled]
      omega
    have rounding := roundHalfEven_eq_top_iff halves (Nat.mul_pos halfPositive denLeast) even below
    rw [scaled] at rounding
    rw [exact, units]
    simpa using rounding
  · exact iff_of_true (Or.inl above) (Nat.le_add_right_of_le (beyond.mp above))

/-- The integers whose quotient by a positive one no number of double precision comes near to. -/
theorem ofIntRatio?_eq_none_iff (n : Int) {den : Nat} (positive : den ≠ 0) :
    ofIntRatio? n den = none ↔ Nat.pow 2 1024 * den ≤ n.natAbs + Nat.pow 2 970 * den := by
  unfold ofIntRatio?
  by_cases zero : n.natAbs = 0
  · have finite : (ofRatio (decide (n < 0)) n.natAbs den).finite? ≠ none := by
      simp [zero, ofRatio, Double.zero, finite?]
    have less : Nat.pow 2 970 < Nat.pow 2 1024 := by decide +kernel
    have scaled := Nat.mul_lt_mul_of_pos_right less (Nat.pos_of_ne_zero positive)
    refine iff_of_false finite ?_
    omega
  · exact ofRatio_finite?_eq_none_iff zero positive

theorem ofInt?_eq_none_iff (n : Int) :
    ofInt? n = none ↔ Nat.pow 2 1024 ≤ n.natAbs + Nat.pow 2 970 := by
  have range := ofIntRatio?_eq_none_iff n Nat.one_ne_zero
  generalize Nat.pow 2 1024 = high at *
  generalize Nat.pow 2 970 = half at *
  simpa [ofInt?] using range

end Double

end TypedRecords.Numeric
