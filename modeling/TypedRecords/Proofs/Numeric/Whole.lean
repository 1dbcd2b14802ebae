import Mathlib.Data.Int.Basic
import TypedRecords.Numeric.Double

/-!
Numbers of double precision without a fraction.
-/

set_option autoImplicit false

namespace TypedRecords.Numeric.Double

def signed (negative : Bool) (n : Nat) : Int :=
  if negative then -(n : Int) else n

/-- The number `± mantissa · 2 ^ exponent` is an integer.  Of the two powers one is a one, so that
nothing is divided. -/
inductive IsWhole : Double → Int → Prop
  | finite {negative : Bool} {mantissa : Nat} {exponent n : Int} :
      n * Nat.pow 2 (-exponent).toNat = signed negative (mantissa * Nat.pow 2 exponent.toNat) →
      IsWhole (.finite negative mantissa exponent) n

theorem magnitude_eq (mantissa : Nat) (exponent : Int) :
    magnitude mantissa exponent =
      (mantissa * Nat.pow 2 exponent.toNat, Nat.pow 2 (-exponent).toNat) := by
  unfold magnitude
  split
  · rename_i nonneg
    have none : (-exponent).toNat = 0 := by omega
    rw [none]
  · rename_i negative
    have none : exponent.toNat = 0 := by omega
    rw [none]
    exact congrArg (·, _) (Nat.mul_one mantissa).symm

private theorem signed_quotient_iff (negative : Bool) (num : Nat) {den : Nat} (n : Int)
    (positive : 0 < den) :
    num % den = 0 ∧ signed negative (num / den) = n ↔ n * den = signed negative num := by
  have scaled (q : Nat) : signed negative q * den = signed negative (q * den) := by
    cases negative with
    | false => simp [signed]
    | true => simp only [signed, ↓reduceIte, Int.natCast_mul, Int.neg_mul]
  constructor
  · rintro ⟨exact, rfl⟩
    rw [scaled, Nat.div_mul_cancel (Nat.dvd_of_mod_eq_zero exact)]
  · intro product
    have divides : (den : Int) ∣ signed negative num := ⟨n, by rw [← product, Int.mul_comm]⟩
    have exact : den ∣ num := by
      cases negative <;> simpa [signed, Int.natCast_dvd_natCast] using divides
    refine ⟨Nat.mod_eq_zero_of_dvd exact, ?_⟩
    have nonzero : (den : Int) ≠ 0 := by omega
    refine Int.eq_of_mul_eq_mul_right nonzero ?_
    rw [scaled, Nat.div_mul_cancel exact, product]

theorem integer?_eq_some_iff {x : Double} {n : Int} : x.integer? = some n ↔ x.IsWhole n := by
  cases x with
  | nan => exact ⟨fun found => (by cases found), fun whole => (by cases whole)⟩
  | infinite negative => exact ⟨fun found => (by cases found), fun whole => (by cases whole)⟩
  | finite negative mantissa exponent =>
    have positive : 0 < Nat.pow 2 (-exponent).toNat := Nat.pow_pos (by decide)
    have quotient :=
      signed_quotient_iff negative (mantissa * Nat.pow 2 exponent.toNat) n positive
    simp only [integer?, truncate?, magnitude_eq]
    constructor
    · intro found
      split at found
      · rename_i exact
        exact .finite (quotient.mp ⟨exact, Option.some.inj found⟩)
      · cases found
    · rintro ⟨product⟩
      obtain ⟨exact, same⟩ := quotient.mpr product
      rw [if_pos exact, ← same]
      rfl

end TypedRecords.Numeric.Double
