import TypedRecords.Text.Digit

/-!
The ten digits of the basic character set: each is a decimal digit, and natural numbers are written
in them.
-/

set_option autoImplicit false

namespace TypedRecords.Text

theorem digitValue?_of_isDigit {c : Char} (digit : c.isDigit = true) :
    digitValue? c = some (c.toNat - '0'.toNat) := by
  have bounds : 48 ≤ c.toNat ∧ c.toNat ≤ 57 := by
    simpa [Char.isDigit, UInt32.le_iff_toNat_le] using digit
  have small : (c.toNat - 48) % 10 = c.toNat - 48 := Nat.mod_eq_of_lt (by omega)
  have first : ¬ c.toNat < 48 := Nat.not_lt.mpr bounds.1
  simp [digitValue?, decimalRanges, digitIn, first, bounds.2, small]

theorem isDecimalDigit_of_digitsValue?_go {cs : List Char} {value n : Nat}
    (read : digitsValue?.go value cs = some n) : ∀ c ∈ cs, isDecimalDigit c = true := by
  induction cs generalizing value with
  | nil => simp
  | cons c rest ih =>
    obtain ⟨d, digit, later⟩ := Option.bind_eq_some_iff.mp read
    exact List.forall_mem_cons.mpr ⟨by simp [isDecimalDigit, digit], ih later⟩

section Repr

variable (n : Nat)

theorem toList_repr_ne_nil : (Nat.repr n).toList ≠ [] := by
  rw [Nat.toList_repr]
  exact Nat.toDigits_ne_nil

theorem isDigit_of_mem_repr : ∀ c ∈ (Nat.repr n).toList, c.isDigit = true := by
  intro c member
  rw [Nat.toList_repr] at member
  exact Nat.isDigit_of_mem_toDigits (by decide) (by decide) member

end Repr

end TypedRecords.Text
