import TypedRecords.Numeric.Limit
import TypedRecords.Numeric.WholeNumber
import TypedRecords.Proofs.Numeric.NumberText
import TypedRecords.Proofs.Text.Runs

/-!
The written form of an integer stands for the integer, unless it has more digits than are converted.
-/

set_option autoImplicit false

namespace TypedRecords.Numeric.WholeNumber

open TypedRecords.Numeric.LeadingNumber (isSign natural splitSign splitSign_append)
open TypedRecords.Numeric.Numeral (Sign isChar_of_mem not_isBlank_of_isChar)
open TypedRecords.Text (Leaves digitValue?_of_isDigit isDigit_of_mem_repr isSpacing stripWhere
  stripWhere_of_forall toList_repr_ne_nil)

def plainValue (c : Char) : Nat :=
  c.toNat - '0'.toNat

section Digits

variable {cs : List Char} (plain : ∀ c ∈ cs, c.isDigit = true)

include plain

private theorem groupedDigits?_true : groupedDigits? true cs = some (cs.map plainValue) := by
  induction cs with
  | nil => rfl
  | cons c rest ih =>
    obtain ⟨digit, others⟩ := List.forall_mem_cons.mp plain
    have named : c ≠ '_' := by
      rintro rfl
      cases digit
    rw [groupedDigits?, if_neg named, digitValue?_of_isDigit digit, Option.bind_some, ih others]
    rfl

private theorem groupedDigits?_of_isDigit (nonempty : cs ≠ []) :
    groupedDigits? false cs = some (cs.map plainValue) := by
  obtain ⟨c, rest, rfl⟩ := List.exists_cons_of_ne_nil nonempty
  have named : c ≠ '_' := by
    rintro rfl
    cases plain '_' List.mem_cons_self
  rw [← groupedDigits?_true plain, groupedDigits?, groupedDigits?, if_neg named, if_neg named]

private theorem leaves_isSign : Leaves isSign cs := by
  rintro c rest rfl
  have digit := plain c List.mem_cons_self
  refine Bool.eq_false_iff.mpr fun sign => ?_
  rcases Bool.or_eq_true_iff.mp sign with mark | mark
  · rw [eq_of_beq mark] at digit
    cases digit
  · rw [eq_of_beq mark] at digit
    cases digit

end Digits

private theorem natural_repr (n : Nat) : natural ((Nat.repr n).toList.map plainValue) = n := by
  have folded : natural ((Nat.repr n).toList.map plainValue) =
      Nat.ofDigitChars 10 (Nat.repr n).toList 0 := List.foldl_map
  rw [folded, Nat.toList_repr, Nat.ofDigitChars_ten_toDigits]

private theorem length_repr_le {n limit : Nat} (positive : 0 < limit)
    (short : ¬ Nat.pow 10 limit ≤ n) :
    ((Nat.repr n).toList.map plainValue).length ≤ limit := by
  rw [List.length_map, String.length_toList]
  exact (Nat.length_repr_le_iff positive).mpr (Nat.not_le.mp short)

private theorem integerText_sign (n : Int) :
    ∃ sign, Sign (decide (n < 0)) sign ∧
      (Value.integerText n).toList = sign ++ (Nat.repr n.natAbs).toList := by
  rw [Value.integerText, String.toList_append]
  by_cases negative : n < 0
  · rw [if_pos negative, decide_eq_true negative]
    exact ⟨['-'], .minus, rfl⟩
  · rw [if_neg negative, decide_eq_false negative]
    exact ⟨[], .absent, rfl⟩

private theorem signed_natAbs (n : Int) :
    (if decide (n < 0) = true then -(n.natAbs : Int) else (n.natAbs : Int)) = n := by
  simp only [decide_eq_true_eq]
  split <;> omega

theorem integer?_integerText {n : Int} (short : isTooLong n = false) :
    integer? (Value.integerText n) = some n := by
  obtain ⟨sign, signed, chars⟩ := integerText_sign n
  have digits := isDigit_of_mem_repr n.natAbs
  have kept : stripWhere isSpacing (Value.integerText n).toList =
      sign ++ (Nat.repr n.natAbs).toList := by
    rw [← chars]
    refine stripWhere_of_forall fun c member => ?_
    obtain ⟨x, writes⟩ := exists_numeral_integerText n
    rw [isSpacing, not_isBlank_of_isChar (isChar_of_mem writes c member), Bool.false_and]
  have fits : ¬ digitLimit < ((Nat.repr n.natAbs).toList.map plainValue).length :=
    Nat.not_lt.mpr (length_repr_le (by decide) (of_decide_eq_false short))
  unfold integer?
  rw [kept, splitSign_append signed (leaves_isSign digits)]
  dsimp only
  rw [groupedDigits?_of_isDigit digits (toList_repr_ne_nil _), Option.bind_some, if_neg fits,
    natural_repr]
  rw [signed_natAbs]

end TypedRecords.Numeric.WholeNumber
