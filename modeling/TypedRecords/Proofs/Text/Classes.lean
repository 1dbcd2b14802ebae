import TypedRecords.Text.Alphabetic
import TypedRecords.Text.Blank
import TypedRecords.Text.Digit

/-!
Classes of characters that have nothing in common: white space separates names and numbers and is no
part of them, and decimal digits are no letters.
-/

set_option autoImplicit false

namespace TypedRecords.Text

/-- Whether no range overlaps one of the others; both are gone through side by side, and `fuel`
bounds their number. -/
def areDisjoint : Nat → List (Nat × Nat) → List (Nat × Nat) → Bool
  | 0, _, _ => false
  | _ + 1, [], _ => true
  | _ + 1, _, [] => true
  | fuel + 1, (first, last) :: rest, (start, stop) :: others =>
    if last < start then areDisjoint fuel rest ((start, stop) :: others)
    else if stop < first then areDisjoint fuel ((first, last) :: rest) others
    else false

/-- What lies in one of the ranges does not lie in one of the others.  The range that ends first is
left behind, since a code point in the other list is beyond it. -/
theorem not_inRanges_of_disjoint {fuel code : Nat} {ranges others : List (Nat × Nat)}
    (disjoint : areDisjoint fuel ranges others = true) (within : inRanges code ranges = true) :
    inRanges code others = false := by
  fun_induction areDisjoint fuel ranges others with
  | case1 => cases disjoint
  | case2 => cases within
  | case3 => rfl
  | case4 fuel first last rest start stop others before ih =>
    by_cases inside : code ≤ last
    · simp [inRanges, show code < start by omega]
    · refine ih disjoint ?_
      unfold inRanges at within
      split at within
      · cases within
      · simpa [inside] using within
  | case5 fuel first last rest start stop others before behind ih =>
    have beyond : stop < code := by
      unfold inRanges at within
      split at within
      · cases within
      · omega
    unfold inRanges
    split
    · rfl
    · rw [if_neg (Nat.not_le.mpr beyond)]
      exact ih disjoint within
  | case6 => cases disjoint

private theorem isSome_digitIn (code : Nat) (ranges : List (Nat × Nat)) :
    (digitIn code ranges).isSome = inRanges code ranges := by
  induction ranges with
  | nil => rfl
  | cons range rest ih =>
    unfold digitIn inRanges
    split
    · rfl
    split
    · rfl
    · exact ih

theorem isDecimalDigit_eq (c : Char) : isDecimalDigit c = inRanges c.toNat decimalRanges :=
  isSome_digitIn c.toNat decimalRanges

theorem isAlphanumeric_of_isBlank {c : Char} (blank : isBlank c = true) :
    isAlphanumeric c = false := by
  have letters : areDisjoint 1000 blankRanges letterRanges = true := by decide +kernel
  have numerals : areDisjoint 1000 blankRanges numeralRanges = true := by decide +kernel
  exact Bool.or_eq_false_iff.mpr
    ⟨not_inRanges_of_disjoint letters blank, not_inRanges_of_disjoint numerals blank⟩

theorem isDecimalDigit_of_isBlank {c : Char} (blank : isBlank c = true) :
    isDecimalDigit c = false := by
  have disjoint : areDisjoint 1000 blankRanges decimalRanges = true := by decide +kernel
  rw [isDecimalDigit_eq]
  exact not_inRanges_of_disjoint disjoint blank

theorem isLetter_of_isDecimalDigit {c : Char} (digit : isDecimalDigit c = true) :
    isLetter c = false := by
  have disjoint : areDisjoint 1000 decimalRanges letterRanges = true := by decide +kernel
  rw [isDecimalDigit_eq] at digit
  exact not_inRanges_of_disjoint disjoint digit

end TypedRecords.Text
