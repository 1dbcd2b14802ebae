import TypedRecords.Coercion.Number
import TypedRecords.Proofs.Numeric.NotNumber

/-!
Numbers from texts.  A text, without the white space at its ends, stands for the longest numeral at
its front; in strict mode the numeral must be all of it.
-/

set_option autoImplicit false

namespace TypedRecords.Coercion

open TypedRecords.Numeric (Double Numeral)
open TypedRecords.Numeric.LeadingNumber
open TypedRecords.Text (stripBlank)

/-- The numeral stands at the front of the text, and no longer one does. -/
structure LongestNumeral (cs numeral : List Char) (x : Double) : Prop where
  starts : numeral <+: cs
  writes : Numeral x numeral
  longest : ∀ y other, other <+: cs → Numeral y other → other.length ≤ numeral.length

def WithoutNumeral (cs : List Char) : Prop :=
  ∀ x numeral, numeral <+: cs → ¬ Numeral x numeral

section Front

variable {cs numeral : List Char} {x : Double}

private theorem exists_longestNumeral {behind : List Char} (found : split? cs = some (x, behind)) :
    ∃ numeral, LongestNumeral cs numeral x := by
  obtain ⟨numeral, same, writes⟩ := exists_numeral found
  exact ⟨numeral, ⟨behind, same.symm⟩, writes,
    fun y other starts again => split?_longest found same starts again⟩

private theorem split?_of_longestNumeral (longest : LongestNumeral cs numeral x) :
    ∃ behind, split? cs = some (x, behind) := by
  obtain ⟨rest, rfl⟩ := longest.starts
  obtain ⟨⟨y, behind⟩, found, taken | shorter⟩ := split?_append longest.writes rest
  · cases taken
    exact ⟨rest, found⟩
  · obtain ⟨front, same, writes⟩ := exists_numeral found
    have bound := longest.longest y front ⟨behind, same.symm⟩ writes
    have lengths := congrArg List.length same
    rw [List.length_append, List.length_append] at lengths
    dsimp only at shorter
    omega

end Front

section Modes

variable {text : String} {x : Double}

private theorem readNumber_of_split? {behind : List Char}
    (found : split? (stripBlank text.toList) = some (x, behind)) :
    readNumber false text = .ok x := by
  simp [readNumber, found]

private theorem readNumber_of_none (missing : split? (stripBlank text.toList) = none) :
    readNumber false text = .ok .nan := by
  simp [readNumber, missing]

theorem readNumber_of_numeral (writes : Numeral x (stripBlank text.toList)) (strict : Bool) :
    readNumber strict text = .ok x := by
  simp [readNumber, split?_eq_whole_iff.mpr writes]

private theorem readNumber_permissive_iff (number : x ≠ .nan) :
    readNumber false text = .ok x ↔
      ∃ numeral, LongestNumeral (stripBlank text.toList) numeral x := by
  constructor
  · intro made
    rcases found : split? (stripBlank text.toList) with _ | ⟨y, behind⟩
    · rw [readNumber_of_none found] at made
      exact absurd (Except.ok.inj made).symm number
    · rw [readNumber_of_split? found] at made
      obtain rfl := Except.ok.inj made
      exact exists_longestNumeral found
  · rintro ⟨numeral, longest⟩
    obtain ⟨behind, found⟩ := split?_of_longestNumeral longest
    exact readNumber_of_split? found

private theorem readNumber_nan_iff :
    readNumber false text = .ok .nan ↔ WithoutNumeral (stripBlank text.toList) := by
  rcases found : split? (stripBlank text.toList) with _ | ⟨y, behind⟩
  · exact iff_of_true (readNumber_of_none found) (split?_eq_none_iff.mp found)
  · obtain ⟨numeral, longest⟩ := exists_longestNumeral found
    refine iff_of_false ?_ fun absent => absent y numeral longest.starts longest.writes
    rw [readNumber_of_split? found]
    exact fun none => longest.writes.ne_nan (Except.ok.inj none)

theorem readNumber_strict_iff :
    readNumber true text = .ok x ↔ Numeral x (stripBlank text.toList) := by
  refine ⟨fun made => ?_, fun writes => readNumber_of_numeral writes true⟩
  rw [← split?_eq_whole_iff]
  rcases found : split? (stripBlank text.toList) with _ | ⟨y, _ | ⟨c, behind⟩⟩
  · simp [readNumber, found] at made
  · simp [readNumber, found] at made
    rw [made]
  · simp [readNumber, found] at made

private theorem readNumber_rejects (whole : ∀ x, ¬ Numeral x (stripBlank text.toList)) :
    readNumber true text = .error (.notNumber text) ∧ WithoutNumeral (stripBlank text.toList) ∨
      readNumber true text = .error (.trailing text) ∧
        ¬ WithoutNumeral (stripBlank text.toList) := by
  rcases found : split? (stripBlank text.toList) with _ | ⟨y, _ | ⟨c, behind⟩⟩
  · exact Or.inl ⟨by simp [readNumber, found], split?_eq_none_iff.mp found⟩
  · exact absurd (split?_eq_whole_iff.mp found) (whole y)
  · refine Or.inr ⟨by simp [readNumber, found], fun absent => ?_⟩
    rw [split?_eq_none_iff.mpr absent] at found
    cases found

end Modes

/-- In permissive mode a number is read from every text: none where no numeral stands at its front,
and else the one that the longest numeral there writes.  In strict mode a number is read where the
text is a numeral as a whole, and it is the same number; all other texts are rejected. -/
theorem readNumber_longest (text : String) :
    let stripped := stripBlank text.toList
    (∃ x, readNumber false text = .ok x) ∧
    (readNumber false text = .ok .nan ↔ WithoutNumeral stripped) ∧
    (∀ x, x ≠ .nan →
      (readNumber false text = .ok x ↔ ∃ numeral, LongestNumeral stripped numeral x)) ∧
    (∀ x, readNumber true text = .ok x ↔ Numeral x stripped) ∧
    (∀ x, Numeral x stripped → readNumber false text = .ok x) ∧
    ((∀ x, ¬ Numeral x stripped) →
      readNumber true text = .error (.notNumber text) ∧ WithoutNumeral stripped ∨
        readNumber true text = .error (.trailing text) ∧ ¬ WithoutNumeral stripped) := by
  intro stripped
  refine ⟨?_, readNumber_nan_iff, fun x number => readNumber_permissive_iff number,
    fun x => readNumber_strict_iff, fun x writes => readNumber_of_numeral writes false,
    readNumber_rejects⟩
  rcases found : split? stripped with _ | ⟨x, behind⟩
  · exact ⟨.nan, readNumber_of_none found⟩
  · exact ⟨x, readNumber_of_split? found⟩

/-- A second point ends the numeral, digits of another script do not, and an exponent without digits
is none. -/
theorem readNumber_longest_cut :
    let text := "\u2003-.5e+\u0661.5 "
    let x := Double.finite true 5629499534213120 (-50)
    x ≠ .nan ∧ readNumber false text = .ok x ∧
      (∃ numeral, LongestNumeral (stripBlank text.toList) numeral x) ∧
      (∀ y, ¬ Numeral y (stripBlank text.toList)) ∧
      readNumber true text = .error (.trailing text) ∧
      WithoutNumeral (stripBlank "e5".toList) ∧ Numeral x (stripBlank "-5.\n".toList) := by
  intro text x
  obtain ⟨-, -, permissive, strict, -, rejects⟩ := readNumber_longest text
  have number : x ≠ .nan := by decide
  have found : split? (stripBlank text.toList) = some (x, ['.', '5']) := by decide +kernel
  have read : readNumber false text = .ok x := readNumber_of_split? found
  have trailing : readNumber true text = .error (.trailing text) := by simp [readNumber, found]
  have partly : ∀ y, ¬ Numeral y (stripBlank text.toList) := by
    intro y writes
    cases trailing.symm.trans ((strict y).mpr writes)
  refine ⟨number, read, (permissive x number).mp read, partly, trailing, ?_, ?_⟩
  · exact (readNumber_longest "e5").2.1.mp rfl
  · exact ((readNumber_longest "-5.\n").2.2.2.1 x).mp rfl

end TypedRecords.Coercion
