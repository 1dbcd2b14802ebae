import TypedRecords.Proofs.Path.Reach

/-!
Where the limit on converting digits is met on the way along segments.  There is no other failure on
the way.
-/

set_option autoImplicit false

namespace TypedRecords.Path

open TypedRecords.Numeric (digitLimit)

/-- The way along the segments comes to a list at a numeral that is too long to be converted. -/
inductive Stalls : Value → List String → Prop
  | here {items : List Value} {segment : String} {rest : List String} :
      ¬ IsShort segment → Stalls (.list items) (segment :: rest)
  | field {fields : Fields} {segment : String} {part : Value} {rest : List String} :
      Fields.get? fields segment = some part → Stalls part rest →
        Stalls (.object fields) (segment :: rest)
  | item {items : List Value} {segment : String} {position : Nat} {part : Value}
      {rest : List String} :
      IsNumeral segment position → items[position]? = some part → Stalls part rest →
        Stalls (.list items) (segment :: rest)

private theorem exists_isNumeral_of_not_isShort {segment : String} (long : ¬ IsShort segment) :
    (∃ position, IsNumeral segment position) ∧ digitLimit < segment.length := by
  obtain ⟨digits, length⟩ : (∀ c ∈ segment.toList, c.isDigit = true) ∧
      digitLimit < segment.length := by
    simpa [IsShort] using long
  refine ⟨⟨_, ?_, digits, rfl⟩, length⟩
  rintro rfl
  exact Nat.not_lt_zero _ length

theorem item_of_not_isShort {segment : String} (long : ¬ IsShort segment) (items : List Value) :
    item items segment = .error ⟨segment.length⟩ := by
  obtain ⟨⟨position, numeral⟩, length⟩ := exists_isNumeral_of_not_isShort long
  simp [item, index?_eq_some_iff.mpr numeral, length]

theorem follow_of_not_isShort {segment : String} (long : ¬ IsShort segment) (items : List Value)
    (rest : List String) : follow (.list items) (segment :: rest) = .error ⟨segment.length⟩ := by
  simp [follow, step, item_of_not_isShort long, Except.bind]

theorem follow_error_of_stalls {value : Value} {parts : List String}
    (stalls : Stalls value parts) : ∃ cause, follow value parts = .error cause := by
  induction stalls with
  | here long => exact ⟨_, follow_of_not_isShort long _ _⟩
  | field found _ ih => rwa [follow_cons _ (step_field found)]
  | @item items segment position part rest numeral found _ ih =>
    by_cases short : IsShort segment
    · rwa [follow_cons rest (step_item numeral (short numeral.digits) found)]
    · exact ⟨_, follow_of_not_isShort short _ _⟩

theorem stalls_of_follow_error {value : Value} {parts : List String} {cause : LongIndex}
    (failed : follow value parts = .error cause) : Stalls value parts := by
  induction parts generalizing value with
  | nil => cases failed
  | cons segment rest ih =>
    have goesOn (missing : step value segment = .ok .null) : Stalls value (segment :: rest) := by
      rw [follow_of_step_null rest missing] at failed
      cases failed
    cases value with
    | object fields =>
      cases found : Fields.get? fields segment with
      | none => exact goesOn (by simp [step, found])
      | some part =>
        rw [follow_cons rest (step_field found)] at failed
        exact .field found (ih failed)
    | list items =>
      by_cases short : IsShort segment
      · by_cases numeral : ∃ position, IsNumeral segment position
        · obtain ⟨position, numeral⟩ := numeral
          have length := short numeral.digits
          cases found : items[position]? with
          | none => exact goesOn (by simp [step, item_of_isNumeral numeral length, found])
          | some part =>
            rw [follow_cons rest (step_item numeral length found)] at failed
            exact .item numeral found (ih failed)
        · exact goesOn (item_of_not_isNumeral (not_exists.mp numeral) items)
      · exact .here short
    | _ => exact goesOn rfl

theorem follow_error_iff {value : Value} {parts : List String} :
    (∃ cause, follow value parts = .error cause) ↔ Stalls value parts :=
  ⟨fun ⟨_, failed⟩ => stalls_of_follow_error failed, follow_error_of_stalls⟩

end TypedRecords.Path
