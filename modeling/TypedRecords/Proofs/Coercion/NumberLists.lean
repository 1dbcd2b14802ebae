import TypedRecords.Proofs.Coercion.Division
import TypedRecords.Proofs.Coercion.Modes
import TypedRecords.Proofs.Coercion.Numerals
import TypedRecords.Proofs.Numeric.NumberText
import TypedRecords.Proofs.Text.Marks

/-!
Lists of numbers as texts.  Numbers in their written form, joined by commas and blanks, are divided
where they were joined and read as a whole, each as the number that its written form stands for.
-/

set_option autoImplicit false

namespace TypedRecords.Coercion

open TypedRecords.Numeric (Double Numeral exists_numeral_text exists_numeral_integerText)
open TypedRecords.Text (isBlank stripBlank stripWhere_of_forall Leaves leaves_nil leaves_cons)
open TypedRecords.Traversal

variable {clock : Calendar.Clock}

inductive IsFiniteNumber : Value → Prop
  | int (n : Int) : IsFiniteNumber (.int n)
  | float (negative : Bool) (mantissa : Nat) (exponent : Int) :
      IsFiniteNumber (.float (.finite negative mantissa exponent))

section Join

private theorem exists_division_join (first : String) (rest : List String)
    (whole : ',' ∉ first.toList)
    (further : ∀ next ∈ rest, ',' ∉ next.toList ∧ Leaves isBlank next.toList) :
    ∃ division : Division,
      division.text = ", ".intercalate (first :: rest) ∧ division.pieces = first :: rest := by
  -- by induction on the further texts, with the one blank of each separator as its space
  have spaced : ∃ pieces : List FurtherPiece,
      joined pieces = (rest.flatMap fun next => ',' :: ' ' :: next.toList) ∧
        pieces.map (fun next => String.ofList next.piece) = rest := by
    induction rest with
    | nil => exact ⟨[], rfl, rfl⟩
    | cons next rest ih =>
      obtain ⟨⟨whole, leaves⟩, others⟩ := List.forall_mem_cons.mp further
      obtain ⟨pieces, text, same⟩ := ih others
      have blank : ∀ c ∈ [' '], isBlank c = true := List.forall_mem_singleton.mpr rfl
      refine ⟨⟨[' '], next.toList, blank, whole, leaves⟩ :: pieces, ?_, ?_⟩
      · simp [text]
      · simp [same]
  obtain ⟨pieces, text, same⟩ := spaced
  refine ⟨⟨first.toList, pieces, whole⟩, ?_, ?_⟩
  · have join := Text.toList_intercalate_cons ", " first rest
    rw [Division.text, text, ← String.ofList_toList (s := ", ".intercalate _), join]
    rfl
  · rw [Division.pieces, same, String.ofList_toList]

end Join

section Numbers

variable {text : String} {x : Double}

private theorem comma_of_numeral (writes : Numeral x text.toList) : ',' ∉ text.toList := by
  intro member
  cases writes.isChar_of_mem ',' member

private theorem not_isBlank_of_numeral (writes : Numeral x text.toList) :
    ∀ c ∈ text.toList, isBlank c = false :=
  fun c member => Numeral.not_isBlank_of_isChar (writes.isChar_of_mem c member)

private theorem coerce_numeral (writes : Numeral x text.toList) (settings : Settings)
    (labels : TypeLabels) :
    coerce clock settings (.leaf .number labels) (.text text) = .ok (.float x) := by
  have stripped : stripBlank text.toList = text.toList :=
    stripWhere_of_forall (not_isBlank_of_numeral writes)
  have read : number settings text = .ok x := by
    rw [number, readNumber_of_numeral (by rw [stripped]; exact writes)]
    rfl
  rw [coerce_leaf settings labels Value.noConfusion]
  exact congrArg (Except.map Value.float) read

private theorem exists_numeral_plain {value : Value} (finite : IsFiniteNumber value) :
    ∃ x, Numeral x value.plain.toList := by
  cases finite with
  | int n => exact exists_numeral_integerText n
  | float negative mantissa exponent =>
    exact exists_numeral_text Value.layout negative mantissa exponent

private theorem exists_division_of_numerals {texts : List String} (nonempty : texts ≠ [])
    (writes : ∀ text ∈ texts, ∃ x, Numeral x text.toList) :
    ∃ division : Division,
      division.text = ", ".intercalate texts ∧ division.pieces = texts := by
  obtain ⟨first, rest, rfl⟩ := List.exists_cons_of_ne_nil nonempty
  obtain ⟨⟨x, head⟩, tail⟩ := List.forall_mem_cons.mp writes
  refine exists_division_join first rest (comma_of_numeral head) fun next member => ?_
  obtain ⟨y, numeral⟩ := tail next member
  refine ⟨comma_of_numeral numeral, fun c behind same => ?_⟩
  exact not_isBlank_of_numeral numeral c (by simp [same])

end Numbers

/-- Integers and finite numbers in their written form, joined by commas and blanks, are divided into
these written forms again, and coerced to the numbers that these stand for as a whole, in strict
mode as well as in permissive mode. -/
theorem coerce_joined_numbers {numbers : List Value} (nonempty : numbers ≠ [])
    (finite : ∀ value ∈ numbers, IsFiniteNumber value) :
    let text := ", ".intercalate (numbers.map Value.plain)
    pieces text = numbers.map Value.plain ∧
      ∃ entries : List Double,
        List.Forall₂ (fun value x => Numeral x value.plain.toList) numbers entries ∧
        ∀ settings inner outer,
          coerce clock settings (.array (.leaf .number inner) outer) (.text text) =
            .ok (.list (entries.map Value.float)) := by
  intro text
  obtain ⟨entries, pairs⟩ :=
    exists_forall₂ fun value member => exists_numeral_plain (finite value member)
  have writes : ∀ piece ∈ numbers.map Value.plain, ∃ x, Numeral x piece.toList := by
    intro piece member
    obtain ⟨value, origin, rfl⟩ := List.mem_map.mp member
    exact exists_numeral_plain (finite value origin)
  obtain ⟨division, joins, divides⟩ := exists_division_of_numerals (by simpa using nonempty) writes
  refine ⟨?_, entries, pairs, fun settings inner outer => ?_⟩
  · rw [← divides, ← pieces_text, joins]
  · have traversed : division.pieces.mapM
        (fun piece => coerce clock settings (.leaf .number inner) (.text piece)) =
          .ok (entries.map Value.float) := by
      rw [divides, mapM_ok_iff, List.forall₂_map_left_iff, List.forall₂_map_right_iff]
      exact pairs.imp fun value x writes => coerce_numeral writes settings inner
    have same : text = division.text := joins.symm
    rw [same, coerce_text, traversed]
    rfl

/-- An integer, a number in plain notation and the least positive number, with its exponent. -/
theorem coerce_joined_numbers_mixed :
    let numbers : List Value :=
      [.int (-12), .float (.finite true 4503599627370496 (-52)), .float (.finite false 1 (-1074))]
    numbers ≠ [] ∧ (∀ value ∈ numbers, IsFiniteNumber value) ∧
      ", ".intercalate (numbers.map Value.plain) = "-12, -1.0, 5e-324" ∧
      pieces "-12, -1.0, 5e-324" = ["-12", "-1.0", "5e-324"] ∧
      ∃ entries : List Double,
        List.Forall₂ (fun text x => Numeral x text.toList) ["-12", "-1.0", "5e-324"] entries ∧
        coerce .epoch (Settings.default.withStrict true) (.arrayOf (.plain .number))
          (.text "-12, -1.0, 5e-324") = .ok (.list (entries.map Value.float)) := by
  intro numbers
  have finite : ∀ value ∈ numbers, IsFiniteNumber value := by
    simp only [numbers, List.forall_mem_cons]
    exact ⟨.int _, .float _ _ _, .float _ _ _, by simp⟩
  have texts : numbers.map Value.plain = ["-12", "-1.0", "5e-324"] := by decide +kernel
  have nonempty : numbers ≠ [] := List.cons_ne_nil _ _
  obtain ⟨divided, entries, pairs, read⟩ := coerce_joined_numbers nonempty finite
  have joined : ", ".intercalate (numbers.map Value.plain) = "-12, -1.0, 5e-324" := by
    rw [texts]
    decide
  rw [joined, texts] at divided
  simp only [joined] at read
  have writes := List.forall₂_map_left_iff (f := Value.plain)
    (R := fun text x => Numeral x text.toList) |>.mpr pairs
  rw [texts] at writes
  exact ⟨nonempty, finite, joined, divided, entries, writes, read _ _ _⟩

end TypedRecords.Coercion
