import TypedRecords.Proofs.Coercion.Division

/-!
Texts where an array of arrays is asked for.  The pieces of a text hold no comma, so they are not
divided again: each becomes a list of one item on every further level.
-/

set_option autoImplicit false

namespace TypedRecords

variable {clock : Calendar.Clock}

/-- The arrays around a type, from the outermost on, by their labels. -/
def SemanticType.nested : List TypeLabels → SemanticType → SemanticType
  | [], element => element
  | labels :: inner, element => .array (nested inner element) labels

def Value.wrapped : Nat → Value → Value
  | 0, value => value
  | depth + 1, value => .list [wrapped depth value]

namespace Coercion

open TypedRecords.Traversal

variable (settings : Settings) (element : SemanticType)

private theorem coerce_single {piece : String} (whole : ',' ∉ piece.toList) (labels : TypeLabels) :
    coerce clock settings (.array element labels) (.text piece) =
      (coerce clock settings element (.text piece)).map fun value => .list [value] := by
  let division : Division := ⟨piece.toList, [], whole⟩
  have text : division.text = piece := by
    simp [division, Division.text, joined]
  have single : division.pieces = [piece] := by
    simp [division, Division.pieces]
  have traversed := @coerce_text clock settings labels element division
  rw [text, single, mapM_cons_eq] at traversed
  rw [traversed]
  cases coerce clock settings element (.text piece) <;> rfl

private theorem coerce_nested_single {piece : String} (whole : ',' ∉ piece.toList)
    (inner : List TypeLabels) :
    coerce clock settings (.nested inner element) (.text piece) =
      (coerce clock settings element (.text piece)).map (Value.wrapped inner.length) := by
  induction inner with
  | nil =>
    rw [SemanticType.nested]
    cases coerce clock settings element (.text piece) <;> rfl
  | cons labels inner ih =>
    rw [SemanticType.nested, coerce_single settings _ whole, ih]
    cases coerce clock settings element (.text piece) <;> rfl

private theorem whole_of_mem_pieces {division : Division} {piece : String}
    (member : piece ∈ division.pieces) : ',' ∉ piece.toList := by
  rcases List.mem_cons.mp member with first | further
  · rw [first, String.toList_ofList]
    exact division.whole
  · obtain ⟨next, -, same⟩ := List.mem_map.mp further
    rw [← same, String.toList_ofList]
    exact next.whole

private theorem coerce_nested_text (outer : TypeLabels) (inner : List TypeLabels)
    (division : Division) :
    coerce clock settings (.nested (outer :: inner) element) (.text division.text) =
      (division.pieces.mapM fun piece => coerce clock settings element (.text piece)).map
        fun entries => .list (entries.map (Value.wrapped inner.length)) := by
  have each : ∀ piece ∈ division.pieces,
      coerce clock settings (.nested inner element) (.text piece) =
        (coerce clock settings element (.text piece)).map (Value.wrapped inner.length) := by
    intro piece member
    exact coerce_nested_single settings element (whole_of_mem_pieces member) inner
  rw [SemanticType.nested, coerce_text, mapM_congr each, mapM_map_results]
  cases (division.pieces.mapM fun piece => coerce clock settings element (.text piece)) <;> rfl

/-- A text that is coerced to arrays of arrays has one entry for each of its pieces, which is what
the piece is coerced to, in lists of one item for all levels but the first; and it fails exactly as
it does where a single array is asked for. -/
theorem coerce_nested (s : String) (element : SemanticType) (settings : Settings)
    (outer : TypeLabels) (inner : List TypeLabels) (labels : TypeLabels) :
    ∃ division : Division, division.text = s ∧
      (∀ result, coerce clock settings (.nested (outer :: inner) element) (.text s) = .ok result ↔
        ∃ entries,
          List.Forall₂ (fun piece entry => coerce clock settings element (.text piece) = .ok entry)
            division.pieces entries ∧
          result = .list (entries.map (Value.wrapped inner.length))) ∧
      ∀ failure, coerce clock settings (.nested (outer :: inner) element) (.text s) =
        .error failure ↔
        coerce clock settings (.array element labels) (.text s) = .error failure := by
  obtain ⟨division, divides, -⟩ := existsUnique_division s
  refine ⟨division, divides, ?_, ?_⟩
  · intro result
    rw [← divides, coerce_nested_text, map_ok_iff]
    simp only [mapM_ok_iff]
  · intro failure
    rw [← divides, coerce_nested_text, coerce_text, map_error_iff, map_error_iff]

example :
    coerce clock Settings.default (.nested [.none, .none, .none] (.plain .string)) (.text "a, b") =
      .ok (.list [.list [.list [.text "a"]], .list [.list [.text "b"]]]) := by
  rfl

end Coercion

end TypedRecords
