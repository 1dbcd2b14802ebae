import Mathlib.Algebra.Ring.Parity
import Mathlib.Data.List.DropRight
import TypedRecords.Path.Lookup

/-!
Ways and paths put together.  Segments behind segments lead on from where the first ones lead, or
fail as they do.  A path behind a path and a dot has the segments of both, unless the first one ends
in a backslash that waits for the character behind it, which is then the dot.
-/

set_option autoImplicit false

namespace TypedRecords.Path

def backslashesAtEnd (path : String) : Nat :=
  (path.toList.rtakeWhile fun c => c == '\\').length

/-- Whether the scanner takes the next character literally when it has passed some. -/
def literalAfter (literal : Bool) (cs : List Char) : Bool :=
  cs.foldl (fun literal c => !literal && c == '\\') literal

private theorem literalAfter_concat (literal : Bool) (cs : List Char) (c : Char) :
    literalAfter literal (cs ++ [c]) = (!literalAfter literal cs && c == '\\') := by
  simp [literalAfter]

private theorem literalAfter_iff_odd (cs : List Char) :
    literalAfter false cs = true ↔ Odd (cs.rtakeWhile fun c => c == '\\').length := by
  induction cs using List.reverseRecOn with
  | nil => simp [literalAfter]
  | append_singleton cs c ih =>
    rw [literalAfter_concat, List.rtakeWhile_concat]
    by_cases backslash : c = '\\'
    · subst backslash
      simp [Nat.odd_add_one, ← ih]
    · simp [backslash]

private theorem exists_step (current : List Char) (literal : Bool) (c : Char) :
    ∃ closed held, ∀ rest, segmentsFrom current literal (c :: rest) =
      closed ++ segmentsFrom held (!literal && c == '\\') rest := by
  cases literal with
  | true => exact ⟨[], c :: current, fun rest => by simp [segmentsFrom]⟩
  | false =>
    by_cases backslash : c = '\\'
    · exact ⟨[], current, fun rest => by simp [segmentsFrom, backslash]⟩
    by_cases dot : c = '.'
    · exact ⟨[String.ofList current.reverse], [], fun rest => by simp [segmentsFrom, dot]⟩
    · have plain : (c == '\\') = false := by simpa using backslash
      exact ⟨[], c :: current, fun rest => by simp [segmentsFrom, backslash, plain, dot]⟩

/-- When some characters have been passed, some segments are closed and the scanner goes on with a
segment at hand. -/
theorem exists_scanned (front current : List Char) (literal : Bool) :
    ∃ closed held, ∀ back, segmentsFrom current literal (front ++ back) =
      closed ++ segmentsFrom held (literalAfter literal front) back := by
  induction front generalizing current literal with
  | nil => exact ⟨[], current, fun back => rfl⟩
  | cons c front ih =>
    obtain ⟨first, next, stepped⟩ := exists_step current literal c
    obtain ⟨closed, held, passed⟩ := ih next (!literal && c == '\\')
    refine ⟨first ++ closed, held, fun back => ?_⟩
    rw [List.cons_append, stepped, passed, List.append_assoc]
    rfl

private theorem length_segmentsFrom (current other : List Char) (literal : Bool) (cs : List Char) :
    (segmentsFrom current literal cs).length = (segmentsFrom other literal cs).length := by
  induction cs generalizing current other literal with
  | nil => rfl
  | cons c rest ih =>
    unfold segmentsFrom
    split
    · exact ih _ _ false
    split
    · exact ih _ _ true
    split
    · rfl
    · exact ih _ _ false

/-- Two paths with a dot between them have the segments of both, unless the first one ends in a
backslash that makes the dot a part of a segment. -/
theorem segments_append_dot_iff {path rest : String} :
    segments (path ++ "." ++ rest) = segments path ++ segments rest ↔
      ¬ Odd (backslashesAtEnd path) := by
  obtain ⟨closed, held, passed⟩ := exists_scanned path.toList [] false
  have alone : segments path = closed ++ [String.ofList held.reverse] := by
    have ended := passed []
    rw [List.append_nil] at ended
    exact ended
  have joined : segments (path ++ "." ++ rest) =
      closed ++ segmentsFrom held (literalAfter false path.toList) ('.' :: rest.toList) := by
    rw [← passed]
    simp [segments]
  rw [backslashesAtEnd, ← literalAfter_iff_odd, joined, alone]
  cases pending : literalAfter false path.toList with
  | false => simp [segmentsFrom, segments]
  | true =>
    have shorter : (segmentsFrom held true ('.' :: rest.toList)).length =
        (segments rest).length := length_segmentsFrom ('.' :: held) [] false rest.toList
    constructor
    · intro same
      have lengths := congrArg List.length same
      simp only [List.length_append, List.length_singleton, shorter] at lengths
      omega
    · intro settled
      exact absurd rfl settled

example : segments ("a\\" ++ "." ++ "b") = ["a.b"] := by decide

section Follow

/-- Segments behind segments lead on from where the first ones lead, and where these fail there is
nothing to lead on from. -/
theorem follow_append (value : Value) (first second : List String) :
    follow value (first ++ second) =
      (follow value first).bind fun part => follow part second := by
  induction first generalizing value with
  | nil => rfl
  | cons segment rest ih =>
    simp only [List.cons_append, follow]
    cases step value segment with
    | error cause => rfl
    | ok part => exact ih part

theorem lookup_append_dot {path : String} (settled : ¬ Odd (backslashesAtEnd path)) (value : Value)
    (rest : String) :
    lookup value (path ++ "." ++ rest) =
      (lookup value path).bind fun part => lookup part rest := by
  unfold lookup
  rw [segments_append_dot_iff.mpr settled, follow_append]

end Follow

end TypedRecords.Path
