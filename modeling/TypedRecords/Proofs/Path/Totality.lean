import TypedRecords.Proofs.Path.Faithful
import TypedRecords.Proofs.Path.Limits
import TypedRecords.Proofs.Traversal

/-!
Which ways into a value have an end.  Each has one, be it null, unless it stalls; and a way stalls
only at a list, before a numeral with more digits than are converted.
-/

set_option autoImplicit false

namespace TypedRecords.Path

open TypedRecords.Numeric (digitLimit)

private theorem follow_ok_iff {value : Value} {parts : List String} :
    (∃ target, follow value parts = .ok target) ↔ ¬ Stalls value parts := by
  rw [← follow_error_iff]
  cases follow value parts <;> simp

private theorem step_error {value : Value} {segment : String} {cause : LongIndex}
    (failed : step value segment = .error cause) :
    ¬ IsShort segment ∧ cause = ⟨segment.length⟩ := by
  have stalls : Stalls value [segment] :=
    stalls_of_follow_error (Traversal.bind_error_iff.mpr (Or.inl failed))
  cases stalls with
  | here long =>
    cases (item_of_not_isShort long _).symm.trans failed
    exact ⟨long, rfl⟩
  | field _ further => cases further
  | item _ _ further => cases further

private theorem follow_error {value : Value} {parts : List String} {cause : LongIndex}
    (failed : follow value parts = .error cause) :
    ∃ segment ∈ parts, ¬ IsShort segment ∧ cause = ⟨segment.length⟩ := by
  induction parts generalizing value with
  | nil => cases failed
  | cons segment rest ih =>
    rcases Traversal.bind_error_iff.mp failed with here | ⟨part, -, further⟩
    · exact ⟨segment, List.mem_cons_self, step_error here⟩
    · obtain ⟨culprit, member, long⟩ := ih further
      exact ⟨culprit, List.mem_cons_of_mem _ member, long⟩

theorem segments_of_isDigit {path : String} (digits : ∀ c ∈ path.toList, c.isDigit = true) :
    segments path = [path] := by
  have written : render [path] = path := by
    simpa [render] using escape_of_isDigit digits
  have read : segments (render [path]) = [path] := segments_render (List.cons_ne_nil path [])
  rwa [written] at read

/-- Segments lead to a part of a value, or to null, unless the way along them stalls; so does a
path, by its own segments, and by those that a store has for it, which are its own if the store is
faithful.  Where a way fails, a numeral on it is too long, and the failure tells its length. -/
theorem follow_total_iff (value : Value) (parts : List String) (path : String) (cache : Cache) :
    ((∃ target, follow value parts = .ok target) ↔ ¬ Stalls value parts) ∧
      ((∃ target, lookup value path = .ok target) ↔ ¬ Stalls value (segments path)) ∧
      ((∃ target, (cache.lookup value path).1 = .ok target) ↔
        ¬ Stalls value (cache.parse path).1) ∧
      (cache.Faithful → (cache.parse path).1 = segments path) ∧
      ∀ cause, follow value parts = .error cause →
        ∃ segment ∈ parts, ¬ IsShort segment ∧ cause = ⟨segment.length⟩ :=
  ⟨follow_ok_iff, follow_ok_iff, follow_ok_iff, fun faithful => (faithful.parse path).1,
    fun _ => follow_error⟩

section Long

def longNumeral : String :=
  String.ofList (List.replicate (digitLimit + 1) '1')

private theorem digits_longNumeral : ∀ c ∈ longNumeral.toList, c.isDigit = true := by
  intro c member
  rw [longNumeral, String.toList_ofList] at member
  rw [List.eq_of_mem_replicate member]
  rfl

private theorem length_longNumeral : longNumeral.length = digitLimit + 1 := by
  simp [longNumeral]

private theorem not_isShort_longNumeral : ¬ IsShort longNumeral := by
  intro short
  have length := short digits_longNumeral
  rw [length_longNumeral] at length
  omega

private theorem follow_longNumeral (items : List Value) (rest : List String) :
    follow (.list items) (longNumeral :: rest) = .error ⟨digitLimit + 1⟩ := by
  rw [follow_of_not_isShort not_isShort_longNumeral, length_longNumeral]

end Long

/-- The only item of a list in a field, and a position so far behind it that it cannot be read. -/
theorem follow_total_iff_far :
    let value : Value := .object [("a", .list [.text "x"])]
    (∃ target, lookup value "a.0" = .ok target) ∧
      (Cache.empty 1).Faithful ∧ ((Cache.empty 1).parse "a.0").1 = segments "a.0" ∧
      follow value ["a", longNumeral] = .error ⟨digitLimit + 1⟩ ∧
      (¬ ∃ target, follow value ["a", longNumeral] = .ok target) ∧
      ∃ segment ∈ ["a", longNumeral],
        ¬ IsShort segment ∧ (⟨digitLimit + 1⟩ : LongIndex) = ⟨segment.length⟩ := by
  intro value
  obtain ⟨along, read, -, known, fails⟩ :=
    follow_total_iff value ["a", longNumeral] "a.0" (Cache.empty 1)
  have field : step value "a" = .ok (.list [.text "x"]) := rfl
  have failed : follow value ["a", longNumeral] = .error ⟨digitLimit + 1⟩ := by
    rw [follow_cons _ field, follow_longNumeral]
  have stalls : Stalls value ["a", longNumeral] := stalls_of_follow_error failed
  have goesOn : ¬ Stalls value (segments "a.0") := read.mp ⟨.text "x", rfl⟩
  have fresh : (Cache.empty 1).Faithful := Cache.faithful_empty 1
  exact ⟨read.mpr goesOn, fresh, known fresh, failed, fun found => along.mp found stalls,
    fails _ failed⟩

/-- In an empty list there is nothing at any position, but a numeral that is too long has no answer
there, however the path is given. -/
theorem lookup_fails_at_longNumeral :
    lookup (.list []) longNumeral = .error ⟨digitLimit + 1⟩ ∧
      follow (.list []) [longNumeral] = .error ⟨digitLimit + 1⟩ ∧
      ((Cache.empty 1).lookup (.list []) longNumeral).1 = .error ⟨digitLimit + 1⟩ := by
  have read : lookup (.list []) longNumeral = .error ⟨digitLimit + 1⟩ := by
    rw [lookup, segments_of_isDigit digits_longNumeral, follow_longNumeral]
  refine ⟨read, follow_longNumeral [] [], ?_⟩
  rw [((Cache.faithful_empty 1).lookup (.list []) longNumeral).1, read]

end TypedRecords.Path
