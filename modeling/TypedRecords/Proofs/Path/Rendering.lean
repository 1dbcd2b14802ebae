import TypedRecords.Proofs.Path.Grammar

/-!
Paths written from their segments.  A backslash before every dot and every backslash is one of the
ways to spell a segment, so these paths are read back as the segments, whatever characters the
segments consist of.
-/

set_option autoImplicit false

namespace TypedRecords.Path

theorem toList_escape (segment : String) :
    (escape segment).toList = segment.toList.flatMap escapeChar := by
  simp [escape]

private theorem spells_flatMap_escapeChar (segment : List Char) :
    Spells (segment.flatMap escapeChar) segment := by
  induction segment with
  | nil => exact .nil
  | cons c segment ih =>
    rw [List.flatMap_cons]
    by_cases special : c = '.' ∨ c = '\\'
    · rw [escapeChar, if_pos special]
      exact .literal c ih
    · obtain ⟨dot, backslash⟩ := not_or.mp special
      rw [escapeChar, if_neg special]
      exact .plain dot backslash ih

private theorem writes_render {parts : List String} (nonempty : parts ≠ []) :
    Writes (render parts) parts := by
  have spelled : List.Forall₂ (fun spelling part => Spells spelling.toList part.toList)
      (parts.map escape) parts := by
    refine List.forall₂_map_left_iff.mpr (List.forall₂_same.mpr fun part _ => ?_)
    rw [toList_escape]
    exact spells_flatMap_escapeChar part.toList
  exact ⟨nonempty, parts.map escape, spelled, Or.inl rfl⟩

theorem segments_render {parts : List String} (nonempty : parts ≠ []) :
    segments (render parts) = parts :=
  segments_of_writes (writes_render nonempty)

/-- The segments of a path are those that it spells.  Every path spells exactly one list of
segments, which is never empty, and every other list of segments is spelled by the path rendered
from it. -/
theorem segments_by_grammar :
    (∀ path parts, segments path = parts ↔ Writes path parts) ∧
      (∀ path, ∃! parts, Writes path parts) ∧
      (∀ path, segments path ≠ []) ∧
      ∀ parts, parts ≠ [] → segments (render parts) = parts := by
  refine ⟨fun path parts => segments_eq_iff_writes, fun path => ?_,
    fun path => (writes_segments path).nonempty, fun parts => segments_render⟩
  exact ⟨segments path, writes_segments path, fun parts writes => (segments_of_writes writes).symm⟩

/-- Empty segments, a backslash before a dot, one before a backslash, and a lone one at the end. -/
theorem segments_by_grammar_corners :
    Writes "..a\\.\\b\\\\\\" ["", "", "a.b\\"] ∧
      (["", "..", "\\.\\"] : List String) ≠ [] ∧
      segments (render ["", "..", "\\.\\"]) = ["", "..", "\\.\\"] := by
  obtain ⟨grammar, -, -, rendered⟩ := segments_by_grammar
  have some : (["", "..", "\\.\\"] : List String) ≠ [] := by decide
  exact ⟨(grammar _ _).mp (by decide), some, rendered _ some⟩

end TypedRecords.Path
