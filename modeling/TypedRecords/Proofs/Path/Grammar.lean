import Mathlib.Data.List.Forall2
import TypedRecords.Path.Segments

/-!
The grammar of paths.  A segment is spelled by its characters in their order, each as it is or
behind a backslash; the spellings of the segments are joined by dots, and a lone backslash may stand
at the very end.  The scanner reads from a path the segments that it spells, and every path spells
some.
-/

set_option autoImplicit false

namespace TypedRecords.Path

/-- The characters that spell a segment.  A dot or a backslash never stands for itself unless a
backslash goes before it. -/
inductive Spells : List Char → List Char → Prop
  | nil : Spells [] []
  | plain {c : Char} {spelling segment : List Char} : c ≠ '.' → c ≠ '\\' →
      Spells spelling segment → Spells (c :: spelling) (c :: segment)
  | literal (c : Char) {spelling segment : List Char} :
      Spells spelling segment → Spells ('\\' :: c :: spelling) (c :: segment)

/-- A path that spells segments, of which there is at least one. -/
structure Writes (path : String) (parts : List String) : Prop where
  nonempty : parts ≠ []
  spelled : ∃ spellings : List String,
    List.Forall₂ (fun spelling part => Spells spelling.toList part.toList) spellings parts ∧
      (path = ".".intercalate spellings ∨ path = ".".intercalate spellings ++ "\\")

section Reading

private theorem segmentsFrom_of_spells {spelling segment : List Char}
    (spells : Spells spelling segment) (current rest : List Char) :
    segmentsFrom current false (spelling ++ rest) =
      segmentsFrom (segment.reverse ++ current) false rest := by
  induction spells generalizing current with
  | nil => rfl
  | plain dot backslash _ ih => simp [segmentsFrom, dot, backslash, ih]
  | literal c _ ih => simp [segmentsFrom, ih]

def IsSilent (ending : List Char) : Prop :=
  ∀ current, segmentsFrom current false ending = [String.ofList current.reverse]

private theorem isSilent_nil : IsSilent [] := fun _ => rfl

private theorem isSilent_backslash : IsSilent ['\\'] := fun _ => rfl

private theorem segmentsFrom_of_spellings {spellings parts : List String} {ending : List Char}
    (spelled : List.Forall₂ (fun spelling part => Spells spelling.toList part.toList) spellings
      parts)
    (nonempty : parts ≠ []) (silent : IsSilent ending) :
    segmentsFrom [] false ((".".intercalate spellings).toList ++ ending) = parts := by
  induction spelled with
  | nil => exact absurd rfl nonempty
  | @cons spelling part spellings parts first others ih =>
    cases others with
    | nil =>
      rw [String.intercalate_singleton, segmentsFrom_of_spells first, silent]
      simp
    | @cons next _ spellings _ second others =>
      have joined : (".".intercalate (spelling :: next :: spellings)).toList ++ ending =
          spelling.toList ++ '.' :: ((".".intercalate (next :: spellings)).toList ++ ending) := by
        simp [String.intercalate_cons_cons]
      rw [joined, segmentsFrom_of_spells first]
      simpa [segmentsFrom] using ih (List.cons_ne_nil _ _)

theorem segments_of_writes {path : String} {parts : List String} (writes : Writes path parts) :
    segments path = parts := by
  obtain ⟨spellings, spelled, rfl | rfl⟩ := writes.spelled
  · simpa [segments] using segmentsFrom_of_spellings spelled writes.nonempty isSilent_nil
  · simpa [segments] using segmentsFrom_of_spellings spelled writes.nonempty isSilent_backslash

end Reading

section Writing

private theorem writes_nil : Writes "" [""] :=
  ⟨List.cons_ne_nil _ _, [""], .cons .nil .nil, Or.inl rfl⟩

private theorem writes_backslash : Writes "\\" [""] :=
  ⟨List.cons_ne_nil _ _, [""], .cons .nil .nil, Or.inr rfl⟩

theorem Writes.dot {path : String} {parts : List String} (writes : Writes path parts) :
    Writes ("." ++ path) ("" :: parts) := by
  obtain ⟨spellings, spelled, written⟩ := writes.spelled
  have some : spellings ≠ [] := by
    rintro rfl
    cases spelled
    exact writes.nonempty rfl
  have joined : ".".intercalate ("" :: spellings) = "." ++ ".".intercalate spellings := by
    rw [String.intercalate_cons_of_ne_nil some]
    rfl
  refine ⟨List.cons_ne_nil _ _, "" :: spellings, .cons .nil spelled, ?_⟩
  rw [joined]
  rcases written with rfl | rfl
  · exact Or.inl rfl
  · exact Or.inr String.append_assoc.symm

/-- What spells one more character in front of any segment does so in front of the first segment of
a path. -/
theorem Writes.cons {cs segment : List Char} {c : Char} {parts : List String}
    (writes : Writes (String.ofList cs) (String.ofList segment :: parts)) (front : List Char)
    (spells : ∀ {spelling segment : List Char}, Spells spelling segment →
      Spells (front ++ spelling) (c :: segment)) :
    Writes (String.ofList (front ++ cs)) (String.ofList (c :: segment) :: parts) := by
  obtain ⟨spellings, spelled, written⟩ := writes.spelled
  cases spelled with
  | @cons spelling _ spellings _ head tail =>
    have joined : ".".intercalate ((String.ofList front ++ spelling) :: spellings) =
        String.ofList front ++ ".".intercalate (spelling :: spellings) := by
      cases spellings with
      | nil => simp [String.intercalate_singleton]
      | cons next spellings => simp [String.intercalate_cons_cons, String.append_assoc]
    refine ⟨List.cons_ne_nil _ _, (String.ofList front ++ spelling) :: spellings, .cons ?_ tail, ?_⟩
    · simpa using spells head
    · rw [joined, String.ofList_append]
      rcases written with whole | lone
      · exact Or.inl (whole ▸ rfl)
      · exact Or.inr (by rw [lone, String.append_assoc])

/-- What the scanner reads is what is written.  A backslash that it has just passed belongs to what
is left, with the character behind it or, if there is none, as the lone one at the end. -/
theorem exists_writes (cs current : List Char) (literal : Bool) :
    ∃ segment parts,
      segmentsFrom current literal cs = String.ofList (current.reverse ++ segment) :: parts ∧
        Writes (String.ofList (if literal then '\\' :: cs else cs))
          (String.ofList segment :: parts) := by
  induction cs generalizing current literal with
  | nil =>
    refine ⟨[], [], by simp [segmentsFrom], ?_⟩
    cases literal with
    | false => exact writes_nil
    | true => exact writes_backslash
  | cons c rest ih =>
    cases literal with
    | true =>
      obtain ⟨segment, parts, read, writes⟩ := ih (c :: current) false
      refine ⟨c :: segment, parts, by simpa [segmentsFrom] using read, ?_⟩
      exact writes.cons ['\\', c] (.literal c)
    | false =>
      by_cases backslash : c = '\\'
      · obtain ⟨segment, parts, read, writes⟩ := ih current true
        subst backslash
        exact ⟨segment, parts, by simpa [segmentsFrom] using read, writes⟩
      by_cases dot : c = '.'
      · -- The segment at hand is closed, and what is left of it is empty.
        obtain ⟨segment, parts, read, writes⟩ := ih [] false
        subst dot
        refine ⟨[], String.ofList segment :: parts, by simpa [segmentsFrom] using read, ?_⟩
        simpa using writes.dot
      · obtain ⟨segment, parts, read, writes⟩ := ih (c :: current) false
        refine ⟨c :: segment, parts, by simpa [segmentsFrom, backslash, dot] using read, ?_⟩
        exact writes.cons [c] (.plain dot backslash)

theorem writes_segments (path : String) : Writes path (segments path) := by
  obtain ⟨segment, parts, read, writes⟩ := exists_writes path.toList [] false
  have whole : segments path = String.ofList segment :: parts := read
  rw [whole]
  simpa using writes

end Writing

theorem segments_eq_iff_writes {path : String} {parts : List String} :
    segments path = parts ↔ Writes path parts := by
  constructor
  · rintro rfl
    exact writes_segments path
  · exact segments_of_writes

end TypedRecords.Path
