import TypedRecords.Proofs.Text.Marks
import TypedRecords.Url.Public

/-!
Names as labels with dots between them, and perhaps dots at the end.  A name counts as public when
it has two labels or more of which the last one has characters and is not for local use; the others
may be empty.
-/

set_option autoImplicit false

namespace TypedRecords.Url

open TypedRecords.Text (pieces pieces_ne_nil intercalate_pieces pieces_intercalate
  pieces_of_not_mem not_mem_of_mem_pieces)

def joined (front : List (List Char)) (last : List Char) : List Char :=
  ['.'].intercalate (front ++ [last])

/-- A host consists of labels with dots between them, and dots may follow the last one. -/
structure Labelled (host : List Char) (front : List (List Char)) (last : List Char) : Prop where
  whole : ∀ label ∈ front ++ [last], '.' ∉ label
  nonempty : last ≠ []
  text : ∃ dots, host = joined front last ++ List.replicate dots '.'

def stem (host : List Char) : List Char :=
  host.rdropWhile fun c => c = '.'

section Stem

variable {host : List Char}

theorem stem_append_dots (host : List Char) (dots : Nat) :
    stem (host ++ List.replicate dots '.') = stem host := by
  induction dots with
  | zero => rw [List.replicate_zero, List.append_nil]
  | succ dots ih =>
    rw [List.replicate_succ', ← List.append_assoc, stem, List.rdropWhile_concat_pos _ _ _ (by simp),
      ← stem, ih]

private theorem exists_dots (host : List Char) :
    ∃ dots, host = stem host ++ List.replicate dots '.' := by
  refine ⟨(host.rtakeWhile fun c => c = '.').length, ?_⟩
  have all : host.rtakeWhile (fun c => c = '.') =
      List.replicate (host.rtakeWhile fun c => c = '.').length '.' := by
    refine List.eq_replicate_iff.mpr ⟨rfl, fun c member => ?_⟩
    simpa using List.mem_rtakeWhile_imp member
  rw [← all]
  exact List.rdropWhile_append_rtakeWhile.symm

theorem stem_append_of_ne_nil {last : List Char} (nonempty : last ≠ []) (whole : '.' ∉ last)
    (front : List Char) : stem (front ++ last) = front ++ last := by
  refine List.rdropWhile_eq_self_iff.mpr fun present dot => whole ?_
  have same : (front ++ last).getLast present = '.' := by simpa using dot
  rw [List.getLast_append_of_ne_nil _ nonempty] at same
  exact same ▸ List.getLast_mem nonempty

end Stem

section Labelled

variable {host last : List Char} {front : List (List Char)}

private theorem joined_eq (front : List (List Char)) (last : List Char) :
    joined front last = (front.flatMap fun label => label ++ ['.']) ++ last := by
  unfold joined
  induction front with
  | nil => simp
  | cons label rest ih =>
    rw [List.cons_append, List.intercalate_cons_of_ne_nil (by simp), ih]
    simp

theorem Labelled.pieces_stem (labelled : Labelled host front last) :
    pieces '.' (stem host) = front ++ [last] := by
  obtain ⟨dots, text⟩ := labelled.text
  have whole : '.' ∉ last := labelled.whole last (by simp)
  have bare : stem host = joined front last := by
    rw [text, stem_append_dots, joined_eq, stem_append_of_ne_nil labelled.nonempty whole]
  rw [bare, joined, pieces_intercalate labelled.whole (by simp)]

private theorem labelled_of_pieces (split : pieces '.' (stem host) = front ++ [last])
    (several : front ≠ []) :
    Labelled host front last := by
  have text : stem host = joined front last := by
    rw [joined, ← split, intercalate_pieces]
  obtain ⟨dots, parts⟩ := exists_dots host
  refine ⟨fun label member => not_mem_of_mem_pieces (split ▸ member), ?_, dots, text ▸ parts⟩
  -- an empty last label would leave a dot at the end of the stem
  rintro rfl
  obtain ⟨early, label, rfl⟩ := (List.eq_nil_or_concat front).resolve_left several
  have ends : stem host = (early.flatMap fun label => label ++ ['.']) ++ label ++ ['.'] := by
    rw [text, joined_eq]
    simp
  have present : stem host ≠ [] := by simp [ends]
  have other := List.rdropWhile_last_not _ _ present
  have dot : (stem host).getLast? = some '.' := by rw [ends, List.getLast?_concat]
  rw [List.getLast?_eq_some_getLast present] at dot
  exact other (decide_eq_true (Option.some.inj dot))

end Labelled

section Name

variable {host : String}

theorem labels_eq (host : String) :
    labels host = (pieces '.' (stem host.toList)).map String.ofList :=
  rfl

theorem isPublicName_of_pieces {front : List (List Char)} {last : List Char}
    (split : pieces '.' (stem host.toList) = front ++ [last]) :
    isPublicName host =
      (!front.isEmpty && !localLabels.contains (Text.Case.lower (String.ofList last))) := by
  rw [isPublicName, labels_eq, split]
  cases front with
  | nil => rfl
  | cons label rest =>
    have ends : ((label :: rest ++ [last]).map String.ofList).getLast? =
        some (String.ofList last) := by
      rw [List.map_append, List.map_singleton, List.getLast?_concat]
    have long : 2 ≤ ((label :: rest ++ [last]).map String.ofList).length := by simp
    generalize (label :: rest ++ [last]).map String.ofList = parts at ends long ⊢
    match parts with
    | [] => simp at long
    | [_] => simp at long
    | _ :: _ :: _ => simp [ends]

theorem isPublicName_iff :
    isPublicName host = true ↔
      ∃ front last, Labelled host.toList front last ∧ front ≠ [] ∧
        Text.Case.lower (String.ofList last) ∉ localLabels := by
  constructor
  · intro isPublic
    obtain ⟨front, last, split⟩ :=
      (List.eq_nil_or_concat (pieces '.' (stem host.toList))).resolve_left (pieces_ne_nil '.' _)
    rw [List.concat_eq_append] at split
    rw [isPublicName_of_pieces split] at isPublic
    obtain ⟨several, other⟩ := Bool.and_eq_true_iff.mp isPublic
    have several : front ≠ [] := by simpa using several
    exact ⟨front, last, labelled_of_pieces split several, several, by simpa using other⟩
  · rintro ⟨front, last, labelled, several, other⟩
    rw [isPublicName_of_pieces labelled.pieces_stem]
    simp [several, other]

end Name

end TypedRecords.Url
