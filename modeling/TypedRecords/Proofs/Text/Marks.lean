import TypedRecords.Proofs.Text.Runs
import TypedRecords.Text.Split

/-!
Texts cut at a mark and joined with one: what stands before the first mark and behind the last, the
pieces between the marks, and the characters of a join.
-/

set_option autoImplicit false

namespace TypedRecords.Text

theorem toList_intercalate_cons (separator first : String) (rest : List String) :
    (separator.intercalate (first :: rest)).toList =
      first.toList ++ rest.flatMap fun next => separator.toList ++ next.toList := by
  induction rest generalizing first with
  | nil => simp
  | cons next rest ih => simp [String.intercalate_cons_cons, ih]

def OpensWith (mark : Char) (cs : List Char) : Prop :=
  Leaves (fun c => c ≠ mark) cs

section Cut

variable {mark : Char} {front back cs : List Char}

@[simp] theorem opensWith_nil (mark : Char) : OpensWith mark [] :=
  leaves_nil _

theorem opensWith_cons (mark : Char) (rest : List Char) : OpensWith mark (mark :: rest) :=
  leaves_cons (by simp) rest

private theorem OpensWith.exists_rest (opens : OpensWith mark cs) (nonempty : cs ≠ []) :
    ∃ rest, cs = mark :: rest := by
  cases cs with
  | nil => exact absurd rfl nonempty
  | cons c rest =>
    have same : c = mark := by simpa using opens c rest rfl
    exact ⟨rest, same ▸ rfl⟩

private theorem ne_of_not_mem (plain : mark ∉ cs) : ∀ c ∈ cs, decide (c ≠ mark) = true := by
  intro c member
  have differs : c ≠ mark := fun same => plain (same ▸ member)
  exact decide_eq_true differs

theorem before_append (plain : mark ∉ front) (opens : OpensWith mark back) :
    before mark (front ++ back) = front :=
  takeWhile_append_of_leaves (ne_of_not_mem plain) opens

theorem dropWhile_ne_append (plain : mark ∉ front) (opens : OpensWith mark back) :
    (front ++ back).dropWhile (fun c => c ≠ mark) = back :=
  dropWhile_append_of_leaves (ne_of_not_mem plain) opens

theorem behind_append (plain : mark ∉ front) (opens : OpensWith mark back) :
    behind mark (front ++ back) = back.drop 1 :=
  congrArg (List.drop 1) (dropWhile_ne_append plain opens)

theorem before_of_not_mem (plain : mark ∉ cs) : before mark cs = cs := by
  have cut := before_append plain (opensWith_nil mark)
  rwa [List.append_nil] at cut

theorem not_mem_before (mark : Char) (cs : List Char) : mark ∉ before mark cs := by
  intro member
  have differs := List.all_eq_true.mp List.all_takeWhile mark member
  simp at differs

theorem opensWith_dropWhile (mark : Char) (cs : List Char) :
    OpensWith mark (cs.dropWhile fun c => c ≠ mark) :=
  leaves_dropWhile _ cs

theorem before_append_dropWhile (mark : Char) (cs : List Char) :
    before mark cs ++ (cs.dropWhile fun c => c ≠ mark) = cs :=
  List.takeWhile_append_dropWhile

theorem eq_before_behind (member : mark ∈ cs) : cs = before mark cs ++ mark :: behind mark cs := by
  have parts := before_append_dropWhile mark cs
  have present : (cs.dropWhile fun c => c ≠ mark) ≠ [] := by
    intro none
    rw [none, List.append_nil] at parts
    exact not_mem_before mark cs (parts.symm ▸ member)
  obtain ⟨rest, same⟩ := (opensWith_dropWhile mark cs).exists_rest present
  have back : behind mark cs = rest := congrArg (List.drop 1) same
  rw [back, ← same, parts]

theorem mem_of_behind_ne_nil (present : behind mark cs ≠ []) : mark ∈ cs := by
  refine Classical.byContradiction fun plain => present ?_
  have cut := behind_append plain (opensWith_nil mark)
  rwa [List.append_nil] at cut

theorem before_behind_append (member : mark ∈ cs) (tail : List Char) :
    before mark (cs ++ tail) = before mark cs ∧
      behind mark (cs ++ tail) = behind mark cs ++ tail := by
  have plain := not_mem_before mark cs
  have opens := opensWith_cons mark (behind mark cs ++ tail)
  have longer : cs ++ tail = before mark cs ++ mark :: (behind mark cs ++ tail) := by
    conv_lhs => rw [eq_before_behind member]
    rw [List.append_assoc, List.cons_append]
  rw [longer, before_append plain opens, behind_append plain opens, List.drop_one, List.tail_cons]
  exact ⟨rfl, rfl⟩

theorem behindLast_append (plain : mark ∉ back) (opens : OpensWith mark front.reverse) :
    behindLast mark (front ++ back) = back := by
  have plain' : mark ∉ back.reverse := fun member => plain (List.mem_reverse.mp member)
  rw [behindLast, List.reverse_append, before_append plain' opens, List.reverse_reverse]

theorem exists_behindLast (mark : Char) (cs : List Char) :
    ∃ front, cs = front ++ behindLast mark cs ∧ OpensWith mark front.reverse ∧
      mark ∉ behindLast mark cs := by
  refine ⟨(cs.reverse.dropWhile fun c => c ≠ mark).reverse, ?_, ?_, ?_⟩
  · rw [behindLast, ← List.reverse_append, before_append_dropWhile, List.reverse_reverse]
  · rw [List.reverse_reverse]
    exact opensWith_dropWhile mark _
  · exact fun member => not_mem_before mark cs.reverse (List.mem_reverse.mp member)

end Cut

section Pieces

variable {mark : Char} {cs : List Char}

private theorem splitAtMark_eq (mark : Char) (current cs : List Char) :
    splitAtMark mark current cs = List.splitOnPPrepend (fun c => c == mark) cs current := by
  induction cs generalizing current with
  | nil => rw [splitAtMark, List.splitOnPPrepend_nil]
  | cons c rest ih =>
    rw [splitAtMark, List.splitOnPPrepend_cons_eq_if, ih, ih, List.splitOnPPrepend_nil_right]
    simp only [beq_iff_eq]

private theorem pieces_eq_splitOn (mark : Char) (cs : List Char) :
    pieces mark cs = cs.splitOn mark :=
  splitAtMark_eq mark [] cs

theorem pieces_ne_nil (mark : Char) (cs : List Char) : pieces mark cs ≠ [] := by
  rw [pieces_eq_splitOn]
  exact List.splitOn_ne_nil mark cs

theorem intercalate_pieces (mark : Char) (cs : List Char) :
    [mark].intercalate (pieces mark cs) = cs := by
  rw [pieces_eq_splitOn, List.intercalate_splitOn]

theorem pieces_intercalate {parts : List (List Char)} (plain : ∀ part ∈ parts, mark ∉ part)
    (nonempty : parts ≠ []) : pieces mark ([mark].intercalate parts) = parts := by
  rw [pieces_eq_splitOn, List.splitOn_intercalate mark plain nonempty]

theorem pieces_of_not_mem (plain : mark ∉ cs) : pieces mark cs = [cs] := by
  rw [pieces_eq_splitOn, List.splitOn_eq_singleton plain]

theorem pieces_append_mark (mark : Char) (front back : List Char) :
    pieces mark (front ++ mark :: back) = pieces mark front ++ pieces mark back := by
  simp only [pieces_eq_splitOn, List.splitOn_append_cons_self]

private theorem not_mem_of_mem_splitAtMark {current piece : List Char} (plain : mark ∉ current)
    (member : piece ∈ splitAtMark mark current cs) : mark ∉ piece := by
  induction cs generalizing current with
  | nil =>
    obtain rfl := List.mem_singleton.mp member
    exact fun inside => plain (List.mem_reverse.mp inside)
  | cons c rest ih =>
    rw [splitAtMark] at member
    split at member
    · rcases List.mem_cons.mp member with rfl | later
      · exact fun inside => plain (List.mem_reverse.mp inside)
      · exact ih List.not_mem_nil later
    · rename_i differs
      refine ih (fun inside => ?_) member
      rcases List.mem_cons.mp inside with rfl | before
      · exact differs rfl
      · exact plain before

theorem not_mem_of_mem_pieces {piece : List Char} (member : piece ∈ pieces mark cs) :
    mark ∉ piece :=
  not_mem_of_mem_splitAtMark List.not_mem_nil member

end Pieces

end TypedRecords.Text
