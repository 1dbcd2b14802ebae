import TypedRecords.Proofs.Text.SmallForms

/-!
Marks in small forms.  The code points of small letters come behind those of the marks, so a mark
stands in a small form only where it stands in the text; and full stops at the end of a text, which
are passed over when the form of a sigma is chosen, are behind its small form as they are.
-/

set_option autoImplicit false

namespace TypedRecords.Text.Case

def firstSmall : Nat := 0x61

private theorem firstSmall_le_of_mem : ∀ run ∈ lowerRuns, firstSmall ≤ run.counterpart.first := by
  decide +kernel

section Marks

variable {before cs small tail : List Char} {c d : Char}

private theorem Lowered.eq_of_lt (lowered : Lowered c small) (member : d ∈ small)
    (mark : d.toNat < firstSmall) : d = c := by
  have apart {other : Char} (letter : firstSmall ≤ other.toNat) (same : d = other) : d = c := by
    rw [same] at mark
    exact absurd letter (Nat.not_le.mpr mark)
  cases lowered with
  | dotted =>
    rcases List.mem_cons.mp member with first | rest
    · exact apart (by decide) first
    · exact apart (by decide) (List.mem_singleton.mp rest)
  | sigma _ either =>
    obtain rfl := List.mem_singleton.mp member
    rcases List.mem_cons.mp either with final | rest
    · exact apart (by decide) final
    · exact apart (by decide) (List.mem_singleton.mp rest)
  | moved _ held _ there =>
    obtain rfl := List.mem_singleton.mp member
    exact apart (Nat.le_trans (firstSmall_le_of_mem _ held) there.1) rfl
  | same => exact List.mem_singleton.mp member

theorem mem_of_mem_lowerAfter (mark : d.toNat < firstSmall) (member : d ∈ lowerAfter before cs) :
    d ∈ cs := by
  induction cs generalizing before with
  | nil => cases member
  | cons c after ih =>
    rcases List.mem_append.mp member with first | later
    · have same := (lowered_lowerChar before c after).eq_of_lt first mark
      exact same ▸ List.mem_cons_self
    · exact List.mem_cons_of_mem _ (ih later)

/-- Whether a character is passed over when the form of a sigma is chosen. -/
def isIgnorable (c : Char) : Bool :=
  inRanges c.toNat ignorableRanges

private theorem nearestIsCased_eq (cs : List Char) :
    nearestIsCased cs =
      (cs.dropWhile isIgnorable).head?.any fun c => inRanges c.toNat casedRanges := by
  unfold nearestIsCased
  change _ = (cs.dropWhile fun c => inRanges c.toNat ignorableRanges).head?.any _
  cases cs.dropWhile fun c => inRanges c.toNat ignorableRanges <;> rfl

private theorem nearestIsCased_append (ignorable : ∀ c ∈ tail, isIgnorable c = true) :
    nearestIsCased (cs ++ tail) = nearestIsCased cs := by
  have passed : tail.dropWhile isIgnorable = [] := by
    have nothing : (tail ++ []).dropWhile isIgnorable = List.dropWhile isIgnorable [] :=
      List.dropWhile_append_of_pos ignorable
    rwa [List.append_nil] at nothing
  rw [nearestIsCased_eq, nearestIsCased_eq, List.dropWhile_append, passed]
  cases cs.dropWhile isIgnorable <;> simp

private theorem lowerChar_append (ignorable : ∀ c ∈ tail, isIgnorable c = true)
    (after : List Char) :
    lowerChar before c (after ++ tail) = lowerChar before c after := by
  rw [lowerChar, lowerChar, nearestIsCased_append ignorable]

private theorem lowerAfter_append (ignorable : ∀ c ∈ tail, isIgnorable c = true)
    (small : ∀ c ∈ tail, IsSmall c) : lowerAfter before (cs ++ tail) =
      lowerAfter before cs ++ tail := by
  induction cs generalizing before with
  | nil => exact lowerAfter_of_isSmall small
  | cons c after ih =>
    rw [List.cons_append, lowerAfter, lowerChar_append ignorable, ih, lowerAfter, List.append_assoc]

theorem lowerAfter_append_stops (before cs : List Char) (stops : Nat) :
    lowerAfter before (cs ++ List.replicate stops '.') =
      lowerAfter before cs ++ List.replicate stops '.' := by
  have small : IsSmall '.' := isSmall_of_single (by decide +kernel)
  have ignorable : isIgnorable '.' = true := by decide +kernel
  refine lowerAfter_append (fun c member => ?_) fun c member => ?_
  · rw [List.eq_of_mem_replicate member]
    exact ignorable
  · rw [List.eq_of_mem_replicate member]
    exact small

end Marks

end TypedRecords.Text.Case
