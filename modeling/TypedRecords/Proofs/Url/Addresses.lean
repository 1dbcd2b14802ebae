import TypedRecords.Proofs.Text.SmallMarks
import TypedRecords.Proofs.Url.Labels

/-!
Addresses among hosts that have no colon.  Such an address is a short one, and it has no dot at its
end; with dots there it is a name, and one that counts as public.
-/

set_option autoImplicit false

namespace TypedRecords.Url

open TypedRecords.Text

def IsLocalAddress (host : List Char) : Prop :=
  ∃ n, short? host = some n ∧ (Address.short n).isGlobal = false

section Short

variable {cs part : List Char} {n : Nat}

private theorem exists_some_of_mapM {α β : Type} {f : α → Option β} {items : List α}
    {results : List β}
    (made : items.mapM f = some results) : ∀ item ∈ items, ∃ result, f item = some result := by
  induction items generalizing results with
  | nil => exact fun item member => absurd member List.not_mem_nil
  | cons first rest ih =>
    rw [List.mapM_cons] at made
    obtain ⟨result, head, more⟩ := Option.bind_eq_some_iff.mp made
    obtain ⟨others, tail, -⟩ := Option.bind_eq_some_iff.mp more
    exact List.forall_mem_cons.mpr ⟨⟨result, head⟩, ih tail⟩

private theorem byte?_eq_some (found : byte? part = some n) :
    part ≠ [] ∧ ∀ c ∈ part, isPlainDigit c = true := by
  unfold byte? at found
  split at found
  · cases found
  · rename_i kept
    simp only [not_or, Bool.not_eq_true, Bool.not_eq_false', List.isEmpty_eq_false_iff] at kept
    exact ⟨kept.1, List.all_eq_true.mp kept.2.1⟩

private theorem short?_eq_some (found : short? cs = some n) :
    (pieces '.' cs).length = 4 ∧
      ∀ part ∈ pieces '.' cs, part ≠ [] ∧ ∀ c ∈ part, isPlainDigit c = true := by
  unfold short? at found
  dsimp only at found
  split at found
  · rename_i four
    obtain ⟨bytes, made, -⟩ := Option.map_eq_some_iff.mp found
    refine ⟨four, fun part member => ?_⟩
    obtain ⟨byte, read⟩ := exists_some_of_mapM made part member
    exact byte?_eq_some read
  · cases found

theorem short?_append_dot (cs : List Char) (dots : Nat) :
    short? (cs ++ List.replicate (dots + 1) '.') = none := by
  cases found : short? (cs ++ List.replicate (dots + 1) '.') with
  | none => rfl
  | some n =>
    have last : [] ∈ pieces '.' (cs ++ List.replicate (dots + 1) '.') := by
      rw [List.replicate_succ', ← List.append_assoc, pieces_append_mark]
      exact List.mem_append_right _ (List.mem_singleton.mpr rfl)
    exact absurd rfl ((short?_eq_some found).2 [] last).1

private theorem longParts?_of_no_colon (plain : ':' ∉ cs) : longParts? cs = none := by
  unfold longParts?
  simp only [pieces_of_not_mem plain]
  rfl

theorem ofChars?_of_no_colon (plain : ':' ∉ cs) :
    Address.ofChars? cs = (short? cs).map Address.short := by
  have front : ':' ∉ Text.before '%' cs := by
    intro member
    exact plain (List.takeWhile_subset _ member)
  have none : long? cs = none := by
    unfold long?
    rw [longParts?_of_no_colon front]
    split <;> rfl
  unfold Address.ofChars?
  rw [none]
  cases short? cs <;> rfl

private theorem toList_lowerHost (cs : List Char) :
    (lowerHost cs).toList =
      Case.lowerAfter [] (before '%' cs) ++ cs.dropWhile fun c => c ≠ '%' := by
  rw [lowerHost, String.toList_append, Case.toList_lower, String.toList_ofList,
    String.toList_ofList]

theorem colon_not_mem_lowerHost (plain : ':' ∉ cs) : ':' ∉ (lowerHost cs).toList := by
  rw [toList_lowerHost]
  intro member
  rcases List.mem_append.mp member with small | zone
  · have own := Case.mem_of_mem_lowerAfter (by decide) small
    exact plain (List.takeWhile_subset _ own)
  · exact plain (List.dropWhile_subset _ zone)

private theorem toList_lowerHost_append {front back : List Char} (plain : '%' ∉ front)
    (opens : OpensWith '%' back) :
    (lowerHost (front ++ back)).toList = Case.lowerAfter [] front ++ back := by
  rw [toList_lowerHost, before_append plain opens, dropWhile_ne_append plain opens]

theorem toList_lowerHost_append_dots (cs : List Char) (dots : Nat) :
    (lowerHost (cs ++ List.replicate dots '.')).toList =
      (lowerHost cs).toList ++ List.replicate dots '.' := by
  by_cases zone : '%' ∈ cs
  · have plain := not_mem_before '%' cs
    rw [eq_before_behind zone, List.append_assoc, List.cons_append,
      toList_lowerHost_append plain (opensWith_cons '%' _),
      toList_lowerHost_append plain (opensWith_cons '%' _), List.append_assoc, List.cons_append]
  · have plain : '%' ∉ cs ++ List.replicate dots '.' := by
      intro member
      rcases List.mem_append.mp member with here | there
      · exact zone here
      · exact absurd (List.eq_of_mem_replicate there) (by decide)
    have whole := toList_lowerHost_append plain (opensWith_nil '%')
    have bare := toList_lowerHost_append zone (opensWith_nil '%')
    rw [List.append_nil, List.append_nil] at whole bare
    rw [whole, bare, Case.lowerAfter_append_stops]

private theorem not_isPlainDigit_of_mem_localLabels :
    ∀ label ∈ localLabels, label.toList.any isPlainDigit = false := by
  decide

private theorem isSmall_of_isPlainDigit {c : Char} (digit : isPlainDigit c = true) :
    Case.IsSmall c := by
  have small : Case.Run.isSmall ⟨0x30, 0x39, 1, 0⟩ = true := by decide +kernel
  obtain ⟨above, below⟩ : 0x30 ≤ c.toNat ∧ c.toNat ≤ 0x39 := by
    simpa [isPlainDigit, Char.le_def, UInt32.le_iff_toNat_le] using digit
  exact Case.isSmall_of_holds small ⟨above, below, Nat.mod_one _⟩

private theorem lower_digits (digits : ∀ c ∈ cs, isPlainDigit c = true) :
    Case.lower (String.ofList cs) = String.ofList cs := by
  have small : ∀ c ∈ cs, Case.IsSmall c := fun c member => isSmall_of_isPlainDigit (digits c member)
  rw [Case.lower, String.toList_ofList, Case.lowerAfter_of_isSmall small]

theorem exists_labelled_of_short (found : short? cs = some n) :
    ∃ front last, Labelled cs front last ∧ joined front last = cs ∧ front ≠ [] ∧ [] ∉ front ∧
      ∀ c ∈ last, isPlainDigit c = true := by
  obtain ⟨four, digits⟩ := short?_eq_some found
  obtain ⟨front, last, split⟩ :=
    (List.eq_nil_or_concat (pieces '.' cs)).resolve_left (pieces_ne_nil '.' cs)
  rw [List.concat_eq_append] at split
  have text : joined front last = cs := by rw [joined, ← split, intercalate_pieces]
  have whole : ∀ label ∈ front ++ [last], '.' ∉ label := fun label member =>
    not_mem_of_mem_pieces (split ▸ member)
  rw [split] at four digits
  obtain ⟨nonempty, plain⟩ := digits last (by simp)
  have several : front ≠ [] := by
    rintro rfl
    simp at four
  have present : [] ∉ front := fun member => (digits [] (by simp [member])).1 rfl
  exact ⟨front, last, ⟨whole, nonempty, 0, by simp [text]⟩, text, several, present, plain⟩

theorem isPublicName_of_short {host : String} (found : short? host.toList = some n) :
    isPublicName host = true := by
  obtain ⟨front, last, labelled, -, several, -, digits⟩ := exists_labelled_of_short found
  refine isPublicName_iff.mpr ⟨front, last, labelled, several, fun member => ?_⟩
  rw [lower_digits digits] at member
  obtain ⟨c, rest, rfl⟩ := List.exists_cons_of_ne_nil labelled.nonempty
  have letters := not_isPlainDigit_of_mem_localLabels _ member
  rw [String.toList_ofList, List.any_cons, digits c List.mem_cons_self] at letters
  cases letters

end Short

end TypedRecords.Url
