import Mathlib.Data.List.DropRight
import TypedRecords.Text.Blank

/-!
Runs of characters of one class at the front of a text, and where they end; and what is left of a
text when such runs are cut off at both of its ends.
-/

set_option autoImplicit false

namespace TypedRecords.Text

def Leaves (within : Char → Bool) (cs : List Char) : Prop :=
  ∀ c rest, cs = c :: rest → within c = false

@[simp] theorem leaves_nil (within : Char → Bool) : Leaves within [] := by
  intro c rest next
  cases next

theorem leaves_cons {within : Char → Bool} {c : Char} (outside : within c = false)
    (rest : List Char) : Leaves within (c :: rest) := by
  intro first more next
  obtain ⟨rfl, -⟩ := List.cons.inj next
  exact outside

theorem leaves_append {within : Char → Bool} {front rest : List Char}
    (outside : ∀ c ∈ front, within c = false) (leaves : Leaves within rest) :
    Leaves within (front ++ rest) := by
  cases front with
  | nil => exact leaves
  | cons first front => exact leaves_cons (outside first List.mem_cons_self) _

theorem leaves_dropWhile (within : Char → Bool) (cs : List Char) :
    Leaves within (cs.dropWhile within) := by
  intro c rest next
  have head := List.head?_dropWhile_not within cs
  rw [next] at head
  exact head

private theorem leaves_of_prefix {within : Char → Bool} {front cs : List Char}
    (leaves : Leaves within cs) (start : front <+: cs) : Leaves within front := by
  obtain ⟨back, rfl⟩ := start
  intro c rest next
  exact leaves c (rest ++ back) (by rw [next, List.cons_append])

theorem takeWhile_append_of_leaves {within : Char → Bool} {front rest : List Char}
    (all : ∀ c ∈ front, within c = true) (leaves : Leaves within rest) :
    (front ++ rest).takeWhile within = front := by
  rw [List.takeWhile_append_of_pos all]
  cases rest with
  | nil => simp
  | cons c rest => simp [leaves c rest rfl]

theorem dropWhile_append_of_leaves {within : Char → Bool} {front rest : List Char}
    (all : ∀ c ∈ front, within c = true) (leaves : Leaves within rest) :
    (front ++ rest).dropWhile within = rest := by
  rw [List.dropWhile_append_of_pos all]
  cases rest with
  | nil => rfl
  | cons c rest => simp [leaves c rest rfl]

private theorem dropWhile_of_leaves {within : Char → Bool} {cs : List Char}
    (leaves : Leaves within cs) :
    cs.dropWhile within = cs := by
  have nothing : ∀ c ∈ ([] : List Char), within c = true := by simp
  exact dropWhile_append_of_leaves nothing leaves

section Strip

variable (cut : Char → Bool) (cs : List Char)

private theorem stripWhere_eq : stripWhere cut cs = (cs.dropWhile cut).rdropWhile cut :=
  rfl

theorem exists_ends_of_stripWhere :
    ∃ front back, cs = front ++ stripWhere cut cs ++ back ∧
      (∀ c ∈ front, cut c = true) ∧ ∀ c ∈ back, cut c = true := by
  refine ⟨cs.takeWhile cut, (cs.dropWhile cut).rtakeWhile cut, ?_,
    List.all_eq_true.mp List.all_takeWhile, fun c member => List.mem_rtakeWhile_imp member⟩
  rw [stripWhere_eq, List.append_assoc, List.rdropWhile_append_rtakeWhile,
    List.takeWhile_append_dropWhile]

@[simp] theorem stripWhere_stripWhere : stripWhere cut (stripWhere cut cs) = stripWhere cut cs := by
  have front : Leaves cut (stripWhere cut cs) :=
    leaves_of_prefix (leaves_dropWhile cut cs) (List.rdropWhile_prefix cut _)
  rw [stripWhere_eq cut (stripWhere cut cs), dropWhile_of_leaves front, stripWhere_eq,
    List.rdropWhile_idempotent]

theorem stripWhere_of_forall {cut : Char → Bool} {cs : List Char}
    (kept : ∀ c ∈ cs, cut c = false) : stripWhere cut cs = cs := by
  have front : Leaves cut cs := fun c rest same => kept c (by simp [same])
  rw [stripWhere_eq, dropWhile_of_leaves front, List.rdropWhile_eq_self_iff]
  intro nonempty last
  rw [kept _ (List.getLast_mem nonempty)] at last
  cases last

end Strip

end TypedRecords.Text
