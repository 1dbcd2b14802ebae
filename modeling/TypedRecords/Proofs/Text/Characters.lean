import TypedRecords.Text.CodePoint

/-!
Texts whose characters are all of one kind.  What is put together from such texts is such a text.
-/

set_option autoImplicit false

namespace TypedRecords.Text

def Consists (kind : Char → Bool) (text : String) : Prop :=
  ∀ c ∈ text.toList, kind c = true

section Consists

variable {kind : Char → Bool} {front back : String}

instance (text : String) : Decidable (Consists kind text) :=
  decidable_of_iff (text.toList.all kind = true) List.all_eq_true

@[simp] theorem consists_append :
    Consists kind (front ++ back) ↔ Consists kind front ∧ Consists kind back := by
  simp only [Consists, String.toList_append, List.forall_mem_append]

@[simp] theorem consists_ofList {cs : List Char} :
    Consists kind (String.ofList cs) ↔ ∀ c ∈ cs, kind c = true := by
  rw [Consists, String.toList_ofList]

theorem Consists.ite {condition : Prop} [Decidable condition] (first : Consists kind front)
    (second : Consists kind back) : Consists kind (if condition then front else back) := by
  split
  · exact first
  · exact second

theorem Consists.join {parts : List String} (all : ∀ part ∈ parts, Consists kind part) :
    Consists kind (String.join parts) := by
  intro c member
  rw [String.toList_join] at member
  obtain ⟨part, origin, within⟩ := List.mem_flatMap.mp member
  exact all part origin c within

theorem Consists.intercalate {separator : String} {parts : List String}
    (own : Consists kind separator) (all : ∀ part ∈ parts, Consists kind part) :
    Consists kind (separator.intercalate parts) := by
  induction parts with
  | nil => exact nofun
  | cons part rest ih =>
    obtain ⟨head, tail⟩ := List.forall_mem_cons.mp all
    cases rest with
    | nil => rwa [String.intercalate_singleton]
    | cons next rest =>
      rw [String.intercalate_cons_cons, consists_append, consists_append]
      exact ⟨⟨head, own⟩, ih tail⟩

end Consists

def isAscii (c : Char) : Bool :=
  c.toNat < 0x80

/-- A character other than the one that begins a sequence for a terminal. -/
def isUnescaped (c : Char) : Bool :=
  c != '\x1b'

end TypedRecords.Text
