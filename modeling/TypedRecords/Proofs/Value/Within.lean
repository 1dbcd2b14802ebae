import Mathlib.Data.List.Basic
import TypedRecords.Value.Basic

/-!
The values within a value: itself, the items of its lists and the fields of its objects, to any
depth.  A value is of some kind throughout when all values within it are.
-/

set_option autoImplicit false

namespace TypedRecords.Value

/-- A value lies within another: it is the other, or lies within an item or a field. -/
inductive Within (part : Value) : Value → Prop
  | here : Within part part
  | item {items : List Value} {item : Value} : item ∈ items → Within part item →
      Within part (.list items)
  | field {fields : Fields} {field : String × Value} : field ∈ fields → Within part field.2 →
      Within part (.object fields)

def Throughout (kind : Value → Prop) (value : Value) : Prop :=
  ∀ part, Within part value → kind part

inductive IsLeaf : Value → Prop
  | null : IsLeaf .null
  | bool (b : Bool) : IsLeaf (.bool b)
  | int (n : Int) : IsLeaf (.int n)
  | float (x : Numeric.Double) : IsLeaf (.float x)
  | text (s : String) : IsLeaf (.text s)
  | date (d : Calendar.Date) : IsLeaf (.date d)
  | time (t : Calendar.TimeOfDay) : IsLeaf (.time t)
  | moment (m : Calendar.Moment) : IsLeaf (.moment m)
  | currency (c : Currency) : IsLeaf (.currency c)
  | entity (e : Entity) : IsLeaf (.entity e)
  | location (l : Location) : IsLeaf (.location l)

/-- What holds of leaves, of lists when of their items and of objects when of their fields, holds of
all values. -/
theorem induction {motive : Value → Prop} (leaf : ∀ value, IsLeaf value → motive value)
    (list : ∀ items : List Value, (∀ item ∈ items, motive item) → motive (.list items))
    (object : ∀ fields : Fields, (∀ field ∈ fields, motive field.2) → motive (.object fields))
    (value : Value) : motive value := by
  refine Value.rec (motive_1 := motive) (motive_2 := fun items => ∀ item ∈ items, motive item)
    (motive_3 := fun fields => ∀ field ∈ fields, motive field.2)
    (motive_4 := fun field => motive field.2) (leaf _ .null) (fun b => leaf _ (.bool b))
    (fun n => leaf _ (.int n)) (fun x => leaf _ (.float x)) (fun s => leaf _ (.text s)) list object
    (fun d => leaf _ (.date d)) (fun t => leaf _ (.time t)) (fun m => leaf _ (.moment m))
    (fun c => leaf _ (.currency c)) (fun e => leaf _ (.entity e)) (fun l => leaf _ (.location l))
    ?_ ?_ ?_ ?_ ?_ value
  · simp
  · intro item rest head tail
    exact List.forall_mem_cons.mpr ⟨head, tail⟩
  · simp
  · intro field rest head tail
    exact List.forall_mem_cons.mpr ⟨head, tail⟩
  · intro name value holds
    exact holds

section Within

variable {part whole value : Value}

@[simp] theorem within_leaf_iff (leaf : IsLeaf value) : Within part value ↔ part = value := by
  constructor
  · intro within
    cases leaf <;> (cases within; rfl)
  · rintro rfl
    exact .here

@[simp] theorem within_list_iff {items : List Value} :
    Within part (.list items) ↔ part = .list items ∨ ∃ item ∈ items, Within part item := by
  constructor
  · rintro (_ | ⟨member, within⟩)
    · exact Or.inl rfl
    · exact Or.inr ⟨_, member, within⟩
  · rintro (rfl | ⟨item, member, within⟩)
    · exact .here
    · exact .item member within

@[simp] theorem within_object_iff {fields : Fields} :
    Within part (.object fields) ↔
      part = .object fields ∨ ∃ field ∈ fields, Within part field.2 := by
  constructor
  · rintro (_ | _ | ⟨member, within⟩)
    · exact Or.inl rfl
    · exact Or.inr ⟨_, member, within⟩
  · rintro (rfl | ⟨field, member, within⟩)
    · exact .here
    · exact .field member within

theorem Within.trans (inner : Within part whole) (outer : Within whole value) :
    Within part value := by
  induction outer with
  | here => exact inner
  | item member _ ih => exact .item member ih
  | field member _ ih => exact .field member ih

end Within

section Throughout

variable {kind : Value → Prop} {value : Value}

@[simp] theorem throughout_leaf_iff (leaf : IsLeaf value) : Throughout kind value ↔ kind value := by
  simp [Throughout, within_leaf_iff leaf]

@[simp] theorem throughout_list_iff {items : List Value} :
    Throughout kind (.list items) ↔ kind (.list items) ∧ ∀ item ∈ items, Throughout kind item := by
  simp only [Throughout, within_list_iff]
  constructor
  · intro all
    exact ⟨all _ (Or.inl rfl),
      fun item member part within => all part (Or.inr ⟨item, member, within⟩)⟩
  · rintro ⟨head, inner⟩ part (rfl | ⟨item, member, within⟩)
    · exact head
    · exact inner item member part within

@[simp] theorem throughout_object_iff {fields : Fields} :
    Throughout kind (.object fields) ↔
      kind (.object fields) ∧ ∀ field ∈ fields, Throughout kind field.2 := by
  simp only [Throughout, within_object_iff]
  constructor
  · intro all
    exact ⟨all _ (Or.inl rfl),
      fun field member part within => all part (Or.inr ⟨field, member, within⟩)⟩
  · rintro ⟨head, inner⟩ part (rfl | ⟨field, member, within⟩)
    · exact head
    · exact inner field member part within

theorem Throughout.mono {other : Value → Prop} (all : Throughout kind value)
    (imp : ∀ part, kind part → other part) : Throughout other value :=
  fun part within => imp part (all part within)

theorem Throughout.within {part : Value} (all : Throughout kind value)
    (inner : Within part value) : Throughout kind part :=
  fun deeper within => all deeper (within.trans inner)

end Throughout

end TypedRecords.Value
