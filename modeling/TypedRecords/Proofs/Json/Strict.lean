import TypedRecords.Json.Strict
import TypedRecords.Proofs.Json.Reading

/-!
Values as JSON knows them.  There is such a form unless a moment within the value has an offset that
cannot be written, and the form consists of what JSON has.
-/

set_option autoImplicit false

namespace TypedRecords.Json

open TypedRecords.Traversal (exists_mem_of_forall₂)
open TypedRecords.Value (Within)

inductive IsJson : Value → Prop
  | null : IsJson .null
  | bool (b : Bool) : IsJson (.bool b)
  | int (n : Int) : IsJson (.int n)
  | float {x : Numeric.Double} : x.isFinite = true → IsJson (.float x)
  | text (s : String) : IsJson (.text s)
  | list (items : List Value) : IsJson (.list items)
  | object (fields : Fields) : IsJson (.object fields)

/-- The kinds of value in records: those that reading gives, and those that coercion makes. -/
inductive IsRecorded : Value → Prop
  | decoded {value : Value} : IsDecoded value → IsRecorded value
  | moment (m : Calendar.Moment) : IsRecorded (.moment m)
  | currency (c : Currency) : IsRecorded (.currency c)
  | entity (e : Entity) : IsRecorded (.entity e)
  | location (l : Location) : IsRecorded (.location l)

/-- Somewhere in the value there is a moment whose offset cannot be written. -/
def HasUnwritable (value : Value) : Prop :=
  ∃ m : Calendar.Moment, Within (.moment m) value ∧ m.hasWritableOffset = false

section Lists

private theorem strictItems?_eq_none_iff {items : List Value} :
    strictItems? items = none ↔ ∃ item ∈ items, strict? item = none := by
  induction items with
  | nil => simp [strictItems?]
  | cons item rest ih =>
    simp only [strictItems?, List.exists_mem_cons_iff, ← ih]
    cases strict? item <;> simp

theorem strictItems?_eq_some {items results : List Value}
    (found : strictItems? items = some results) :
    List.Forall₂ (fun item result => strict? item = some result) items results := by
  induction items generalizing results with
  | nil =>
    obtain rfl := Option.some.inj found
    exact .nil
  | cons item rest ih =>
    obtain ⟨first, head, more⟩ := Option.bind_eq_some_iff.mp found
    obtain ⟨later, tail, rfl⟩ := Option.map_eq_some_iff.mp more
    exact .cons head (ih tail)

private theorem strictFields?_eq_none_iff {fields : List (String × Value)} :
    strictFields? fields = none ↔ ∃ field ∈ fields, strict? field.2 = none := by
  induction fields with
  | nil => simp [strictFields?]
  | cons field rest ih =>
    simp only [strictFields?, List.exists_mem_cons_iff, ← ih]
    cases strict? field.2 <;> simp

theorem strictFields?_eq_some {fields results : List (String × Value)}
    (found : strictFields? fields = some results) :
    List.Forall₂ (fun field result => field.1 = result.1 ∧ strict? field.2 = some result.2)
      fields results := by
  induction fields generalizing results with
  | nil =>
    obtain rfl := Option.some.inj found
    exact .nil
  | cons field rest ih =>
    obtain ⟨first, head, more⟩ := Option.bind_eq_some_iff.mp found
    obtain ⟨later, tail, rfl⟩ := Option.map_eq_some_iff.mp more
    exact .cons ⟨rfl, head⟩ (ih tail)

end Lists

@[simp] private theorem hasUnwritable_list_iff {items : List Value} :
    HasUnwritable (.list items) ↔ ∃ item ∈ items, HasUnwritable item := by
  simp only [HasUnwritable, Value.within_list_iff]
  constructor
  · rintro ⟨m, none | ⟨item, member, within⟩, unwritable⟩
    · cases none
    · exact ⟨item, member, m, within, unwritable⟩
  · rintro ⟨item, member, m, within, unwritable⟩
    exact ⟨m, Or.inr ⟨item, member, within⟩, unwritable⟩

@[simp] private theorem hasUnwritable_object_iff {fields : Fields} :
    HasUnwritable (.object fields) ↔ ∃ field ∈ fields, HasUnwritable field.2 := by
  simp only [HasUnwritable, Value.within_object_iff]
  constructor
  · rintro ⟨m, none | ⟨field, member, within⟩, unwritable⟩
    · cases none
    · exact ⟨field, member, m, within, unwritable⟩
  · rintro ⟨field, member, m, within, unwritable⟩
    exact ⟨m, Or.inr ⟨field, member, within⟩, unwritable⟩

/-- A value is without a form in JSON just where a moment in it has an offset that cannot be
written. -/
theorem strict?_eq_none_iff {value : Value} : strict? value = none ↔ HasUnwritable value := by
  induction value using Value.induction with
  | leaf value leaf =>
    simp only [HasUnwritable, Value.within_leaf_iff leaf]
    cases leaf <;> simp [strict?]
  | list items ih =>
    rw [strict?, Option.map_eq_none_iff, strictItems?_eq_none_iff, hasUnwritable_list_iff]
    exact exists_congr fun item => and_congr_right fun member => ih item member
  | object fields ih =>
    rw [strict?, Option.map_eq_none_iff, strictFields?_eq_none_iff, hasUnwritable_object_iff]
    exact exists_congr fun field => and_congr_right fun member => ih field member

/-- Kinds of value in values and in their forms in JSON: leaves that are their own forms are carried
over, and the forms have what takes the place of the others. -/
structure OfForms (given made : Value → Prop) : Prop where
  null : made .null
  float : ∀ x : Numeric.Double, x.isFinite = true → made (.float x)
  text : ∀ s, made (.text s)
  list : ∀ items, made (.list items)
  object : ∀ fields, made (.object fields)
  unchanged : ∀ value, value.IsLeaf → given value → strict? value = some value → made value

section Forms

variable {given made : Value → Prop} (forms : OfForms given made) {value result : Value}

include forms

@[simp] private theorem strictNumber_throughout (x : Numeric.Double) :
    (strictNumber x).Throughout made := by
  unfold strictNumber
  split
  · rename_i finite
    exact (Value.throughout_leaf_iff (.float x)).mpr (forms.float x finite)
  · exact (Value.throughout_leaf_iff .null).mpr forms.null

@[simp] private theorem text_throughout (s : String) : (Value.text s).Throughout made :=
  (Value.throughout_leaf_iff (.text s)).mpr (forms.text s)

@[simp] private theorem strictText_throughout (text : Option String) :
    (strictText text).Throughout made := by
  cases text with
  | none => exact (Value.throughout_leaf_iff .null).mpr forms.null
  | some s => exact text_throughout forms s

private theorem object_throughout {fields : Fields}
    (parts : ∀ field ∈ fields, field.2.Throughout made) : (Value.object fields).Throughout made :=
  Value.throughout_object_iff.mpr ⟨forms.object fields, parts⟩

private theorem strict?_leaf_throughout (leaf : value.IsLeaf) (own : given value)
    (found : strict? value = some result) : result.Throughout made := by
  have same (passed : strict? value = some value) : result.Throughout made := by
    obtain rfl := Option.some.inj (found.symm.trans passed)
    exact (Value.throughout_leaf_iff leaf).mpr (forms.unchanged _ leaf own passed)
  cases leaf with
  | float x =>
    obtain rfl := Option.some.inj found
    exact strictNumber_throughout forms x
  | moment m =>
    rw [strict?] at found
    split at found
    · obtain rfl := Option.some.inj found
      exact text_throughout forms _
    · cases found
  | currency c =>
    obtain rfl := Option.some.inj found
    exact object_throughout forms (by simp [text_throughout forms, strictNumber_throughout forms])
  | entity e =>
    obtain rfl := Option.some.inj found
    exact object_throughout forms (by simp [text_throughout forms, strictText_throughout forms])
  | location l =>
    obtain rfl := Option.some.inj found
    exact object_throughout forms
      (by simp [strictNumber_throughout forms, strictText_throughout forms])
  | _ => exact same rfl

theorem strict?_throughout (all : value.Throughout given) (found : strict? value = some result) :
    result.Throughout made := by
  induction value using Value.induction generalizing result with
  | leaf value leaf =>
    exact strict?_leaf_throughout forms leaf ((Value.throughout_leaf_iff leaf).mp all) found
  | list items ih =>
    obtain ⟨results, pairs, rfl⟩ := Option.map_eq_some_iff.mp found
    have inner := (Value.throughout_list_iff.mp all).2
    refine Value.throughout_list_iff.mpr ⟨forms.list results, fun made member => ?_⟩
    obtain ⟨item, origin, same⟩ :=
      exists_mem_of_forall₂ (strictItems?_eq_some pairs).flip member
    exact ih item origin (inner item origin) same
  | object fields ih =>
    obtain ⟨results, pairs, rfl⟩ := Option.map_eq_some_iff.mp found
    have inner := (Value.throughout_object_iff.mp all).2
    refine object_throughout forms fun made member => ?_
    obtain ⟨field, origin, -, same⟩ :=
      exists_mem_of_forall₂ (strictFields?_eq_some pairs).flip member
    exact ih field origin (inner field origin) same

end Forms

private theorem isJson_of_unchanged {value : Value} (leaf : value.IsLeaf)
    (recorded : IsRecorded value) (same : strict? value = some value) : IsJson value := by
  cases leaf with
  | null => exact .null
  | bool b => exact .bool b
  | int n => exact .int n
  | text s => exact .text s
  | float x =>
    cases finite : x.isFinite with
    | true => exact .float finite
    | false => simp [strict?, strictNumber, finite] at same
  | date d =>
    cases recorded with
    | decoded plain => cases plain
  | time t =>
    cases recorded with
    | decoded plain => cases plain
  | _ => simp [strict?] at same

private theorem ofForms_isJson : OfForms IsRecorded IsJson where
  null := .null
  float := fun _ => .float
  text := .text
  list := .list
  object := .object
  unchanged := fun _ => isJson_of_unchanged

theorem strict?_isJson {value result : Value} (recorded : value.Throughout IsRecorded)
    (found : strict? value = some result) : result.Throughout IsJson :=
  strict?_throughout ofForms_isJson recorded found

end TypedRecords.Json
