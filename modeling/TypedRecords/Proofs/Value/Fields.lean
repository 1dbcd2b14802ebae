import Mathlib.Data.List.Nodup
import TypedRecords.Value.Basic

/-!
Fields by name: the first of a name is found, and where no name occurs twice, a field is found by
its name wherever it stands.
-/

set_option autoImplicit false

namespace TypedRecords.Fields

theorem get?_cons (field : String × Value) (rest : Fields) (name : String) :
    get? (field :: rest) name = if field.1 = name then some field.2 else get? rest name := by
  unfold get?
  by_cases same : field.1 = name <;> simp [same]

@[simp] private theorem get?_append (front back : Fields) (name : String) :
    get? (front ++ back) name = (get? front name).or (get? back name) := by
  simp only [get?, List.find?_append]
  cases front.find? fun field => field.1 == name <;> rfl

theorem has_eq_isSome (fields : Fields) (name : String) :
    has fields name = (get? fields name).isSome := by
  induction fields with
  | nil => rfl
  | cons field rest ih =>
    rw [get?_cons, has, List.any_cons, ← has, ih]
    by_cases same : field.1 = name <;> simp [same]

theorem mem_of_get? {fields : Fields} {name : String} {value : Value}
    (found : get? fields name = some value) : ∃ field ∈ fields, field.2 = value := by
  obtain ⟨field, first, rfl⟩ := Option.map_eq_some_iff.mp found
  exact ⟨field, List.mem_of_find?_eq_some first, rfl⟩

theorem get?_of_mem {fields : Fields} {name : String} {value : Value}
    (distinct : (fields.map Prod.fst).Nodup) (member : (name, value) ∈ fields) :
    get? fields name = some value := by
  induction fields with
  | nil => cases member
  | cons field rest ih =>
    obtain ⟨fresh, others⟩ := List.nodup_cons.mp distinct
    rw [get?_cons]
    rcases List.mem_cons.mp member with rfl | later
    · exact if_pos rfl
    · have differs : field.1 ≠ name := by
        rintro rfl
        exact fresh (List.mem_map.mpr ⟨_, later, rfl⟩)
      rw [if_neg differs]
      exact ih others later

theorem get?_eq_some_iff {fields : Fields} (distinct : (fields.map Prod.fst).Nodup)
    {name : String} {value : Value} : get? fields name = some value ↔ (name, value) ∈ fields := by
  refine ⟨fun found => ?_, get?_of_mem distinct⟩
  obtain ⟨field, first, rfl⟩ := Option.map_eq_some_iff.mp found
  have named : field.1 = name := by simpa using List.find?_some first
  exact named ▸ List.mem_of_find?_eq_some first

/-- Where no name occurs twice, a field is found among those of a kind when it is of this kind. -/
theorem get?_filter {fields : Fields} (distinct : (fields.map Prod.fst).Nodup)
    (kind : Value → Bool) (name : String) :
    get? (fields.filter fun field => kind field.2) name = (get? fields name).filter kind := by
  have kept : ((fields.filter fun field => kind field.2).map Prod.fst).Nodup :=
    distinct.sublist (List.filter_sublist.map Prod.fst)
  ext value
  rw [get?_eq_some_iff kept, List.mem_filter, Option.filter_eq_some_iff,
    get?_eq_some_iff distinct]

theorem get?_reverse {fields : Fields} (distinct : (fields.map Prod.fst).Nodup) (name : String) :
    get? fields.reverse name = get? fields name := by
  have backwards : (fields.reverse.map Prod.fst).Nodup := by
    rw [List.map_reverse]
    exact List.nodup_reverse.mpr distinct
  ext value
  rw [get?_eq_some_iff backwards, List.mem_reverse, get?_eq_some_iff distinct]

private theorem get?_put (name : String) (value : Value) (fields : Fields) (other : String) :
    get? (Named.put name value fields) other =
      if name = other then some value else get? fields other := by
  induction fields with
  | nil => simp [Named.put, get?_cons]
  | cons field rest ih =>
    unfold Named.put
    by_cases here : field.1 = name
    · subst here
      simp only [beq_self_eq_true, if_true, get?_cons]
      split <;> rfl
    · rw [if_neg (by simpa using here), get?_cons, get?_cons, ih]
      split
      · rename_i found
        rw [if_neg fun same => here (found.trans same.symm)]
      · rfl

/-- Of fields that are set one after the other the last of a name is found, and where there is none,
what was there before. -/
theorem get?_putAll (fields pairs : Fields) (name : String) :
    get? (Named.putAll fields pairs) name =
      (get? pairs.reverse name).or (get? fields name) := by
  unfold Named.putAll
  induction pairs generalizing fields with
  | nil => rfl
  | cons pair rest ih =>
    rw [List.foldl_cons, ih, get?_put, List.reverse_cons, get?_append, Option.or_assoc, get?_cons]
    split <;> rfl

end TypedRecords.Fields
