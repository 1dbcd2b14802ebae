import Mathlib.Data.List.Induction
import TypedRecords.Proofs.Value.Fields

/-!
Pairs in which a name may stand more than once, and the fields that are filled from them one pair
after the other: every name has one field, where the first pair of the name came, with the value of
the last one.
-/

set_option autoImplicit false

namespace TypedRecords.Fields

def IsFirst (pairs : List (String × Value)) (name : String) (value : Value) : Prop :=
  ∃ before after, pairs = before ++ (name, value) :: after ∧ ∀ earlier ∈ before, earlier.1 ≠ name

def IsLast (pairs : List (String × Value)) (name : String) (value : Value) : Prop :=
  ∃ before after, pairs = before ++ (name, value) :: after ∧ ∀ later ∈ after, later.1 ≠ name

variable {pairs : List (String × Value)} {name : String} {value : Value}

section Occurrence

theorem get?_eq_some_iff_isFirst : get? pairs name = some value ↔ IsFirst pairs name value := by
  unfold get? IsFirst
  rw [Option.map_eq_some_iff]
  constructor
  · rintro ⟨pair, found, rfl⟩
    obtain ⟨named, before, after, split, others⟩ := List.find?_eq_some_iff_append.mp found
    obtain rfl : pair.1 = name := by simpa using named
    exact ⟨before, after, split, fun earlier member => by simpa using others earlier member⟩
  · rintro ⟨before, after, split, others⟩
    refine ⟨(name, value), List.find?_eq_some_iff_append.mpr ?_, rfl⟩
    refine ⟨by simp, before, after, split, fun earlier member => ?_⟩
    simpa using others earlier member

theorem get?_eq_none_iff : get? pairs name = none ↔ ∀ pair ∈ pairs, pair.1 ≠ name := by
  simp [get?, List.find?_eq_none]

private theorem isFirst_reverse_iff :
    IsFirst pairs.reverse name value ↔ IsLast pairs name value := by
  constructor
  · rintro ⟨before, after, split, others⟩
    refine ⟨after.reverse, before.reverse, ?_, by simpa using others⟩
    rw [← List.reverse_reverse pairs, split]
    simp
  · rintro ⟨before, after, rfl, others⟩
    exact ⟨after.reverse, before.reverse, by simp, by simpa using others⟩

private theorem get?_reverse_eq_some_iff :
    get? pairs.reverse name = some value ↔ IsLast pairs name value :=
  get?_eq_some_iff_isFirst.trans isFirst_reverse_iff

theorem IsFirst.mem (first : IsFirst pairs name value) : (name, value) ∈ pairs := by
  obtain ⟨before, after, rfl, -⟩ := first
  simp

theorem IsLast.mem (last : IsLast pairs name value) : (name, value) ∈ pairs :=
  List.mem_reverse.mp (isFirst_reverse_iff.mpr last).mem

end Occurrence

section Filling

private theorem ofPairs_concat (pairs : List (String × Value)) (pair : String × Value) :
    ofPairs (pairs ++ [pair]) = Named.put pair.1 pair.2 (ofPairs pairs) := by
  simp [ofPairs, Named.putAll]

private theorem names_put (name : String) (value : Value) (fields : Fields) :
    (Named.put name value fields).map Prod.fst =
      if name ∈ fields.map Prod.fst then fields.map Prod.fst
      else fields.map Prod.fst ++ [name] := by
  induction fields with
  | nil => simp [Named.put]
  | cons field rest ih =>
    unfold Named.put
    by_cases here : field.1 = name
    · simp [here]
    · rw [if_neg (by simpa using here), List.map_cons, ih]
      simp only [List.map_cons, List.mem_cons, Ne.symm here, false_or]
      split <;> rfl

theorem names_ofPairs (pairs : List (String × Value)) :
    (ofPairs pairs).map Prod.fst = (pairs.map Prod.fst).eraseDups := by
  -- From the end, since the fields are filled from the front: each step sets one field more.
  induction pairs using List.reverseRecOn with
  | nil => rfl
  | append_singleton pairs pair ih =>
    rw [ofPairs_concat, names_put, ih, List.map_append, List.eraseDups_append]
    simp only [List.mem_eraseDups, List.map_cons, List.map_nil, List.removeAll]
    by_cases known : pair.1 ∈ pairs.map Prod.fst
    · rw [if_pos known]
      simp [known]
    · rw [if_neg known]
      simp [known, List.eraseDups_cons]

theorem nodup_names_ofPairs (pairs : List (String × Value)) :
    ((ofPairs pairs).map Prod.fst).Nodup := by
  induction pairs using List.reverseRecOn with
  | nil => exact List.nodup_nil
  | append_singleton pairs pair ih =>
    rw [ofPairs_concat, names_put]
    split
    · exact ih
    · rename_i fresh
      rw [← List.concat_eq_append]
      exact ih.concat fresh

theorem get?_ofPairs (pairs : List (String × Value)) (name : String) :
    get? (ofPairs pairs) name = get? pairs.reverse name := by
  rw [ofPairs, get?_putAll]
  exact Option.or_none

theorem get?_ofPairs_eq_some_iff :
    get? (ofPairs pairs) name = some value ↔ IsLast pairs name value := by
  rw [get?_ofPairs, get?_reverse_eq_some_iff]

theorem mem_ofPairs_iff : (name, value) ∈ ofPairs pairs ↔ IsLast pairs name value := by
  rw [← get?_eq_some_iff (nodup_names_ofPairs pairs), get?_ofPairs_eq_some_iff]

end Filling

end TypedRecords.Fields
