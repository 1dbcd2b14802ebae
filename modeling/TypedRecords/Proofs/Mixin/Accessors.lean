import TypedRecords.Mixin.Basic
import TypedRecords.Proofs.Value.Repetition

/-!
The two ways to the parameters of a mixin.  As a map, a name stands where it first came and has the
value that came last; a search comes to the value that came first.  Where a name is given more than
once, the map is what a search from the end would find.
-/

set_option autoImplicit false

namespace TypedRecords.Mixin.Invocation

open TypedRecords.Fields (IsFirst IsLast)

/-- The names of the parameters with the values that their expressions have. -/
def pairs (mixin : Invocation) : List (String × Value) :=
  mixin.params.map fun param => (param.name, param.value.native)

def reversed (mixin : Invocation) : Invocation :=
  { mixin with params := mixin.params.reverse }

def AllAlike (mixin : Invocation) (name : String) : Prop :=
  ∀ param ∈ mixin.params, ∀ other ∈ mixin.params, param.name = name → other.name = name →
    param.value.native = other.value.native

variable {mixin : Invocation} {name : String} {value : Value}

private theorem names_pairs (mixin : Invocation) :
    mixin.pairs.map Prod.fst = mixin.params.map Param.name :=
  List.map_map

private theorem pairs_reversed (mixin : Invocation) : mixin.reversed.pairs = mixin.pairs.reverse :=
  List.map_reverse

private theorem find_eq (mixin : Invocation) (name : String) :
    mixin.find name = (Fields.get? mixin.pairs name).getD .null := by
  unfold find Fields.get? pairs
  rw [List.find?_map, Option.map_map]
  change _ = (Option.map _ (mixin.params.find? fun param => param.name == name)).getD Value.null
  cases mixin.params.find? fun param => param.name == name <;> rfl

private theorem find_reversed (mixin : Invocation) (name : String) :
    mixin.reversed.find name = (Fields.get? mixin.args name).getD .null := by
  rw [find_eq, pairs_reversed, ← Fields.get?_ofPairs]
  rfl

private theorem find_eq_iff : mixin.find name = value ↔
    IsFirst mixin.pairs name value ∨
      (∀ param ∈ mixin.params, param.name ≠ name) ∧ value = .null := by
  rw [find_eq, ← Fields.get?_eq_some_iff_isFirst]
  have absent_iff : Fields.get? mixin.pairs name = none ↔
      ∀ param ∈ mixin.params, param.name ≠ name := by
    rw [Fields.get?_eq_none_iff]
    exact List.forall_mem_map
  rw [← absent_iff]
  cases Fields.get? mixin.pairs name <;> simp [eq_comm]

private theorem AllAlike.native_eq (alike : mixin.AllAlike name) {other : Value}
    (member : (name, value) ∈ mixin.pairs) (member' : (name, other) ∈ mixin.pairs) :
    value = other := by
  obtain ⟨param, there, same⟩ := List.mem_map.mp member
  obtain ⟨param', there', same'⟩ := List.mem_map.mp member'
  obtain ⟨named, rfl⟩ := Prod.mk.inj same
  obtain ⟨named', rfl⟩ := Prod.mk.inj same'
  exact alike param there param' there' named named'

private theorem AllAlike.find_eq (alike : mixin.AllAlike name) :
    mixin.find name = (Fields.get? mixin.args name).getD .null := by
  cases held : Fields.get? mixin.args name with
  | none =>
    refine find_eq_iff.mpr (Or.inr ⟨?_, rfl⟩)
    have absent : ∀ pair ∈ mixin.pairs.reverse, pair.1 ≠ name := by
      rw [← Fields.get?_eq_none_iff, ← Fields.get?_ofPairs]
      exact held
    intro param member
    exact absent _ (List.mem_reverse.mpr (List.mem_map_of_mem member))
  | some last =>
    -- The name is there, so a search finds a first parameter, which is like the last one.
    have isLast : IsLast mixin.pairs name last := Fields.get?_ofPairs_eq_some_iff.mp held
    obtain ⟨first, found⟩ : ∃ first, Fields.get? mixin.pairs name = some first := by
      refine Option.ne_none_iff_exists'.mp fun none => ?_
      exact Fields.get?_eq_none_iff.mp none _ isLast.mem rfl
    have isFirst := Fields.get?_eq_some_iff_isFirst.mp found
    have same : first = last := alike.native_eq isFirst.mem isLast.mem
    exact find_eq_iff.mpr (Or.inl (same ▸ isFirst))

/-- The map of an invocation has the names of its parameters, each once and in the order in which
they first come, and for each name the value of its last parameter.  A search finds the value of the
first parameter, and null where there is none.  So in an invocation whose parameters are reversed it
finds what the map has; and the two are the same for every name whose parameters are all alike. -/
theorem accessors_of_repeated (mixin : Invocation) :
    mixin.args.map Prod.fst = (mixin.params.map Param.name).eraseDups ∧
    (mixin.args.map Prod.fst).Nodup ∧
    (∀ name value, (name, value) ∈ mixin.args ↔ IsLast mixin.pairs name value) ∧
    (∀ name value, mixin.find name = value ↔
      IsFirst mixin.pairs name value ∨
        (∀ param ∈ mixin.params, param.name ≠ name) ∧ value = .null) ∧
    (∀ name, mixin.reversed.find name = (Fields.get? mixin.args name).getD .null) ∧
    ∀ name, mixin.AllAlike name →
      mixin.find name = (Fields.get? mixin.args name).getD .null := by
  refine ⟨?_, Fields.nodup_names_ofPairs mixin.pairs, fun _ _ => Fields.mem_ofPairs_iff,
    fun _ _ => find_eq_iff, mixin.find_reversed, fun _ alike => alike.find_eq⟩
  rw [← names_pairs]
  exact Fields.names_ofPairs mixin.pairs

/-- Of two values of a name the map has the second and a search finds the first; for a name that is
given twice with one value, both come to it. -/
theorem accessors_of_repeated_scope :
    let mixin : Invocation := ⟨"oauth2", [⟨"id", ⟨.text "first"⟩⟩, ⟨"scope", ⟨.text "X"⟩⟩,
      ⟨"id", ⟨.text "second"⟩⟩, ⟨"scope", ⟨.text "X"⟩⟩]⟩
    mixin.args = [("id", .text "second"), ("scope", .text "X")] ∧
      mixin.find "id" = .text "first" ∧ mixin.reversed.find "id" = .text "second" ∧
      mixin.find "secret" = .null ∧
      mixin.AllAlike "scope" ∧ mixin.find "scope" = .text "X" := by
  intro mixin
  obtain ⟨-, -, -, found, backwards, agree⟩ := accessors_of_repeated mixin
  have scopes : ∀ param ∈ mixin.params, param.name = "scope" →
      param.value.native = .text "X" := by
    simp [mixin]
  have alike : mixin.AllAlike "scope" := fun param member other member' named named' =>
    (scopes param member named).trans (scopes other member' named').symm
  refine ⟨rfl, ?_, backwards "id", ?_, alike, agree "scope" alike⟩
  · exact (found _ _).mpr (Or.inl ⟨[], _, rfl, by simp⟩)
  · exact (found _ _).mpr (Or.inr ⟨by simp [mixin], rfl⟩)

end TypedRecords.Mixin.Invocation
