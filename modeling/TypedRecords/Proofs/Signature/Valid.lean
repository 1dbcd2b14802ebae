import Mathlib.Data.List.Nodup
import TypedRecords.Signature.Basic

/-!
Signatures as loading admits them.
-/

set_option autoImplicit false

namespace TypedRecords.Signature

/-- What is made sure of when a signature is loaded: no two arguments share a name, and every array
among the types has an element type. -/
structure IsValid (signature : Signature) : Prop where
  distinct : (signature.args.map Argument.name).Nodup
  complete : ∀ arg ∈ signature.args, arg.type.isComplete = true

theorem IsValid.outputs_distinct {signature : Signature} (valid : signature.IsValid) :
    (signature.outputs.map Argument.name).Nodup :=
  valid.distinct.sublist (List.filter_sublist.map Argument.name)

theorem mem_outputs_iff {signature : Signature} {arg : Argument} :
    arg ∈ signature.outputs ↔ arg ∈ signature.args ∧ arg.direction ≠ .input := by
  simp [outputs, Argument.isInput]

theorem argument?_eq_none_iff {signature : Signature} {name : String} :
    signature.argument? name = none ↔ ∀ arg ∈ signature.args, arg.name ≠ name := by
  simp [argument?]

theorem IsValid.argument?_eq_some_iff {signature : Signature} (valid : signature.IsValid)
    {name : String} {arg : Argument} :
    signature.argument? name = some arg ↔ arg ∈ signature.args ∧ arg.name = name := by
  constructor
  · intro found
    exact ⟨List.mem_of_find?_eq_some found, by simpa using List.find?_some found⟩
  · rintro ⟨member, rfl⟩
    cases found : signature.argument? arg.name with
    | none => exact absurd rfl (argument?_eq_none_iff.mp found arg member)
    | some other =>
      have named : other.name = arg.name := by simpa using List.find?_some found
      have own : other ∈ signature.args := List.mem_of_find?_eq_some found
      rw [List.inj_on_of_nodup_map valid.distinct own member named]

end TypedRecords.Signature
