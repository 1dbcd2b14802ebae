import TypedRecords.Proofs.Coercion.Parts
import TypedRecords.Proofs.Extraction.Grid
import TypedRecords.Proofs.Path.Limits

/-!
Where an extraction comes to a limit of the program, so that its failure is not told as a fault of
the response.  The first place of the grid without a value decides: a limit is met on the way to it
or in coercion, and there in the first part of the value that has no result.
-/

set_option autoImplicit false

namespace TypedRecords

open TypedRecords.Traversal

namespace Coercion

variable {clock : Calendar.Clock}

/-- The first part of the value that has no result overruns what its type can hold. -/
def OverrunsFirst (clock : Calendar.Clock) (settings : Settings) (type : SemanticType)
    (value : Value) : Prop :=
  ∃ before part after, parts type value = before ++ part :: after ∧
    AllSucceed (Part.outcome clock settings) before ∧ Overruns clock part.type part.value

/-- Coercion to a complete type fails otherwise than by a rejection just where the first part
without a result overruns. -/
theorem overrunsFirst_iff (settings : Settings) {type : SemanticType}
    (complete : type.isComplete = true) (value : Value) :
    (∃ failure, coerce clock settings type value = .error failure ∧
      ∀ rejection, failure ≠ .rejected rejection) ↔ OverrunsFirst clock settings type value := by
  constructor
  · rintro ⟨failure, failed, foreign⟩
    by_contra held
    have promised := (promised_iff_first_part settings complete value).mpr held
    rw [failed, promised_error_iff] at promised
    obtain ⟨-, rejection, same⟩ := promised
    exact foreign rejection same
  · rintro ⟨before, part, after, split, clean, overruns⟩
    obtain ⟨failure, foreign, failed⟩ := coerce_of_overruns overruns
    have first : FirstFails (Part.outcome clock settings) (parts type value) failure :=
      ⟨before, part, after, split, clean, failed settings⟩
    exact ⟨failure, ((outcome_of_parts settings type value).2 failure).mpr first, foreign⟩

end Coercion

namespace Extraction

variable {clock : Calendar.Clock} {settings : Settings} {signature : Signature}

/-- At a place of the grid a limit is met: on the way there, or in coercion. -/
inductive PlaceOverruns (clock : Calendar.Clock) (settings : Settings) (element : Value)
    (arg : Argument) : Prop
  | way : Path.Stalls element (place arg) → PlaceOverruns clock settings element arg
  | coercion {raw : Value} : Path.follow element (place arg) = .ok raw →
      Coercion.OverrunsFirst clock settings arg.type raw → PlaceOverruns clock settings element arg

/-- In a response a limit is met: on the way to its elements, or at the first place of the grid
without a value. -/
inductive ResponseOverruns (clock : Calendar.Clock) (settings : Settings) (signature : Signature)
    (raw : Value) : Prop
  | way {path : String} : usable signature.sourcePath = some path →
      Path.Stalls raw (Path.segments path) → ResponseOverruns clock settings signature raw
  | place {value element : Value} {before after : List Value} {earlier later : List Argument}
      {arg : Argument} :
      directBody raw signature = .ok value → value ≠ .null →
      elements value = before ++ element :: after →
      (∀ other ∈ before, Recordable clock settings signature other) → element ≠ .null →
      signature.outputs = earlier ++ arg :: later →
      (∀ other ∈ earlier, ∃ value, Yields clock settings element other value) →
      PlaceOverruns clock settings element arg → ResponseOverruns clock settings signature raw

private theorem ofCoercion_isForeseen (function : Option String) (argument : String) (index : Nat)
    (cause : Coercion.Failure) :
    (ofCoercion function argument index cause).isForeseen = false ↔
      ∀ rejection, cause ≠ .rejected rejection := by
  cases cause <;> simp [ofCoercion, Failure.isForeseen]

private theorem placeFails_unforeseen_iff {element : Value} {index : Nat} {arg : Argument}
    (complete : arg.type.isComplete = true) :
    (∃ failure, PlaceFails clock settings signature element index arg failure ∧
      failure.isForeseen = false) ↔ PlaceOverruns clock settings element arg := by
  constructor
  · rintro ⟨failure, fails, unforeseen⟩
    cases fails with
    | lookup found => exact .way (Path.stalls_of_follow_error found)
    | @coercion raw cause found refused =>
      have foreign := (ofCoercion_isForeseen _ _ _ cause).mp unforeseen
      exact .coercion found
        ((Coercion.overrunsFirst_iff settings complete raw).mp ⟨cause, refused, foreign⟩)
  · rintro (stalls | ⟨found, overruns⟩)
    · obtain ⟨cause, failed⟩ := Path.follow_error_of_stalls stalls
      exact ⟨_, .lookup failed, rfl⟩
    · obtain ⟨cause, refused, foreign⟩ :=
        (Coercion.overrunsFirst_iff settings complete _).mpr overruns
      exact ⟨_, .coercion found refused, (ofCoercion_isForeseen _ _ _ cause).mpr foreign⟩

private theorem directBody_error_iff {raw : Value} :
    (∃ cause, directBody raw signature = .error cause) ↔
      ∃ path, usable signature.sourcePath = some path ∧ Path.Stalls raw (Path.segments path) := by
  unfold directBody
  cases usable signature.sourcePath with
  | none => simp
  | some path => simpa [Path.lookup] using Path.follow_error_iff

private theorem outputs_complete (valid : signature.IsValid) {earlier later : List Argument}
    {arg : Argument} (split : signature.outputs = earlier ++ arg :: later) :
    arg.type.isComplete = true := by
  have member : arg ∈ signature.outputs := by
    rw [split]
    exact List.mem_append_right earlier List.mem_cons_self
  exact valid.complete arg (List.mem_of_mem_filter member)

/-- An extraction fails otherwise than by a fault of the response just where the response overruns
a limit. -/
theorem direct_unforeseen_iff (settings : Settings) {signature : Signature}
    (valid : signature.IsValid) (raw : Value) :
    (∃ failure, direct clock settings raw signature = .error failure ∧ failure.isForeseen = false) ↔
      ResponseOverruns clock settings signature raw := by
  simp only [direct_error_iff]
  constructor
  · rintro ⟨failure, fails, unforeseen⟩
    cases fails with
    | lookup found =>
      obtain ⟨path, named, stalls⟩ := directBody_error_iff.mp ⟨_, found⟩
      exact .way named stalls
    | null => cases unforeseen
    | element found present split recorded fails =>
      cases fails with
      | null => cases unforeseen
      | place there args clean fails =>
        have complete := outputs_complete valid args
        exact .place found present split recorded there args clean
          ((placeFails_unforeseen_iff complete).mp ⟨failure, fails, unforeseen⟩)
  · rintro (⟨named, stalls⟩ | ⟨found, present, split, recorded, there, args, clean, overruns⟩)
    · obtain ⟨cause, failed⟩ := directBody_error_iff.mpr ⟨_, named, stalls⟩
      exact ⟨_, .lookup failed, rfl⟩
    · have complete := outputs_complete valid args
      obtain ⟨failure, fails, unforeseen⟩ := (placeFails_unforeseen_iff complete).mpr overruns
      exact ⟨failure, .element found present split recorded (.place there args clean fails),
        unforeseen⟩

end Extraction

end TypedRecords
