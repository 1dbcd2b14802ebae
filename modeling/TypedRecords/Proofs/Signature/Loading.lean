import TypedRecords.Proofs.Files.Text
import TypedRecords.Proofs.Signature.Outcomes
import TypedRecords.Signature.Load

/-!
Loading signatures.  What is loaded is valid; and loading fails otherwise than by telling what is
wrong just where the path or the content of the file is refused before the signature is looked at.
-/

set_option autoImplicit false

namespace TypedRecords

open TypedRecords.Schema TypedRecords.Traversal

namespace Signature

/-- Loading a signature comes to something that is not told as a wrong signature: a path or bytes
that are refused as text, or an integer with more digits than are converted. -/
inductive LoadBreaks (files : Files) (path : String) : Prop
  | text : files.RefusesText path → LoadBreaks files path
  | digits {text : String} {count : Nat} : files.text path = .ok text →
      Json.read text = .error (.tooManyDigits count) → LoadBreaks files path

private theorem parse_unforeseen_iff (path : String) {text : String} :
    (∃ failure, parse path text = .error failure ∧ failure.isForeseen = false) ↔
      ∃ count, Json.read text = .error (.tooManyDigits count) := by
  unfold parse
  cases Json.read text with
  | error cause => cases cause <;> simp [LoadFailure.isForeseen]
  | ok value =>
    simp only [mapError_error_iff, reduceCtorEq, exists_false, iff_false]
    rintro ⟨failure, ⟨cause, -, rfl⟩, untold⟩
    cases untold

theorem load_unforeseen_iff {files : Files} {path : String} :
    (∃ failure, load files path = .error failure ∧ failure.isForeseen = false) ↔
      LoadBreaks files path := by
  constructor
  · rintro ⟨failure, failed, unforeseen⟩
    unfold load at failed
    split at failed
    · rename_i cause refused
      obtain rfl := Except.error.inj failed
      exact .text (Files.text_refused_iff.mp ⟨cause, refused, unforeseen⟩)
    · rename_i text held
      obtain ⟨count, long⟩ := (parse_unforeseen_iff _).mp ⟨failure, failed, unforeseen⟩
      exact .digits held long
  · rintro (refused | ⟨held, long⟩)
    · obtain ⟨cause, failed, refused⟩ := Files.text_refused_iff.mpr refused
      exact ⟨.unreadable cause, by simp only [load, failed], refused⟩
    · obtain ⟨failure, failed, unforeseen⟩ :=
        (parse_unforeseen_iff (Files.normal path)).mpr ⟨_, long⟩
      exact ⟨failure, by simp only [load, held, failed], unforeseen⟩

theorem isValid_of_load {files : Files} {path : String} {signature : Signature}
    (made : load files path = .ok signature) : signature.IsValid := by
  unfold load at made
  split at made
  · cases made
  · unfold parse at made
    split at made
    · cases made
    · cases made
    · exact isValid_of_ofValue (mapError_ok_iff.mp made)

end Signature

end TypedRecords
