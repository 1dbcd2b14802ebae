import TypedRecords.Files.Basic
import TypedRecords.Proofs.Traversal

/-!
Reading files as text.  What is refused by the program and not by the system is a path with a null
character, or bytes that are not text.
-/

set_option autoImplicit false

namespace TypedRecords.Files

def HoldsNoText (files : Files) (path : String) : Prop :=
  ∃ bytes fault, files.find path = .ok (.file bytes) ∧ Text.Utf8.decode bytes = .error fault

/-- The path leads to a file of bytes that are not text, or there is a null character in it. -/
def RefusesText (files : Files) (path : String) : Prop :=
  files.find path = .error .nullByte ∨ files.HoldsNoText path

variable {files : Files} {path : String}

theorem text_of_file {bytes : List UInt8} (found : files.find path = .ok (.file bytes)) :
    files.text path =
      match Text.Utf8.decode bytes with
      | .ok text => .ok (Text.withLineFeeds text)
      | .error fault => .error (.notText fault) := by
  cases decoded : Text.Utf8.decode bytes <;>
    simp only [text, Files.bytes, found, Except.bind, decoded]

theorem text_of_folder (found : files.find path = .ok .folder) :
    files.text path = .error (.unreachable .isFolder (normal path)) := by
  simp only [text, Files.bytes, found, Except.bind]

theorem text_of_error {obstacle : Obstacle} (blocked : files.find path = .error obstacle) :
    files.text path = .error (.unreachable obstacle (normal path)) := by
  simp only [text, Files.bytes, blocked, Except.bind]

private theorem isSystemError_of_ne_nullByte {obstacle : Obstacle} (other : obstacle ≠ .nullByte) :
    (Failure.unreachable obstacle path).isSystemError = true := by
  cases obstacle <;> first | rfl | exact absurd rfl other

theorem text_refused_iff :
    (∃ failure, files.text path = .error failure ∧ failure.isSystemError = false) ↔
      files.RefusesText path := by
  constructor
  · rintro ⟨failure, failed, refused⟩
    cases found : files.find path with
    | error obstacle =>
      rw [text_of_error found] at failed
      cases failed
      by_cases other : obstacle = .nullByte
      · subst other
        exact Or.inl found
      · rw [isSystemError_of_ne_nullByte other] at refused
        cases refused
    | ok entry =>
      cases entry with
      | folder =>
        rw [text_of_folder found] at failed
        cases failed
        cases refused
      | file bytes =>
        rw [text_of_file found] at failed
        cases decoded : Text.Utf8.decode bytes with
        | ok text =>
          rw [decoded] at failed
          cases failed
        | error fault => exact Or.inr ⟨bytes, fault, found, decoded⟩
  · rintro (found | ⟨bytes, fault, found, decoded⟩)
    · exact ⟨_, text_of_error found, rfl⟩
    · refine ⟨.notText fault, ?_, rfl⟩
      rw [text_of_file found, decoded]

end TypedRecords.Files
