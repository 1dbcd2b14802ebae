import TypedRecords.Files.Tree
import TypedRecords.Proofs.Json.LongIntegers
import TypedRecords.Proofs.Signature.Loading

/-!
How loading a signature from a file ends.  Whatever bytes the file holds, it gives a valid signature
or tells what is wrong with the file, unless the bytes are not text or an integer in the text has
more digits than are converted.
-/

set_option autoImplicit false

namespace TypedRecords.Signature

open TypedRecords.Json (HasLongRun hasLongRun_of_read)
open TypedRecords.Numeric (digitLimit)
open TypedRecords.Traversal

/-- Whether a failure tells of a wrong signature: of a text that is no JSON, of a misspelled type,
or of data that make no signature. -/
def LoadFailure.isWrongSignature : LoadFailure → Bool
  | .unreadable _ => false
  | .malformed _ _ _ => true
  | .tooManyDigits _ => false
  | .invalid _ => true

def LoadsOrTells (files : Files) (path : String) : Prop :=
  (∃ signature, load files path = .ok signature ∧ signature.IsValid) ∨
    ∃ failure, load files path = .error failure ∧ failure.isWrongSignature = true

/-- The bytes write a text in which no integer is refused for its digits. -/
def IsReadable (bytes : List UInt8) : Prop :=
  ∃ text, Text.Utf8.decode bytes = .ok text ∧
    ∀ count, Json.read (Text.withLineFeeds text) ≠ .error (.tooManyDigits count)

section File

variable {files : Files} {path : String} {bytes : List UInt8}

private theorem text_not_system (found : files.find path = .ok (.file bytes))
    {cause : Files.Failure}
    (failed : files.text path = .error cause) : cause.isSystemError = false := by
  rw [Files.text_of_file found] at failed
  split at failed
  · cases failed
  · obtain rfl := Except.error.inj failed
    rfl

private theorem isForeseen_eq (found : files.find path = .ok (.file bytes)) {failure : LoadFailure}
    (failed : load files path = .error failure) :
    failure.isForeseen = failure.isWrongSignature := by
  cases failure with
  | unreadable cause =>
    refine text_not_system found ?_
    unfold load at failed
    split at failed
    · rename_i own refused
      obtain rfl := LoadFailure.unreadable.inj (Except.error.inj failed)
      exact refused
    · unfold parse at failed
      split at failed
      · cases failed
      · cases failed
      · obtain ⟨cause, -, same⟩ := mapError_error_iff.mp failed
        cases same
  | _ => rfl

theorem loadsOrTells_iff (found : files.find path = .ok (.file bytes)) :
    LoadsOrTells files path ↔ ¬ LoadBreaks files path := by
  rw [← load_unforeseen_iff]
  constructor
  · rintro (⟨signature, made, -⟩ | ⟨failure, failed, wrong⟩)
    · simp [made]
    · simp [failed, isForeseen_eq found failed, wrong]
  · intro foreseen
    cases outcome : load files path with
    | ok signature => exact Or.inl ⟨signature, outcome, isValid_of_load outcome⟩
    | error failure =>
      refine Or.inr ⟨failure, outcome, ?_⟩
      by_contra other
      refine foreseen ⟨failure, outcome, ?_⟩
      rw [isForeseen_eq found outcome, Bool.eq_false_iff.mpr other]

private theorem loadBreaks_iff (found : files.find path = .ok (.file bytes)) :
    LoadBreaks files path ↔ ¬ IsReadable bytes := by
  have read := Files.text_of_file found
  constructor
  · rintro ((blocked | ⟨own, fault, there, refused⟩) | ⟨held, long⟩) ⟨text, decoded, short⟩
    · cases found.symm.trans blocked
    · obtain rfl := Files.Entry.file.inj (Except.ok.inj (found.symm.trans there))
      cases decoded.symm.trans refused
    · rw [read, decoded] at held
      obtain rfl := Except.ok.inj held
      exact short _ long
  · intro unreadable
    cases decoded : Text.Utf8.decode bytes with
    | error fault => exact .text (Or.inr ⟨bytes, fault, found, decoded⟩)
    | ok text =>
      have long : ∃ count, Json.read (Text.withLineFeeds text) = .error (.tooManyDigits count) := by
        by_contra short
        exact unreadable ⟨text, decoded, not_exists.mp short⟩
      obtain ⟨count, refused⟩ := long
      rw [decoded] at read
      exact .digits read refused

/-- A file of any bytes gives a valid signature or tells of a wrong one, just where the bytes are
text and no integer in it is refused for its digits.  So it does for every text in which no digits
stand in a longer row than are converted. -/
theorem load_file_told_iff (found : files.find path = .ok (.file bytes)) :
    (LoadsOrTells files path ↔ IsReadable bytes) ∧
      ∀ text, Text.Utf8.decode bytes = .ok text →
        (∀ count, ¬ HasLongRun count (Text.withLineFeeds text).toList) →
          LoadsOrTells files path := by
  have told : LoadsOrTells files path ↔ IsReadable bytes := by
    rw [loadsOrTells_iff found, loadBreaks_iff found, not_not]
  refine ⟨told, fun text decoded short => told.mpr ⟨text, decoded, fun count refused => ?_⟩⟩
  exact short count (hasLongRun_of_read refused)

end File

section Runs

/-- A file with nothing in it but an opening brace is told as a wrong signature. -/
theorem load_file_told_iff_brace :
    let files := Files.ofEntries [("q", .file [0x7b])]
    files.find "q" = .ok (.file [0x7b]) ∧ LoadsOrTells files "q" := by
  intro files
  have found : files.find "q" = .ok (.file [0x7b]) := by decide +kernel
  have decoded : Text.Utf8.decode [0x7b] = .ok "\x7b" := by decide +kernel
  refine ⟨found, (load_file_told_iff found).2 _ decoded fun count long => ?_⟩
  obtain ⟨digits, within, counted, -⟩ := long.run
  have short : digits.length ≤ 1 := within.length_le
  have limit : digitLimit < count := long.long
  rw [← counted] at limit
  exact absurd (limit.trans_le short) (by decide)

/-- A file of a byte that is no text is not told as a wrong signature. -/
theorem load_fails_at_stray_byte :
    let files := Files.ofEntries [("q", .file [0xff])]
    files.find "q" = .ok (.file [0xff]) ∧ ¬ LoadsOrTells files "q" := by
  intro files
  have found : files.find "q" = .ok (.file [0xff]) := by decide +kernel
  have refused : Text.Utf8.decode [0xff] = .error ⟨"utf-8", .invalidStart, 0, 1, 0xff⟩ := by
    decide +kernel
  refine ⟨found, fun told => (loadsOrTells_iff found).mp told ?_⟩
  exact .text (Or.inr ⟨_, _, found, refused⟩)

end Runs

end TypedRecords.Signature
