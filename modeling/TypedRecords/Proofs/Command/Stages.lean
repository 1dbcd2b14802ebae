import TypedRecords.Command.Run
import TypedRecords.Proofs.Extraction.History
import TypedRecords.Proofs.Extraction.Limits
import TypedRecords.Proofs.Settings.Loading
import TypedRecords.Proofs.Signature.Loading

/-!
The stages of an extraction from the command line: the settings, the signature, the response and the
records.  Of each it is said where the command is aborted there; and a stage at which the command
ends has written nothing.
-/

set_option autoImplicit false

namespace TypedRecords.Command

open TypedRecords.Extraction (ResponseOverruns direct)
open TypedRecords.Traversal

def Aborts {α : Type} (stage : Except Outcome α) : Prop :=
  ∃ cause, stage = .error (.aborted cause)

def WritesNothing {α : Type} (stage : Except Outcome α) : Prop :=
  ∀ output, stage ≠ .error (.done output)

/-- A response that is read as text is refused as text, or has an integer with more digits than are
converted. -/
inductive ReadBreaks (around : Surroundings) (source : String) : Prop
  | text : source ≠ inputName → around.files.RefusesText source → ReadBreaks around source
  | digits {text : String} {count : Nat} : responseText around source = .ok text →
      Json.read text = .error (.tooManyDigits count) → ReadBreaks around source

section Stage

variable {α β ε : Type}

@[simp] private theorem not_aborts_ok (result : α) : ¬ Aborts (.ok result : Except Outcome α) := by
  rintro ⟨cause, failed⟩
  cases failed

theorem aborts_bind_iff {stage : Except Outcome α} {next : α → Except Outcome β} :
    Aborts (stage.bind next) ↔
      Aborts stage ∨ ∃ result, stage = .ok result ∧ Aborts (next result) := by
  unfold Aborts
  simp only [bind_error_iff]
  constructor
  · rintro ⟨cause, failed | ⟨result, passed, failed⟩⟩
    · exact Or.inl ⟨cause, failed⟩
    · exact Or.inr ⟨result, passed, cause, failed⟩
  · rintro (⟨cause, failed⟩ | ⟨result, passed, cause, failed⟩)
    · exact ⟨cause, Or.inl failed⟩
    · exact ⟨cause, Or.inr ⟨result, passed, failed⟩⟩

theorem WritesNothing.bind {stage : Except Outcome α} {next : α → Except Outcome β}
    (first : WritesNothing stage) (second : ∀ result, WritesNothing (next result)) :
    WritesNothing (stage.bind next) := by
  intro output failed
  rcases bind_error_iff.mp failed with failed | ⟨result, -, failed⟩
  · exact first output failed
  · exact second result output failed

private theorem aborts_mapError_iff {result : Except ε α} {ending : ε → Outcome} :
    Aborts (result.mapError ending) ↔
      ∃ failure, result = .error failure ∧ ∃ cause, ending failure = .aborted cause := by
  unfold Aborts
  simp only [mapError_error_iff]
  constructor
  · rintro ⟨cause, failure, failed, same⟩
    exact ⟨failure, failed, cause, same.symm⟩
  · rintro ⟨failure, failed, cause, same⟩
    exact ⟨cause, failure, failed, same.symm⟩

private theorem writesNothing_mapError {result : Except ε α} {ending : ε → Outcome}
    (silent : ∀ failure output, ending failure ≠ .done output) :
    WritesNothing (result.mapError ending) := by
  intro output failed
  obtain ⟨failure, -, same⟩ := mapError_error_iff.mp failed
  exact silent failure output same.symm

end Stage

section Stages

variable (around : Surroundings)

theorem loadSettings_aborts_iff {path : Option String} :
    Aborts (loadSettings around path) ↔
      Settings.LoadBreaks around.files path around.environment := by
  rw [loadSettings, aborts_mapError_iff, ← Settings.load_untold_iff]
  refine exists_congr fun failure => and_congr_right fun _ => ?_
  unfold Settings.Failure.IsUntold
  cases failure.isWrongSetting <;> cases failure.isSystemError <;> simp

theorem loadSettings_writesNothing {path : Option String} :
    WritesNothing (loadSettings around path) :=
  writesNothing_mapError fun failure output => by split <;> simp

theorem loadSignature_aborts_iff {path : String} :
    Aborts (loadSignature around path) ↔ Signature.LoadBreaks around.files path := by
  rw [loadSignature, aborts_mapError_iff, ← Signature.load_unforeseen_iff]
  refine exists_congr fun failure => and_congr_right fun _ => ?_
  cases failure.isForeseen <;> simp

theorem loadSignature_writesNothing {path : String} :
    WritesNothing (loadSignature around path) :=
  writesNothing_mapError fun failure output => by split <;> simp

private theorem responseText_aborts_iff {source : String} :
    Aborts (responseText around source) ↔
      source ≠ inputName ∧ around.files.RefusesText source := by
  unfold responseText
  split
  · rename_i input
    exact iff_of_false (not_aborts_ok _) fun refused => refused.1 input
  · rename_i file
    rw [aborts_mapError_iff, ← Files.text_refused_iff]
    simp only [ne_eq, file, not_false_iff, true_and]
    refine exists_congr fun failure => and_congr_right fun _ => ?_
    cases failure.isSystemError <;> simp

theorem readResponse_aborts_iff {source : String} :
    Aborts (readResponse around source) ↔ ReadBreaks around source := by
  rw [readResponse, aborts_bind_iff, responseText_aborts_iff]
  constructor
  · rintro (⟨file, refused⟩ | ⟨text, held, aborts⟩)
    · exact .text file refused
    · obtain ⟨failure, failed, cause, same⟩ := aborts_mapError_iff.mp aborts
      cases failure with
      | malformed fault place => cases same
      | tooManyDigits count => exact .digits held failed
  · rintro (⟨file, refused⟩ | ⟨held, long⟩)
    · exact Or.inl ⟨file, refused⟩
    · exact Or.inr ⟨_, held, aborts_mapError_iff.mpr ⟨_, long, _, rfl⟩⟩

theorem readResponse_writesNothing {source : String} :
    WritesNothing (readResponse around source) := by
  refine .bind ?_ fun text => writesNothing_mapError fun failure output => ?_
  · unfold responseText
    split
    · intro output failed
      cases failed
    · exact writesNothing_mapError fun failure output => by split <;> simp
  · cases failure <;> simp

variable {settings : Settings} {value : Value} {query : Signature}

theorem once_eq_direct (clock : Calendar.Clock) (nonneg : 0 ≤ settings.cacheSize) (strict : Bool) :
    Extraction.once clock (settings.withStrict strict) value query =
      direct clock (settings.withStrict strict) value query := by
  have fresh : 0 ≤ (settings.withStrict strict).cacheSize := nonneg
  exact Extraction.once_eq_direct fresh value query

theorem extractRecords_ok_iff (nonneg : 0 ≤ settings.cacheSize) {strict : Bool} {records : Value} :
    extractRecords around (settings.withStrict strict) value query = .ok records ↔
      ∃ found, direct around.clock (settings.withStrict strict) value query = .ok found ∧
        records = .list (found.map Value.object) := by
  unfold extractRecords
  rw [once_eq_direct around.clock nonneg]
  cases direct around.clock (settings.withStrict strict) value query with
  | ok found => simp [eq_comm]
  | error failure => cases foreseen : failure.isForeseen <;> simp [foreseen]

theorem extractRecords_aborts_iff (nonneg : 0 ≤ settings.cacheSize) (valid : query.IsValid)
    {strict : Bool} :
    Aborts (extractRecords around (settings.withStrict strict) value query) ↔
      ResponseOverruns around.clock (settings.withStrict strict) query value := by
  rw [← Extraction.direct_unforeseen_iff _ valid]
  unfold extractRecords Aborts
  rw [once_eq_direct around.clock nonneg]
  cases direct around.clock (settings.withStrict strict) value query with
  | ok found => simp
  | error failure => cases foreseen : failure.isForeseen <;> simp [foreseen]

theorem extractRecords_writesNothing :
    WritesNothing (extractRecords around settings value query) := by
  intro output failed
  unfold extractRecords at failed
  split at failed
  · cases failed
  · split at failed <;> cases failed

end Stages

end TypedRecords.Command
