import TypedRecords.Files.Tree
import TypedRecords.Proofs.Command.Output
import TypedRecords.Proofs.Command.Stages
import TypedRecords.Proofs.Extraction.Results

/-!
How the extraction of records from the command line ends.  It goes through its stages and writes the
records; and it is aborted just where a stage or the writing comes to something that is not told.
-/

set_option autoImplicit false

namespace TypedRecords.Command

open TypedRecords.Extraction (ResponseOverruns direct)
open TypedRecords.Json (IsJson)
open TypedRecords.Traversal

/-- The stages in which an extraction can be aborted, each behind those that have been passed. -/
inductive ExtractBreaks (around : Surroundings) (response signature : String)
    (settings : Option String) (strict : Bool) : Prop
  | settings : Settings.LoadBreaks around.files settings around.environment →
      ExtractBreaks around response signature settings strict
  | signature {loaded : Settings} :
      Settings.load around.files settings around.environment = .ok loaded →
      Signature.LoadBreaks around.files signature →
      ExtractBreaks around response signature settings strict
  | response {loaded : Settings} {query : Signature} :
      Settings.load around.files settings around.environment = .ok loaded →
      Signature.load around.files signature = .ok query →
      ReadBreaks around response → ExtractBreaks around response signature settings strict
  | extraction {loaded : Settings} {query : Signature} {value : Value} :
      Settings.load around.files settings around.environment = .ok loaded →
      Signature.load around.files signature = .ok query →
      readResponse around response = .ok value →
      ResponseOverruns around.clock (loaded.withStrict (loaded.strict || strict)) query value →
      ExtractBreaks around response signature settings strict
  | writing {loaded : Settings} {query : Signature} {value : Value} {records : List Fields} :
      Settings.load around.files settings around.environment = .ok loaded →
      Signature.load around.files signature = .ok query →
      readResponse around response = .ok value →
      direct around.clock (loaded.withStrict (loaded.strict || strict)) value query = .ok records →
      around.output.Refuses (.list (records.map Value.object)) →
      ExtractBreaks around response signature settings strict

section Extract

variable (around : Surroundings) (response signature : String) (settings : Option String)
  (strict : Bool)

def extracted : Except Outcome Value :=
  (loadSettings around settings).bind fun loaded =>
    (loadSignature around signature).bind fun query =>
      (readResponse around response).bind fun value =>
        extractRecords around (loaded.withStrict (loaded.strict || strict)) value query

private theorem run_extract :
    run around (.extract response signature settings strict) =
      Outcome.ofExcept (extracted around response signature settings strict)
        (writeValue around.output) :=
  rfl

private theorem loadSettings_ok_iff {loaded : Settings} :
    loadSettings around settings = .ok loaded ↔
      Settings.load around.files settings around.environment = .ok loaded :=
  mapError_ok_iff

private theorem loadSignature_ok_iff {query : Signature} :
    loadSignature around signature = .ok query ↔
      Signature.load around.files signature = .ok query :=
  mapError_ok_iff

private theorem extracted_writesNothing :
    WritesNothing (extracted around response signature settings strict) :=
  .bind (loadSettings_writesNothing around) fun _ => .bind (loadSignature_writesNothing around)
    fun _ => .bind (readResponse_writesNothing around) fun _ => extractRecords_writesNothing around

variable {around response signature settings strict}

private theorem extracted_ok_iff {records : Value} :
    extracted around response signature settings strict = .ok records ↔
      ∃ loaded query value found,
        Settings.load around.files settings around.environment = .ok loaded ∧
        Signature.load around.files signature = .ok query ∧
        readResponse around response = .ok value ∧
        direct around.clock (loaded.withStrict (loaded.strict || strict)) value query = .ok found ∧
        records = .list (found.map Value.object) := by
  unfold extracted
  simp only [bind_ok_iff, loadSettings_ok_iff, loadSignature_ok_iff]
  constructor
  · rintro ⟨loaded, chosen, query, named, value, read, made⟩
    have nonneg := Settings.load_cacheSize_nonneg chosen
    obtain ⟨found, drawn, same⟩ := (extractRecords_ok_iff around nonneg).mp made
    exact ⟨loaded, query, value, found, chosen, named, read, drawn, same⟩
  · rintro ⟨loaded, query, value, found, chosen, named, read, drawn, same⟩
    have nonneg := Settings.load_cacheSize_nonneg chosen
    exact ⟨loaded, chosen, query, named, value, read,
      (extractRecords_ok_iff around nonneg).mpr ⟨found, drawn, same⟩⟩

private theorem extracted_aborts_iff :
    Aborts (extracted around response signature settings strict) ∨
      (∃ records, extracted around response signature settings strict = .ok records ∧
        around.output.Refuses records) ↔
      ExtractBreaks around response signature settings strict := by
  constructor
  · rintro (aborts | ⟨records, made, refused⟩)
    · unfold extracted at aborts
      rcases aborts_bind_iff.mp aborts with aborts | ⟨loaded, chosen, aborts⟩
      · exact .settings ((loadSettings_aborts_iff around).mp aborts)
      have chosen := (loadSettings_ok_iff around settings).mp chosen
      rcases aborts_bind_iff.mp aborts with aborts | ⟨query, named, aborts⟩
      · exact .signature chosen ((loadSignature_aborts_iff around).mp aborts)
      have named := (loadSignature_ok_iff around signature).mp named
      rcases aborts_bind_iff.mp aborts with aborts | ⟨value, read, aborts⟩
      · exact .response chosen named ((readResponse_aborts_iff around).mp aborts)
      have nonneg := Settings.load_cacheSize_nonneg chosen
      have valid := Signature.isValid_of_load named
      have overruns := (extractRecords_aborts_iff around nonneg valid).mp aborts
      exact .extraction chosen named read overruns
    · obtain ⟨loaded, query, value, found, chosen, named, read, drawn, rfl⟩ :=
        extracted_ok_iff.mp made
      exact .writing chosen named read drawn refused
  · rintro (broken | ⟨chosen, broken⟩ | ⟨chosen, named, broken⟩ |
      ⟨chosen, named, read, overruns⟩ | ⟨chosen, named, read, drawn, refused⟩)
    · exact Or.inl (aborts_bind_iff.mpr (Or.inl ((loadSettings_aborts_iff around).mpr broken)))
    · refine Or.inl (aborts_bind_iff.mpr (Or.inr ⟨_, mapError_ok_iff.mpr chosen, ?_⟩))
      exact aborts_bind_iff.mpr (Or.inl ((loadSignature_aborts_iff around).mpr broken))
    · refine Or.inl (aborts_bind_iff.mpr (Or.inr ⟨_, mapError_ok_iff.mpr chosen, ?_⟩))
      refine aborts_bind_iff.mpr (Or.inr ⟨_, mapError_ok_iff.mpr named, ?_⟩)
      exact aborts_bind_iff.mpr (Or.inl ((readResponse_aborts_iff around).mpr broken))
    · have nonneg := Settings.load_cacheSize_nonneg chosen
      have valid := Signature.isValid_of_load named
      refine Or.inl (aborts_bind_iff.mpr (Or.inr ⟨_, mapError_ok_iff.mpr chosen, ?_⟩))
      refine aborts_bind_iff.mpr (Or.inr ⟨_, mapError_ok_iff.mpr named, ?_⟩)
      refine aborts_bind_iff.mpr (Or.inr ⟨_, read, ?_⟩)
      exact (extractRecords_aborts_iff around nonneg valid).mpr overruns
    · exact Or.inr ⟨_, extracted_ok_iff.mpr ⟨_, _, _, _, chosen, named, read, drawn, rfl⟩,
        refused⟩

private theorem readResponse_decoded {value : Value}
    (read : readResponse around response = .ok value) :
    value.Throughout Json.IsDecoded := by
  obtain ⟨text, -, found⟩ := bind_ok_iff.mp read
  exact Json.read_decoded (mapError_ok_iff.mp found)

private theorem extracted_recorded {records : Value}
    (made : extracted around response signature settings strict = .ok records) :
    records.Throughout Json.IsRecorded := by
  obtain ⟨loaded, query, value, found, -, -, read, drawn, rfl⟩ := extracted_ok_iff.mp made
  exact Extraction.direct_recorded (readResponse_decoded read) drawn

private theorem run_extract_aborted_iff :
    (∃ cause, run around (.extract response signature settings strict) = .aborted cause) ↔
      ExtractBreaks around response signature settings strict := by
  rw [run_extract, ← extracted_aborts_iff]
  unfold Aborts
  cases extracted around response signature settings strict with
  | error outcome => simp [Outcome.ofExcept]
  | ok records => simp [Outcome.ofExcept, writeValue_aborted_iff]

private theorem run_extract_done {output : String}
    (done : run around (.extract response signature settings strict) = .done output) :
    ∃ value, value.Throughout IsJson ∧ output = Json.write value ++ "\n" := by
  rw [run_extract] at done
  cases made : extracted around response signature settings strict with
  | error outcome =>
    rw [made] at done
    change outcome = .done output at done
    rw [done] at made
    exact absurd made (extracted_writesNothing around response signature settings strict output)
  | ok records =>
    rw [made] at done
    obtain ⟨value, found, rfl⟩ := writeValue_done done
    exact ⟨value, Json.strict?_isJson (extracted_recorded made) found, rfl⟩

end Extract

section Arguments

private theorem extractOf_ok {line : Line} {command : Command}
    (read : extractOf line = .ok command) :
    ∃ response signature settings strict, command =
      .extract response signature settings strict := by
  obtain ⟨response, -, given⟩ := bind_ok_iff.mp read
  split at given
  · cases given
  · obtain rfl := Except.ok.inj given
    exact ⟨_, _, _, _, rfl⟩

private theorem ofArgs_extract {args : List String} {command : Command}
    (understood : ofArgs ("extract" :: args) = .ok command) :
    command = .help ∨ ∃ response signature settings strict,
      command = .extract response signature settings strict := by
  have named : readLine programForms true ("extract" :: args) = .ok ⟨[], "extract" :: args⟩ := by
    rw [readLine, if_neg (by decide)]
    have plain : optionChars? "extract" = none := by decide
    simp [plain]
  rw [ofArgs, named] at understood
  change ofArguments extractForms args extractOf = .ok command at understood
  obtain ⟨line, -, given⟩ := bind_ok_iff.mp understood
  split at given
  · exact Or.inl (Except.ok.inj given).symm
  · exact Or.inr (extractOf_ok given)

end Arguments

/-- An extraction from the command line is aborted just where one of its stages breaks.  Else it
writes JSON and ends with status zero, or it tells why it fails and ends with status one. -/
theorem extract_ends (around : Surroundings) :
    (∀ args command, ofArgs ("extract" :: args) = .ok command →
      command = .help ∨ ∃ response signature settings strict,
        command = .extract response signature settings strict) ∧
    ∀ response signature settings strict,
      let outcome := run around (.extract response signature settings strict)
      ((∃ cause, outcome = .aborted cause) ↔
        ExtractBreaks around response signature settings strict) ∧
      (¬ ExtractBreaks around response signature settings strict →
        (∃ value, value.Throughout IsJson ∧ outcome.status = 0 ∧
          outcome.output = Json.write value ++ "\n" ∧ outcome.errors = "") ∨
        ∃ reason, outcome.status = 1 ∧ outcome.output = "" ∧
          outcome.errors = "Error: " ++ reason ++ "\n") := by
  refine ⟨fun args command => ofArgs_extract, ?_⟩
  intro response signature settings strict outcome
  refine ⟨run_extract_aborted_iff, fun unbroken => ?_⟩
  cases ended : outcome with
  | done output =>
    obtain ⟨value, isJson, rfl⟩ := run_extract_done ended
    exact Or.inl ⟨value, isJson, rfl, rfl, rfl⟩
  | failed reason => exact Or.inr ⟨reason, rfl, rfl, rfl⟩
  | aborted cause => exact absurd (run_extract_aborted_iff.mp ⟨cause, ended⟩) unbroken

section Runs

def withFiles (entries : Files.Entries) : Surroundings :=
  { files := Files.ofEntries entries, input := "", environment := [], clock := .epoch,
    output := .utf8 }

private theorem load_without_manifest {files : Files}
    (missing : files.find Settings.manifestName = .error .missing) :
    Settings.load files none [] = .ok Settings.default := by
  have fields : Settings.manifestFields files none = .ok [] := by
    simp only [Settings.manifestFields, Option.getD_none, missing]
    rfl
  rw [Settings.load, fields]
  rfl

/-- Of an empty signature there is an empty record for every element. -/
theorem extract_ends_written :
    let around := withFiles [("q", .file [0x7b, 0x7d]), ("r", .file [0x5b, 0x31, 0x5d])]
    let outcome := run around (.extract "r" "q" none false)
    ofArgs ["extract", "r", "-s", "q"] = .ok (.extract "r" "q" none false) ∧
      ¬ ExtractBreaks around "r" "q" none false ∧
      outcome.status = 0 ∧ outcome.output = "[\n  \x7b\x7d\n]\n" := by
  intro around outcome
  have manifest : around.files.find Settings.manifestName = .error .missing := by decide +kernel
  have queryFound : around.files.find "q" = .ok (.file [0x7b, 0x7d]) := by decide +kernel
  have responseFound : around.files.find "r" = .ok (.file [0x5b, 0x31, 0x5d]) := by decide +kernel
  have queryDecoded : Text.Utf8.decode [0x7b, 0x7d] = .ok "\x7b\x7d" := by decide +kernel
  have responseDecoded : Text.Utf8.decode [0x5b, 0x31, 0x5d] = .ok "[1]" := by decide +kernel
  have made : extracted around "r" "q" none false = .ok (.list [.object []]) := by
    refine extracted_ok_iff.mpr ⟨Settings.default, ⟨"", [], none, none⟩, .list [.int 1], [[]],
      load_without_manifest manifest, ?_, ?_, rfl, rfl⟩
    · rw [Signature.load, Files.text_of_file queryFound, queryDecoded]
      rfl
    · have held : responseText around "r" = .ok "[1]" := by
        rw [responseText, if_neg (by decide), Files.text_of_file responseFound,
          responseDecoded]
        rfl
      rw [readResponse, held]
      rfl
  have done : outcome = .done "[\n  \x7b\x7d\n]\n" := by
    change Outcome.ofExcept (extracted around "r" "q" none false) (writeValue .utf8) = _
    rw [made]
    have formed : Json.strict? (.list [.object []]) = some (.list [.object []]) := rfl
    have ascii : Text.Consists Text.isAscii (Json.write (.list [.object []])) := by decide +kernel
    exact writeValue_of_kept formed (not_loses_write Output.utf8_hasAscii ascii)
  obtain ⟨-, ends⟩ := extract_ends around
  obtain ⟨aborted_iff, -⟩ := ends "r" "q" none false
  refine ⟨by decide, fun breaks => ?_, by rw [done]; rfl, by rw [done]; rfl⟩
  obtain ⟨cause, aborted⟩ := aborted_iff.mpr breaks
  exact absurd (aborted.symm.trans done) (by simp)

/-- A signature of a byte that is no text aborts the command. -/
theorem extract_aborts_of_signature :
    let around := withFiles [("q", .file [0xff]), ("r", .file [0x5b, 0x31, 0x5d])]
    ofArgs ["extract", "r", "-s", "q"] = .ok (.extract "r" "q" none false) ∧
      ∃ cause, run around (.extract "r" "q" none false) = .aborted cause := by
  intro around
  have manifest : around.files.find Settings.manifestName = .error .missing := by decide +kernel
  have found : around.files.find "q" = .ok (.file [0xff]) := by decide +kernel
  have refused : Text.Utf8.decode [0xff] = .error ⟨"utf-8", .invalidStart, 0, 1, 0xff⟩ := by
    decide +kernel
  exact ⟨by decide, run_extract_aborted_iff.mpr (.signature (load_without_manifest manifest)
    (.text (Or.inr ⟨_, _, found, refused⟩)))⟩

end Runs

end TypedRecords.Command
