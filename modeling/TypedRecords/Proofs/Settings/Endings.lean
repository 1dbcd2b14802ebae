import TypedRecords.Proofs.Settings.Refusals
import TypedRecords.Proofs.Toml.LongIntegers

/-!
How loading settings ends.  From a manifest that is text, or without one, it gives settings or tells
what is wrong with the configuration, unless it breaks at something that is neither.
-/

set_option autoImplicit false

namespace TypedRecords.Settings

open TypedRecords.Traversal

variable {files : Files} {path : Option String} {environment : Fields}

def IsTextOrMissing (files : Files) (path : Option String) : Prop :=
  (∃ text, files.text (manifestPath path) = .ok text) ∨
    ∃ obstacle, files.find (manifestPath path) = .error obstacle

def LoadsOrTells (files : Files) (path : Option String) (environment : Fields) : Prop :=
  (∃ settings, load files path environment = .ok settings) ∨
    ∃ failure, load files path environment = .error failure ∧ failure.isWrongSetting = true

private theorem load_system_iff (readable : IsTextOrMissing files path) (environment : Fields) :
    (∃ failure, load files path environment = .error failure ∧ failure.isSystemError = true) ↔
      files.find (manifestPath path) = .error .longName := by
  simp only [load_fails_iff]
  constructor
  · rintro ⟨failure, fails | ⟨manifest, cause, -, -, rfl⟩, refused⟩
    · cases fails with
      | longName blocked => exact blocked
      | folder found =>
        rcases readable with ⟨text, held⟩ | ⟨obstacle, blocked⟩
        · cases (Files.text_of_folder found).symm.trans held
        · cases found.symm.trans blocked
      | _ => cases refused
    · cases refused
  · intro blocked
    exact ⟨_, Or.inl (.longName blocked), rfl⟩

private theorem Failure.not_system_of_wrong {failure : Failure}
    (wrong : failure.isWrongSetting = true) :
    failure.isSystemError = false := by
  cases failure with
  | unreadable cause => cases wrong
  | _ => rfl

theorem loadsOrTells_iff (readable : IsTextOrMissing files path) :
    LoadsOrTells files path environment ↔
      files.find (manifestPath path) ≠ .error .longName ∧
        ¬ LoadBreaks files path environment := by
  rw [ne_eq, ← load_system_iff readable environment, ← load_untold_iff]
  constructor
  · rintro (⟨settings, made⟩ | ⟨failure, failed, wrong⟩)
    · simp [made]
    · simp [failed, wrong, failure.not_system_of_wrong wrong, Failure.IsUntold]
  · rintro ⟨unrefused, untold⟩
    cases outcome : load files path environment with
    | ok settings => exact Or.inl ⟨settings, outcome⟩
    | error failure =>
      refine Or.inr ⟨failure, outcome, ?_⟩
      by_contra other
      cases system : failure.isSystemError with
      | true => exact unrefused ⟨failure, outcome, system⟩
      | false => exact untold ⟨failure, outcome, Bool.eq_false_iff.mpr other, system⟩

def leastTooLong : Int := Int.pow 10 Numeric.digitLimit

/-- From a manifest that is text, or without one, loading gives settings or tells of a wrong
configuration, unless the name of the manifest is too long for the system, or loading breaks: at an
integer of the manifest with more digits than are converted, or at a value that reading the settings
breaks at.  The digits of such an integer stand in the manifest, in a row with nothing but
underscores between them. -/
theorem load_told_iff (readable : IsTextOrMissing files path) :
    (LoadsOrTells files path environment ↔
      files.find (manifestPath path) ≠ .error .longName ∧
        ¬ LoadBreaks files path environment) ∧
      ∀ text count, files.text (manifestPath path) = .ok text →
        Toml.read text = .error (.tooManyDigits count) → Toml.HasLongRun count text.toList := by
  refine ⟨loadsOrTells_iff readable, ?_⟩
  intro text count _ refused
  exact Toml.hasLongRun_of_read refused

/-- Without a manifest and with a size of the store in the environment that is negative and too long
to be shown, loading does not tell what is wrong. -/
theorem load_told_iff_long_negative :
    let environment : Fields := [("RESPCAST_PATH_CACHE_SIZE", .int (-leastTooLong))]
    IsTextOrMissing Files.none none ∧ LoadBreaks Files.none none environment ∧
      ¬ LoadsOrTells Files.none none environment := by
  intro environment
  have missing : Files.none.find manifestName = .error .missing := by decide +kernel
  have given : Given Files.none none [] := .absent rfl missing (by decide)
  have laid : apply manifestNames [] Settings.default = .ok Settings.default := rfl
  have long : IsLongNegative (.int (-leastTooLong)) :=
    ⟨_, rfl, by decide +kernel, by decide +kernel⟩
  have admitted {α : Type} {name : String} (read : Value → Except FieldFailure α)
      (other : name ≠ "RESPCAST_PATH_CACHE_SIZE") : Passes environment name read := by
    intro value found
    rw [Fields.get?_cons, if_neg other.symm] at found
    cases found
  have breaks : LoadBreaks Files.none none environment :=
    .environment (manifestFields_ok_iff.mpr given) laid
      (.cacheSize (admitted _ (by decide)) (admitted _ (by decide)) rfl (Or.inr (Or.inr long)))
  have readable : IsTextOrMissing Files.none none := Or.inr ⟨_, missing⟩
  exact ⟨readable, breaks, fun ends => ((load_told_iff readable).1.mp ends).2 breaks⟩

/-- An infinite size of the store in a manifest is not told as a wrong configuration. -/
theorem load_fails_at_infinite_size :
    let files := withManifest "[respcast]\npath_cache_size=inf"
    IsTextOrMissing files none ∧ load files none [] = .error (.field .infiniteCacheSize) ∧
      ¬ LoadsOrTells files none [] := by
  intro files
  have held : files.text (manifestPath none) = .ok "[respcast]\npath_cache_size=inf" := by
    decide +kernel
  have read : Toml.read "[respcast]\npath_cache_size=inf" =
      .ok [("respcast", .object [("path_cache_size", .float (.infinite false))])] := by cbv
  have fails : load files none [] = .error (.field .infiniteCacheSize) := by
    rw [load_of_given (.table held read rfl)]
    rfl
  refine ⟨Or.inl ⟨_, held⟩, fails, ?_⟩
  rintro (⟨settings, made⟩ | ⟨failure, failed, wrong⟩)
  · cases fails.symm.trans made
  · obtain rfl := Except.error.inj (fails.symm.trans failed)
    cases wrong

end TypedRecords.Settings
