import TypedRecords.Proofs.Files.Text
import TypedRecords.Settings.Load

/-!
Loading settings.  A size of the store that is loaded is not negative; and loading fails otherwise
than by telling what is wrong just where the manifest is refused as text or as numbers, or where a
value among the settings cannot be shown or is an infinite size, or is a negative size of too many
digits.
-/

set_option autoImplicit false

namespace TypedRecords.Settings

open TypedRecords.Traversal

def Unforeseen {α : Type} (outcome : Except FieldFailure α) : Prop :=
  ∃ failure, outcome = .error failure ∧ failure.isWrongSetting = false

def Passes {α : Type} (fields : Fields) (name : String) (read : Value → Except FieldFailure α) :
    Prop :=
  ∀ value, Fields.get? fields name = some value → ∃ result, read value = .ok result

def IsInfinite (value : Value) : Prop :=
  ∃ negative, value = .float (.infinite negative)

/-- The value is taken for a negative integer that is too long to be shown. -/
def IsLongNegative (value : Value) : Prop :=
  ∃ n, integerOf value = .ok n ∧ n < 0 ∧ isShowable (.int n) = false

/-- Reading the settings among some fields, in their order, comes to a value that is no setting and
cannot be shown, to an infinite size, or to a negative size that cannot be shown. -/
inductive FieldsBreak (names : Names) (fields : Fields) : Prop
  | currency {value : Value} : Fields.get? fields names.currency = some value →
      isShowable value = false → FieldsBreak names fields
  | strict {value : Value} : Passes fields names.currency readCurrency →
      Fields.get? fields names.strict = some value →
      word value ∉ onWords → word value ∉ offWords → isShowable value = false →
      FieldsBreak names fields
  | cacheSize {value : Value} : Passes fields names.currency readCurrency →
      Passes fields names.strict (readSwitch names.strict) →
      Fields.get? fields names.cacheSize = some value →
      (IsInfinite value ∨ (∀ n, value ≠ .int n) ∧ isShowable value = false ∨
        IsLongNegative value) →
      FieldsBreak names fields
  | missing {value : Value} : Passes fields names.currency readCurrency →
      Passes fields names.strict (readSwitch names.strict) →
      Passes fields names.cacheSize readCacheSize →
      Fields.get? fields names.missing = some value →
      MissingPolicy.ofName? (word value) = none → isShowable value = false →
      FieldsBreak names fields

section Field

@[simp] private theorem unforeseen_ok {α : Type} (result : α) :
    ¬ Unforeseen (.ok result : Except FieldFailure α) := by
  rintro ⟨failure, failed, -⟩
  cases failed

@[simp] private theorem unforeseen_error_iff {α : Type} {failure : FieldFailure} :
    Unforeseen (.error failure : Except FieldFailure α) ↔ failure.isWrongSetting = false := by
  simp [Unforeseen]

private theorem showing_isWrongSetting {value : Value} {failure : FieldFailure}
    (wrong : failure.isWrongSetting = true) :
    (showing value failure).isWrongSetting = isShowable value := by
  unfold showing
  split
  · rename_i showable
    rw [wrong, showable]
  · rename_i hidden
    rw [Bool.eq_false_iff.mpr hidden]
    rfl

private theorem readCurrency_unforeseen_iff {value : Value} :
    Unforeseen (readCurrency value) ↔ isShowable value = false := by
  unfold readCurrency
  split
  · refine iff_of_false ?_ (by simp [isShowable])
    split
    · exact unforeseen_ok _
    · simp [FieldFailure.isWrongSetting]
  · rw [unforeseen_error_iff, showing_isWrongSetting rfl]

private theorem readSwitch_unforeseen_iff {name : String} {value : Value} :
    Unforeseen (readSwitch name value) ↔
      word value ∉ onWords ∧ word value ∉ offWords ∧ isShowable value = false := by
  unfold readSwitch
  split
  · refine iff_of_false (unforeseen_ok _) (by simp [isShowable])
  · simp only [List.contains_iff_mem]
    split
    · rename_i on
      exact iff_of_false (unforeseen_ok _) fun ⟨off, _⟩ => off on
    · rename_i notOn
      split
      · rename_i off
        exact iff_of_false (unforeseen_ok _) fun ⟨_, other, _⟩ => other off
      · rename_i notOff
        rw [unforeseen_error_iff, showing_isWrongSetting rfl]
        simp [notOn, notOff]

private theorem integerOf_unforeseen_iff {value : Value} :
    Unforeseen (integerOf value) ↔
      IsInfinite value ∨ (∀ n, value ≠ .int n) ∧ isShowable value = false := by
  have shown {failure : FieldFailure} (wrong : failure.isWrongSetting = true) :
      Unforeseen (.error (showing value failure) : Except FieldFailure Int) ↔
        isShowable value = false := by
    rw [unforeseen_error_iff, showing_isWrongSetting wrong]
  have told {failure : FieldFailure} (wrong : failure.isWrongSetting = true) :
      ¬ Unforeseen (.error failure : Except FieldFailure Int) := by
    simp [wrong]
  cases value with
  | bool b => exact iff_of_false (unforeseen_ok _) (by simp [IsInfinite, isShowable])
  | int n => exact iff_of_false (unforeseen_ok _) (by simp [IsInfinite])
  | float x =>
    cases x with
    | infinite negative =>
      exact iff_of_true (unforeseen_error_iff.mpr rfl) (Or.inl ⟨negative, rfl⟩)
    | nan => exact iff_of_false (told rfl) (by simp [IsInfinite, isShowable])
    | finite negative mantissa exponent =>
      refine iff_of_false ?_ (by simp [IsInfinite, isShowable])
      simp only [integerOf]
      split
      · exact unforeseen_ok _
      · exact told rfl
  | text s =>
    refine iff_of_false ?_ (by simp [IsInfinite, isShowable])
    unfold integerOf
    dsimp only
    split
    · exact unforeseen_ok _
    · exact told rfl
  | _ => exact (shown rfl).trans (by simp [IsInfinite])

private theorem readCacheSize_unforeseen_iff {value : Value} :
    Unforeseen (readCacheSize value) ↔
      IsInfinite value ∨ (∀ n, value ≠ .int n) ∧ isShowable value = false ∨
        IsLongNegative value := by
  rw [← or_assoc, ← integerOf_unforeseen_iff]
  unfold readCacheSize IsLongNegative
  cases integerOf value with
  | error failure => simp [Except.bind]
  | ok size =>
    simp only [Except.bind, unforeseen_ok, false_or, Except.ok.injEq, exists_eq_left']
    split
    · rename_i negative
      rw [unforeseen_error_iff, showing_isWrongSetting rfl]
      simp [negative]
    · rename_i nonneg
      exact iff_of_false (unforeseen_ok size) fun long => nonneg long.1

private theorem readCacheSize_nonneg {value : Value} {size : Int}
    (made : readCacheSize value = .ok size) :
    0 ≤ size := by
  obtain ⟨own, -, passed⟩ := bind_ok_iff.mp made
  split at passed
  · cases passed
  · obtain rfl := Except.ok.inj passed
    omega

private theorem readMissing_unforeseen_iff {value : Value} :
    Unforeseen (readMissing value) ↔
      MissingPolicy.ofName? (word value) = none ∧ isShowable value = false := by
  unfold readMissing
  split
  · rename_i policy found
    exact iff_of_false (unforeseen_ok _) fun ⟨missing, _⟩ => by simp [found] at missing
  · rename_i unknown
    rw [unforeseen_error_iff, showing_isWrongSetting rfl]
    simp [unknown]

end Field

section Apply

variable {names : Names} {fields : Fields}

theorem overlay_ok_iff {α : Type} {name : String} {current : α}
    {read : Value → Except FieldFailure α} :
    (∃ result, overlay fields name current read = .ok result) ↔ Passes fields name read := by
  unfold overlay Passes
  cases Fields.get? fields name <;> simp

private theorem overlay_unforeseen_iff {α : Type} {name : String} {current : α}
    {read : Value → Except FieldFailure α} :
    Unforeseen (overlay fields name current read) ↔
      ∃ value, Fields.get? fields name = some value ∧ Unforeseen (read value) := by
  unfold overlay
  cases Fields.get? fields name with
  | none => simp
  | some value => simp

private theorem bind_unforeseen_iff {α β : Type} {first : Except FieldFailure α}
    {next : α → Except FieldFailure β} {holds : Prop}
    (second : ∀ result, first = .ok result → (Unforeseen (next result) ↔ holds)) :
    Unforeseen (first.bind next) ↔ Unforeseen first ∨ (∃ result, first = .ok result) ∧ holds := by
  cases first with
  | error failure => simp [Except.bind]
  | ok result => simp [Except.bind, second result rfl]

private theorem apply_unforeseen_iff (settings : Settings) :
    Unforeseen (apply names fields settings) ↔ FieldsBreak names fields := by
  have inOrder : Unforeseen (apply names fields settings) ↔
      Unforeseen (overlay fields names.currency settings.currency readCurrency) ∨
        (∃ code, overlay fields names.currency settings.currency readCurrency = .ok code) ∧
      (Unforeseen (overlay fields names.strict settings.strict (readSwitch names.strict)) ∨
        (∃ switch, overlay fields names.strict settings.strict (readSwitch names.strict) =
          .ok switch) ∧
      (Unforeseen (overlay fields names.cacheSize settings.cacheSize readCacheSize) ∨
        (∃ size, overlay fields names.cacheSize settings.cacheSize readCacheSize = .ok size) ∧
      (Unforeseen (overlay fields names.missing settings.missing readMissing) ∨
        (∃ policy, overlay fields names.missing settings.missing readMissing = .ok policy) ∧
      False))) :=
    bind_unforeseen_iff fun _ _ => bind_unforeseen_iff fun _ _ => bind_unforeseen_iff fun _ _ =>
      bind_unforeseen_iff fun _ _ => iff_false_intro (unforeseen_ok _)
  rw [inOrder]
  simp only [overlay_unforeseen_iff, overlay_ok_iff, readCurrency_unforeseen_iff,
    readSwitch_unforeseen_iff, readCacheSize_unforeseen_iff, readMissing_unforeseen_iff, and_false,
    or_false]
  constructor
  · rintro (⟨value, found, hidden⟩ | ⟨currency, ⟨value, found, notOn, notOff, hidden⟩ |
      ⟨strict, ⟨value, found, broken⟩ | ⟨size, value, found, unknown, hidden⟩⟩⟩)
    · exact .currency found hidden
    · exact .strict currency found notOn notOff hidden
    · exact .cacheSize currency strict found broken
    · exact .missing currency strict size found unknown hidden
  · rintro (⟨found, hidden⟩ | ⟨currency, found, notOn, notOff, hidden⟩ |
      ⟨currency, strict, found, broken⟩ | ⟨currency, strict, size, found, unknown, hidden⟩)
    · exact Or.inl ⟨_, found, hidden⟩
    · exact Or.inr ⟨currency, Or.inl ⟨_, found, notOn, notOff, hidden⟩⟩
    · exact Or.inr ⟨currency, Or.inr ⟨strict, Or.inl ⟨_, found, broken⟩⟩⟩
    · exact Or.inr ⟨currency, Or.inr ⟨strict, Or.inr ⟨size, _, found, unknown, hidden⟩⟩⟩

private theorem apply_cacheSize_nonneg {settings result : Settings}
    (nonneg : 0 ≤ settings.cacheSize)
    (made : apply names fields settings = .ok result) : 0 ≤ result.cacheSize := by
  obtain ⟨currency, -, made⟩ := bind_ok_iff.mp made
  obtain ⟨strict, -, made⟩ := bind_ok_iff.mp made
  obtain ⟨cacheSize, laid, made⟩ := bind_ok_iff.mp made
  obtain ⟨missing, -, made⟩ := bind_ok_iff.mp made
  obtain rfl := Except.ok.inj made
  unfold overlay at laid
  split at laid
  · obtain rfl := Except.ok.inj laid
    exact nonneg
  · exact readCacheSize_nonneg laid

end Apply

section Load

def manifestPath (path : Option String) : String :=
  path.getD manifestName

/-- Loading settings comes to something that is not told as wrong: a manifest that is no text, an
integer in it with more digits than are converted, or a value among the settings of the manifest or
the environment that reading breaks at. -/
inductive LoadBreaks (files : Files) (path : Option String) (environment : Fields) : Prop
  | encoding : files.HoldsNoText (manifestPath path) → LoadBreaks files path environment
  | digits {text : String} {count : Nat} : files.text (manifestPath path) = .ok text →
      Toml.read text = .error (.tooManyDigits count) → LoadBreaks files path environment
  | manifest {fields : Fields} : manifestFields files path = .ok fields →
      FieldsBreak manifestNames fields → LoadBreaks files path environment
  | environment {fields : Fields} {settings : Settings} :
      manifestFields files path = .ok fields →
      apply manifestNames fields Settings.default = .ok settings →
      FieldsBreak environmentNames environment → LoadBreaks files path environment

variable {files : Files} {path : Option String} {environment : Fields}

/-- The failure is not told as a wrong configuration, and is none of the system. -/
def Failure.IsUntold (failure : Failure) : Prop :=
  failure.isWrongSetting = false ∧ failure.isSystemError = false

private theorem parseManifest_untold_iff {name text : String} :
    (∃ failure, parseManifest name text = .error failure ∧ failure.IsUntold) ↔
      ∃ count, Toml.read text = .error (.tooManyDigits count) := by
  unfold parseManifest
  cases Toml.read text with
  | error cause =>
    cases cause with
    | malformed => simp [Failure.IsUntold, Failure.isWrongSetting]
    | tooManyDigits count =>
      simp [Failure.IsUntold, Failure.isWrongSetting, Failure.isSystemError]
  | ok document =>
    dsimp only
    unfold table
    split <;> simp [Failure.IsUntold, Failure.isWrongSetting]

private theorem readManifest_untold_iff {name : String} :
    (∃ failure, readManifest files name = .error failure ∧ failure.IsUntold) ↔
      files.RefusesText name ∨
        ∃ text count, files.text name = .ok text ∧
          Toml.read text = .error (.tooManyDigits count) := by
  rw [← Files.text_refused_iff]
  unfold readManifest
  cases files.text name with
  | error failure => simp [Failure.IsUntold, Failure.isWrongSetting, Failure.isSystemError]
  | ok text =>
    dsimp only
    rw [parseManifest_untold_iff]
    simp

theorem manifestFields_of_found {entry : Files.Entry}
    (found : files.find (manifestPath path) = .ok entry) :
    manifestFields files path = readManifest files (manifestPath path) := by
  unfold manifestPath at found ⊢
  simp only [manifestFields, found]

private theorem manifestFields_told {obstacle : Files.Obstacle} {failure : Failure}
    (blocked : files.find (manifestPath path) = .error obstacle)
    (failed : manifestFields files path = .error failure) : ¬ failure.IsUntold := by
  unfold manifestPath at blocked
  have named : (if path.isSome then .error (.noManifest (Files.normal (path.getD manifestName)))
      else .ok [] : Except Failure Fields) = .error failure → ¬ failure.IsUntold := by
    intro failed
    split at failed
    · obtain rfl := Except.error.inj failed
      simp [Failure.IsUntold, Failure.isWrongSetting]
    · cases failed
  simp only [manifestFields, blocked] at failed
  cases obstacle with
  | longName =>
    obtain rfl := Except.error.inj failed
    simp [Failure.IsUntold, Failure.isSystemError, Files.Failure.isSystemError]
  | _ => exact named failed

private theorem manifestFields_untold_iff :
    (∃ failure, manifestFields files path = .error failure ∧ failure.IsUntold) ↔
      files.HoldsNoText (manifestPath path) ∨
        ∃ text count, files.text (manifestPath path) = .ok text ∧
          Toml.read text = .error (.tooManyDigits count) := by
  cases found : files.find (manifestPath path) with
  | ok entry =>
    rw [manifestFields_of_found found, readManifest_untold_iff]
    simp [Files.RefusesText, found]
  | error obstacle =>
    refine iff_of_false ?_ ?_
    · rintro ⟨failure, failed, untold⟩
      exact manifestFields_told found failed untold
    · rintro (⟨bytes, fault, held, -⟩ | ⟨text, count, held, -⟩)
      · rw [found] at held
        cases held
      · rw [Files.text_of_error found] at held
        cases held

theorem load_untold_iff :
    (∃ failure, load files path environment = .error failure ∧ failure.IsUntold) ↔
      LoadBreaks files path environment := by
  have field_iff {cause : FieldFailure} :
      (Failure.field cause).IsUntold ↔ cause.isWrongSetting = false := by
    simp [Failure.IsUntold, Failure.isWrongSetting, Failure.isSystemError]
  constructor
  · rintro ⟨failure, failed, untold⟩
    rcases bind_error_iff.mp failed with failed | ⟨fields, found, failed⟩
    · rcases manifestFields_untold_iff.mp ⟨failure, failed, untold⟩ with
        held | ⟨text, count, held, long⟩
      · exact .encoding held
      · exact .digits held long
    rcases bind_error_iff.mp failed with failed | ⟨settings, laid, failed⟩
    · obtain ⟨cause, broken, rfl⟩ := mapError_error_iff.mp failed
      exact .manifest found ((apply_unforeseen_iff _).mp ⟨cause, broken, field_iff.mp untold⟩)
    · obtain ⟨cause, broken, rfl⟩ := mapError_error_iff.mp failed
      exact .environment found (mapError_ok_iff.mp laid)
        ((apply_unforeseen_iff _).mp ⟨cause, broken, field_iff.mp untold⟩)
  · rintro (held | ⟨held, long⟩ | ⟨found, broken⟩ | ⟨found, laid, broken⟩)
    · obtain ⟨failure, failed, untold⟩ := manifestFields_untold_iff.mpr (Or.inl held)
      exact ⟨failure, bind_error_iff.mpr (Or.inl failed), untold⟩
    · obtain ⟨failure, failed, untold⟩ :=
        manifestFields_untold_iff.mpr (Or.inr ⟨_, _, held, long⟩)
      exact ⟨failure, bind_error_iff.mpr (Or.inl failed), untold⟩
    · obtain ⟨cause, refused, unforeseen⟩ := (apply_unforeseen_iff Settings.default).mpr broken
      refine ⟨.field cause, bind_error_iff.mpr (Or.inr ⟨_, found, bind_error_iff.mpr (Or.inl ?_)⟩),
        field_iff.mpr unforeseen⟩
      exact mapError_error_iff.mpr ⟨cause, refused, rfl⟩
    · obtain ⟨cause, refused, unforeseen⟩ := (apply_unforeseen_iff _).mpr broken
      refine ⟨.field cause, bind_error_iff.mpr (Or.inr ⟨_, found,
        bind_error_iff.mpr (Or.inr ⟨_, mapError_ok_iff.mpr laid, ?_⟩)⟩), field_iff.mpr unforeseen⟩
      exact mapError_error_iff.mpr ⟨cause, refused, rfl⟩

theorem load_cacheSize_nonneg {settings : Settings}
    (made : load files path environment = .ok settings) : 0 ≤ settings.cacheSize := by
  obtain ⟨fields, -, made⟩ := bind_ok_iff.mp made
  obtain ⟨first, laid, made⟩ := bind_ok_iff.mp made
  have nonneg : (0 : Int) ≤ Settings.default.cacheSize := by decide
  exact apply_cacheSize_nonneg (apply_cacheSize_nonneg nonneg (mapError_ok_iff.mp laid))
    (mapError_ok_iff.mp made)

end Load

end TypedRecords.Settings
