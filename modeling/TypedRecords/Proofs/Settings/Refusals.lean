import TypedRecords.Proofs.Settings.Layers

/-!
The ways in which loading settings fails, one by one: the manifest has its own, and behind it the
first value that is refused decides.  So a failure tells of a wrong configuration, or refuses a
content or a value without telling so, or is neither: a manifest that the system does not read, or
an infinite size of the store.
-/

set_option autoImplicit false

namespace TypedRecords.Settings

open TypedRecords.Traversal

inductive ManifestFails (files : Files) (path : Option String) : Failure → Prop
  | unnamed {name : String} {obstacle : Files.Obstacle} : path = some name →
      files.find (manifestPath path) = .error obstacle → obstacle ≠ .longName →
      ManifestFails files path (.noManifest (Files.normal (manifestPath path)))
  | longName : files.find (manifestPath path) = .error .longName →
      ManifestFails files path
        (.unreadable (.unreachable .longName (Files.normal (manifestPath path))))
  | folder : files.find (manifestPath path) = .ok .folder →
      ManifestFails files path
        (.unreadable (.unreachable .isFolder (Files.normal (manifestPath path))))
  | encoding {bytes : List UInt8} {fault : Text.DecodingError} :
      files.find (manifestPath path) = .ok (.file bytes) →
      Text.Utf8.decode bytes = .error fault →
      ManifestFails files path (.unreadable (.notText fault))
  | malformed {text : String} : files.text (manifestPath path) = .ok text →
      Toml.read text = .error .malformed →
      ManifestFails files path (.malformed (Files.normal (manifestPath path)))
  | digits {text : String} {count : Nat} : files.text (manifestPath path) = .ok text →
      Toml.read text = .error (.tooManyDigits count) →
      ManifestFails files path (.tooManyDigits count)
  | notTable {text : String} {document : Fields} {value : Value} :
      files.text (manifestPath path) = .ok text → Toml.read text = .ok document →
      Fields.get? document tableName = some value → (∀ fields, value ≠ .object fields) →
      ManifestFails files path (.notTable (Files.normal (manifestPath path)))

/-- Loading comes to a content or a value that is refused without being told as wrong: a manifest
that is no text, an integer in it with more digits than are converted, or, as the first value that
is refused, one with an integer too long to be shown. -/
inductive LoadRefuses (files : Files) (path : Option String) (environment : Fields) : Prop
  | encoding : files.HoldsNoText (manifestPath path) → LoadRefuses files path environment
  | digits {text : String} {count : Nat} : files.text (manifestPath path) = .ok text →
      Toml.read text = .error (.tooManyDigits count) → LoadRefuses files path environment
  | value {manifest : Fields} : Given files path manifest →
      Layers.FirstRefuses ⟨manifest, environment⟩ .longInteger →
      LoadRefuses files path environment

/-- Loading is stopped by the system, which does not read the manifest, or by an infinite size of
the store, as the first value that is refused. -/
inductive LoadEscapes (files : Files) (path : Option String) (environment : Fields) : Prop
  | folder : files.find (manifestPath path) = .ok .folder → LoadEscapes files path environment
  | longName : files.find (manifestPath path) = .error .longName →
      LoadEscapes files path environment
  | infinite {manifest : Fields} : Given files path manifest →
      Layers.FirstRefuses ⟨manifest, environment⟩ .infiniteCacheSize →
      LoadEscapes files path environment

variable {files : Files} {path : Option String} {environment : Fields} {failure : Failure}

section Inversion

private theorem parseManifest_error_iff {name text : String} :
    parseManifest name text = .error failure ↔
      Toml.read text = .error .malformed ∧ failure = .malformed name ∨
      (∃ count, Toml.read text = .error (.tooManyDigits count) ∧ failure = .tooManyDigits count) ∨
      ∃ document value, Toml.read text = .ok document ∧
        Fields.get? document tableName = some value ∧ (∀ fields, value ≠ .object fields) ∧
        failure = .notTable name := by
  unfold parseManifest
  cases read : Toml.read text with
  | error cause => cases cause <;> simp [eq_comm]
  | ok document =>
    cases found : Fields.get? document tableName with
    | none => simp [table, found]
    | some value => cases value <;> simp [table, found, eq_comm]

private theorem manifestFails_of_error (failed : manifestFields files path = .error failure) :
    ManifestFails files path failure := by
  cases found : files.find (manifestPath path) with
  | error obstacle =>
    by_cases short : obstacle = .longName
    · subst short
      rw [manifestFields_of_long found] at failed
      exact Except.error.inj failed ▸ .longName found
    · rw [manifestFields_of_missing short found] at failed
      cases path with
      | none => cases failed
      | some name => exact Except.error.inj failed ▸ .unnamed rfl found short
  | ok entry =>
    cases entry with
    | folder =>
      rw [manifestFields_of_found found, readManifest, Files.text_of_folder found] at failed
      exact Except.error.inj failed ▸ .folder found
    | file bytes =>
      cases decoded : Text.Utf8.decode bytes with
      | error fault =>
        rw [manifestFields_of_found found, readManifest, Files.text_of_file found,
          decoded] at failed
        exact Except.error.inj failed ▸ .encoding found decoded
      | ok text =>
        have held : files.text (manifestPath path) = .ok (Text.withLineFeeds text) := by
          rw [Files.text_of_file found, decoded]
        rw [manifestFields_of_text held] at failed
        rcases parseManifest_error_iff.mp failed with ⟨read, rfl⟩ | ⟨count, read, rfl⟩ |
          ⟨document, value, read, there, other, rfl⟩
        · exact .malformed held read
        · exact .digits held read
        · exact .notTable held read there other

private theorem manifestFields_error_iff :
    manifestFields files path = .error failure ↔ ManifestFails files path failure := by
  refine ⟨manifestFails_of_error, fun fails => ?_⟩
  cases fails with
  | unnamed named blocked short =>
    subst named
    rw [manifestFields_of_missing short blocked]
    rfl
  | longName blocked => exact manifestFields_of_long blocked
  | folder found =>
    rw [manifestFields_of_found found, readManifest, Files.text_of_folder found]
  | encoding found decoded =>
    rw [manifestFields_of_found found, readManifest, Files.text_of_file found, decoded]
  | malformed held read =>
    rw [manifestFields_of_text held]
    exact parseManifest_error_iff.mpr (Or.inl ⟨read, rfl⟩)
  | digits held read =>
    rw [manifestFields_of_text held]
    exact parseManifest_error_iff.mpr (Or.inr (Or.inl ⟨_, read, rfl⟩))
  | notTable held read there other =>
    rw [manifestFields_of_text held]
    exact parseManifest_error_iff.mpr (Or.inr (Or.inr ⟨_, _, read, there, other, rfl⟩))

theorem load_fails_iff :
    load files path environment = .error failure ↔
      ManifestFails files path failure ∨
        ∃ manifest cause, Given files path manifest ∧
          Layers.FirstRefuses ⟨manifest, environment⟩ cause ∧ failure = .field cause := by
  rw [← manifestFields_error_iff]
  constructor
  · intro failed
    rcases bind_error_iff.mp failed with refused | ⟨manifest, found, -⟩
    · exact Or.inl refused
    · have given := manifestFields_ok_iff.mp found
      obtain ⟨cause, rfl, first⟩ := (load_error_iff given).mp failed
      exact Or.inr ⟨manifest, cause, given, first, rfl⟩
  · rintro (refused | ⟨manifest, cause, given, first, rfl⟩)
    · exact bind_error_iff.mpr (Or.inl refused)
    · exact (load_error_iff given).mpr ⟨cause, rfl, first⟩

end Inversion

section Kinds

/-- A failure is refused without being told as wrong just where loading comes to such a content or
value. -/
theorem load_refuses_iff :
    (∃ failure, load files path environment = .error failure ∧ failure.isRefusal = true) ↔
      LoadRefuses files path environment := by
  simp only [load_fails_iff]
  constructor
  · rintro ⟨failure, fails | ⟨manifest, cause, given, first, rfl⟩, refusal⟩
    · cases fails with
      | encoding found decoded => exact .encoding ⟨_, _, found, decoded⟩
      | digits held read => exact .digits held read
      | _ => cases refusal
    · cases cause with
      | longInteger => exact .value given first
      | _ => cases refusal
  · rintro (⟨bytes, fault, found, decoded⟩ | ⟨held, read⟩ | ⟨given, first⟩)
    · exact ⟨_, Or.inl (.encoding found decoded), rfl⟩
    · exact ⟨_, Or.inl (.digits held read), rfl⟩
    · exact ⟨_, Or.inr ⟨_, _, given, first, rfl⟩, rfl⟩

/-- A failure neither tells of a wrong configuration nor refuses something just where the system
does not read the manifest, or where the size of the store is infinite. -/
theorem load_escapes_iff :
    (∃ failure, load files path environment = .error failure ∧
      failure.isWrongSetting = false ∧ failure.isRefusal = false) ↔
      LoadEscapes files path environment := by
  simp only [load_fails_iff]
  constructor
  · rintro ⟨failure, fails | ⟨manifest, cause, given, first, rfl⟩, untold, unrefused⟩
    · cases fails with
      | folder found => exact .folder found
      | longName blocked => exact .longName blocked
      | encoding => cases unrefused
      | digits => cases unrefused
      | _ => cases untold
    · cases cause with
      | infiniteCacheSize => exact .infinite given first
      | longInteger => cases unrefused
      | _ => cases untold
  · rintro (found | blocked | ⟨given, first⟩)
    · exact ⟨_, Or.inl (.folder found), rfl, rfl⟩
    · exact ⟨_, Or.inl (.longName blocked), rfl, rfl⟩
    · exact ⟨_, Or.inr ⟨_, _, given, first, rfl⟩, rfl, rfl⟩

private theorem not_refusal_of_wrong (told : failure.isWrongSetting = true) :
    failure.isRefusal = false := by
  cases failure with
  | field cause =>
    cases cause with
    | longInteger => cases told
    | _ => rfl
  | unreadable => cases told
  | tooManyDigits => cases told
  | _ => rfl

theorem not_breaks_of_told (failed : load files path environment = .error failure)
    (told : failure.isWrongSetting = true) :
    ¬ LoadRefuses files path environment ∧ ¬ LoadEscapes files path environment := by
  rw [← load_refuses_iff, ← load_escapes_iff, failed]
  constructor
  · rintro ⟨other, same, refusal⟩
    obtain rfl := Except.error.inj same
    cases refusal.symm.trans (not_refusal_of_wrong told)
  · rintro ⟨other, same, untold, -⟩
    obtain rfl := Except.error.inj same
    cases told.symm.trans untold

theorem not_escapes_of_refuses (refuses : LoadRefuses files path environment) :
    ¬ LoadEscapes files path environment := by
  rw [← load_escapes_iff]
  obtain ⟨failure, failed, refusal⟩ := load_refuses_iff.mpr refuses
  rintro ⟨other, failed', -, unrefused⟩
  obtain rfl := Except.error.inj (failed.symm.trans failed')
  cases refusal.symm.trans unrefused

end Kinds

section Wording

def BeginsWith (text : String) (c : Char) : Prop :=
  text.toList.head? = some c

instance (text : String) (c : Char) : Decidable (BeginsWith text c) :=
  inferInstanceAs (Decidable (_ = _))

theorem BeginsWith.append {text : String} {c : Char} (begins : BeginsWith text c)
    (more : String) : BeginsWith (text ++ more) c := by
  unfold BeginsWith at begins ⊢
  rw [String.toList_append, List.head?_append, begins]
  rfl

private theorem showing_of_told {value : Value} {failure : FieldFailure}
    (told : (showing value failure).isWrongSetting = true) : showing value failure = failure := by
  unfold showing at told ⊢
  split
  · rfl
  · rename_i hidden
    rw [if_neg hidden] at told
    cases told

private theorem Refuses.message_begins {layer : Layer} {field : Field} {value : Value}
    {failure : FieldFailure} (refuses : Refuses layer.names field value failure)
    (told : failure.isWrongSetting = true) :
    ∃ c, BeginsWith failure.message c ∧ c ≠ '-' := by
  cases refuses with
  | currency =>
    rw [showing_of_told told]
    exact ⟨'C', .append (by decide) _, by decide⟩
  | strict =>
    rw [showing_of_told told]
    cases layer with
    | manifest => exact ⟨'s', .append (.append (by decide) _) _, by decide⟩
    | environment => exact ⟨'R', .append (.append (by decide) _) _, by decide⟩
  | infinite => cases told
  | cacheSize =>
    rw [showing_of_told told]
    exact ⟨'p', .append (by decide) _, by decide⟩
  | negative =>
    rw [showing_of_told told]
    exact ⟨'p', .append (by decide) _, by decide⟩
  | missing =>
    rw [showing_of_told told]
    exact ⟨'m', .append (.append (.append (by decide) _) _) _, by decide⟩

theorem load_message_begins (failed : load files path environment = .error failure)
    (told : failure.isWrongSetting = true) : ∃ c, BeginsWith failure.message c ∧ c ≠ '-' := by
  rcases load_fails_iff.mp failed with fails | ⟨manifest, cause, given, first, rfl⟩
  · cases fails with
    | unnamed => exact ⟨'C', .append (by decide) _, by decide⟩
    | malformed => exact ⟨'I', .append (by decide) _, by decide⟩
    | notTable => exact ⟨'[', .append (.append (.append (by decide) _) _) _, by decide⟩
    | _ => cases told
  · obtain ⟨before, ⟨layer, field⟩, after, -, -, value, -, refuses⟩ := first
    exact refuses.message_begins told

end Wording

end TypedRecords.Settings
