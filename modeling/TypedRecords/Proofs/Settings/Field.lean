import TypedRecords.Proofs.Settings.Loading

/-!
The four settings one by one: what a value means as each of them, and how a value that means none is
refused.
-/

set_option autoImplicit false

namespace TypedRecords.Settings

open TypedRecords.Text (isLetter)
open TypedRecords.Traversal

inductive Field where
  | currency
  | strict
  | cacheSize
  | missing
  deriving DecidableEq

namespace Field

abbrev Setting : Field → Type
  | .currency => String
  | .strict => Bool
  | .cacheSize => Int
  | .missing => MissingPolicy

def all : List Field := [.currency, .strict, .cacheSize, .missing]

def name (names : Names) : Field → String
  | .currency => names.currency
  | .strict => names.strict
  | .cacheSize => names.cacheSize
  | .missing => names.missing

def read (names : Names) : (field : Field) → Value → Except FieldFailure field.Setting
  | .currency => readCurrency
  | .strict => readSwitch names.strict
  | .cacheSize => readCacheSize
  | .missing => readMissing

end Field

def get (settings : Settings) : (field : Field) → field.Setting
  | .currency => settings.currency
  | .strict => settings.strict
  | .cacheSize => settings.cacheSize
  | .missing => settings.missing

/-- What a value means as a field: a code of three letters, in small letters; on or off by a word;
an integer that is not negative; a policy by its name.  Words and names are taken without the white
space around them and in any case of letters. -/
inductive Means : (field : Field) → Value → field.Setting → Prop
  | currency {code : String} : code.length = 3 → (∀ c ∈ code.toList, isLetter c = true) →
      Means .currency (.text code) (Text.Case.lower code)
  | on {value : Value} : word value ∈ onWords → Means .strict value true
  | off {value : Value} : word value ∈ offWords → Means .strict value false
  | cacheSize {value : Value} {n : Int} : integerOf value = .ok n → 0 ≤ n →
      Means .cacheSize value n
  | missing {value : Value} {policy : MissingPolicy} : word value = policy.name →
      Means .missing value policy

/-- How a value is refused as a field of a layer.  It is shown in the refusal if it can be shown,
and an infinite size is told by itself. -/
inductive Refuses (names : Names) : Field → Value → FieldFailure → Prop
  | currency {value : Value} : (∀ code, ¬ Means .currency value code) →
      Refuses names .currency value (showing value (.badCurrency value))
  | strict {value : Value} : (∀ switch, ¬ Means .strict value switch) →
      Refuses names .strict value (showing value (.badSwitch names.strict value))
  | infinite {value : Value} : IsInfinite value →
      Refuses names .cacheSize value .infiniteCacheSize
  | cacheSize {value : Value} : ¬ IsInfinite value → (∀ n, integerOf value ≠ .ok n) →
      Refuses names .cacheSize value (showing value (.badCacheSize value))
  | negative {value : Value} {n : Int} : integerOf value = .ok n → n < 0 →
      Refuses names .cacheSize value (showing (.int n) (.negativeCacheSize n))
  | missing {value : Value} : (∀ policy, ¬ Means .missing value policy) →
      Refuses names .missing value (showing value (.badMissing value))

private theorem error_iff_of_ok_iff {α : Type} {outcome : Except FieldFailure α} {means : α → Prop}
    {own failure : FieldFailure} (ok_iff : ∀ result, outcome = .ok result ↔ means result)
    (fails : (∀ result, ¬ means result) → outcome = .error own) :
    outcome = .error failure ↔ (∀ result, ¬ means result) ∧ failure = own := by
  constructor
  · intro failed
    have refused : ∀ result, ¬ means result := fun result holds => by
      rw [(ok_iff result).mpr holds] at failed
      cases failed
    exact ⟨refused, Except.error.inj (failed.symm.trans (fails refused))⟩
  · rintro ⟨refused, rfl⟩
    exact fails refused

section Currency

variable {names : Names} {value : Value}

@[simp] theorem means_currency_iff {result : String} :
    Means .currency value result ↔
      ∃ code : String, value = .text code ∧ code.length = 3 ∧
        (∀ c ∈ code.toList, isLetter c = true) ∧ result = Text.Case.lower code := by
  constructor
  · rintro ⟨long, letters⟩
    exact ⟨_, rfl, long, letters, rfl⟩
  · rintro ⟨code, rfl, long, letters, rfl⟩
    exact .currency long letters

theorem readCurrency_of_code {code : String} (long : code.length = 3)
    (letters : ∀ c ∈ code.toList, isLetter c = true) :
    readCurrency (.text code) = .ok (Text.Case.lower code) :=
  if_pos ⟨long, List.all_eq_true.mpr letters⟩

private theorem readCurrency_of_refused (refused : ∀ code, ¬ Means .currency value code) :
    readCurrency value = .error (showing value (.badCurrency value)) := by
  cases value with
  | text code =>
    refine if_neg fun ⟨long, letters⟩ => refused (Text.Case.lower code) ?_
    exact .currency long (List.all_eq_true.mp letters)
  | _ => rfl

private theorem readCurrency_ok_iff {result : String} :
    readCurrency value = .ok result ↔ Means .currency value result := by
  constructor
  · intro read
    by_cases refused : ∀ code, ¬ Means .currency value code
    · rw [readCurrency_of_refused refused] at read
      cases read
    · obtain ⟨code, means⟩ := not_forall_not.mp refused
      obtain ⟨code, rfl, long, letters, -⟩ := means_currency_iff.mp means
      rw [readCurrency_of_code long letters] at read
      exact Except.ok.inj read ▸ .currency long letters
  · intro means
    obtain ⟨code, rfl, long, letters, rfl⟩ := means_currency_iff.mp means
    exact readCurrency_of_code long letters

private theorem readCurrency_error_iff {failure : FieldFailure} :
    readCurrency value = .error failure ↔ Refuses names .currency value failure := by
  rw [error_iff_of_ok_iff (fun _ => readCurrency_ok_iff) readCurrency_of_refused]
  constructor
  · rintro ⟨refused, rfl⟩
    exact .currency refused
  · rintro ⟨refused⟩
    exact ⟨refused, rfl⟩

end Currency

section Switch

variable {names : Names} {value : Value}

theorem means_strict_bool (switch : Bool) : Means .strict (.bool switch) switch := by
  cases switch with
  | true => exact .on (by decide +kernel)
  | false => exact .off (by decide +kernel)

private theorem not_on_of_off {word : String} (off : word ∈ offWords) : word ∉ onWords := by
  revert word
  decide

private theorem readSwitch_eq (name : String) (value : Value) :
    readSwitch name value =
      if word value ∈ onWords then .ok true
      else if word value ∈ offWords then .ok false
      else .error (showing value (.badSwitch name value)) := by
  cases value with
  | bool switch =>
    cases means_strict_bool switch with
    | on named =>
      rw [if_pos named]
      rfl
    | off named =>
      rw [if_neg (not_on_of_off named), if_pos named]
      rfl
  | _ =>
    unfold readSwitch
    simp only [List.contains_iff_mem]

private theorem readSwitch_ok_iff {name : String} {switch : Bool} :
    readSwitch name value = .ok switch ↔ Means .strict value switch := by
  rw [readSwitch_eq]
  constructor
  · intro read
    split at read
    · rename_i on
      exact Except.ok.inj read ▸ .on on
    · split at read
      · rename_i off
        exact Except.ok.inj read ▸ .off off
      · cases read
  · rintro (_ | on | off)
    · exact if_pos on
    · rw [if_neg (not_on_of_off off)]
      exact if_pos off

private theorem readSwitch_error_iff {failure : FieldFailure} :
    readSwitch names.strict value = .error failure ↔ Refuses names .strict value failure := by
  have fails (refused : ∀ switch, ¬ Means .strict value switch) :
      readSwitch names.strict value = .error (showing value (.badSwitch names.strict value)) := by
    rw [readSwitch_eq, if_neg fun on => refused true (.on on),
      if_neg fun off => refused false (.off off)]
  rw [error_iff_of_ok_iff (fun _ => readSwitch_ok_iff) fails]
  constructor
  · rintro ⟨refused, rfl⟩
    exact .strict refused
  · rintro (_ | refused)
    exact ⟨refused, rfl⟩

end Switch

section CacheSize

variable {names : Names} {value : Value}

private theorem integerOf_of_infinite (infinite : IsInfinite value) :
    integerOf value = .error .infiniteCacheSize := by
  obtain ⟨negative, rfl⟩ := infinite
  rfl

private theorem integerOf_of_refused (finite : ¬ IsInfinite value)
    (refused : ∀ n, integerOf value ≠ .ok n) :
    integerOf value = .error (showing value (.badCacheSize value)) := by
  cases value with
  | bool b => exact absurd rfl (refused _)
  | int n => exact absurd rfl (refused n)
  | float x =>
    cases x with
    | infinite negative => exact absurd ⟨negative, rfl⟩ finite
    | nan => rfl
    | finite negative mantissa exponent => exact absurd rfl (refused _)
  | text s =>
    unfold integerOf at refused ⊢
    dsimp only at refused ⊢
    split
    · rename_i n found
      exact absurd (by rw [found]) (refused n)
    · rfl
  | _ => rfl

private theorem readCacheSize_ok_iff {n : Int} :
    readCacheSize value = .ok n ↔ Means .cacheSize value n := by
  have means_iff : Means .cacheSize value n ↔ integerOf value = .ok n ∧ 0 ≤ n :=
    ⟨fun | .cacheSize taken nonneg => ⟨taken, nonneg⟩,
      fun ⟨taken, nonneg⟩ => .cacheSize taken nonneg⟩
  rw [means_iff, readCacheSize, bind_ok_iff]
  constructor
  · rintro ⟨size, taken, passed⟩
    split at passed
    · cases passed
    · obtain rfl := Except.ok.inj passed
      exact ⟨taken, by omega⟩
  · rintro ⟨taken, nonneg⟩
    exact ⟨n, taken, if_neg (by omega)⟩

private theorem readCacheSize_error_iff {failure : FieldFailure} :
    readCacheSize value = .error failure ↔ Refuses names .cacheSize value failure := by
  rw [readCacheSize, bind_error_iff]
  constructor
  · rintro (failed | ⟨n, taken, failed⟩)
    · by_cases infinite : IsInfinite value
      · obtain rfl := Except.error.inj ((integerOf_of_infinite infinite).symm.trans failed)
        exact .infinite infinite
      · have refused : ∀ n, integerOf value ≠ .ok n := fun n taken => by
          rw [taken] at failed
          cases failed
        rw [integerOf_of_refused infinite refused] at failed
        exact Except.error.inj failed ▸ .cacheSize infinite refused
    · split at failed
      · rename_i negative
        exact Except.error.inj failed ▸ .negative taken negative
      · cases failed
  · rintro (_ | _ | infinite | ⟨finite, refused⟩ | ⟨taken, negative⟩)
    · exact Or.inl (integerOf_of_infinite infinite)
    · exact Or.inl (integerOf_of_refused finite refused)
    · exact Or.inr ⟨_, taken, if_pos negative⟩

end CacheSize

section Missing

variable {names : Names} {value : Value}

theorem ofName?_eq_some_iff {name : String} {policy : MissingPolicy} :
    MissingPolicy.ofName? name = some policy ↔ name = policy.name := by
  constructor
  · intro found
    have named := List.find?_some found
    exact (by simpa using named : policy.name = name).symm
  · rintro rfl
    cases policy <;> decide

private theorem readMissing_ok_iff {policy : MissingPolicy} :
    readMissing value = .ok policy ↔ Means .missing value policy := by
  unfold readMissing
  constructor
  · intro read
    split at read
    · rename_i own found
      exact Except.ok.inj read ▸ .missing (ofName?_eq_some_iff.mp found)
    · cases read
  · rintro (_ | _ | _ | _ | named)
    rw [ofName?_eq_some_iff.mpr named]

private theorem readMissing_error_iff {failure : FieldFailure} :
    readMissing value = .error failure ↔ Refuses names .missing value failure := by
  have fails (refused : ∀ policy, ¬ Means .missing value policy) :
      readMissing value = .error (showing value (.badMissing value)) := by
    unfold readMissing
    split
    · rename_i policy found
      exact absurd (.missing (ofName?_eq_some_iff.mp found)) (refused policy)
    · rfl
  rw [error_iff_of_ok_iff (fun _ => readMissing_ok_iff) fails]
  constructor
  · rintro ⟨refused, rfl⟩
    exact .missing refused
  · rintro (_ | _ | _ | _ | _ | refused)
    exact ⟨refused, rfl⟩

end Missing

section Read

variable {names : Names} {field : Field} {value : Value}

theorem readField_ok_iff {result : field.Setting} :
    field.read names value = .ok result ↔ Means field value result := by
  cases field with
  | currency => exact readCurrency_ok_iff
  | strict => exact readSwitch_ok_iff
  | cacheSize => exact readCacheSize_ok_iff
  | missing =>
    change readMissing value = .ok result ↔ _
    exact readMissing_ok_iff

theorem readField_error_iff {failure : FieldFailure} :
    field.read names value = .error failure ↔ Refuses names field value failure := by
  cases field with
  | currency => exact readCurrency_error_iff
  | strict => exact readSwitch_error_iff
  | cacheSize => exact readCacheSize_error_iff
  | missing =>
    change readMissing value = .error failure ↔ _
    exact readMissing_error_iff

theorem means_unique {result other : field.Setting} (means : Means field value result)
    (same : Means field value other) : result = other := by
  rw [← @readField_ok_iff manifestNames] at means same
  exact Except.ok.inj (means.symm.trans same)

theorem not_refuses_of_means {result : field.Setting} {failure : FieldFailure}
    (means : Means field value result) : ¬ Refuses names field value failure := fun refuses =>
  nomatch (readField_ok_iff.mpr means).symm.trans (readField_error_iff.mpr refuses)

end Read

end TypedRecords.Settings
