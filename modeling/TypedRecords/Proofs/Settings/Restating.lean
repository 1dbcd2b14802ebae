import TypedRecords.Proofs.Extraction.Lookups
import TypedRecords.Proofs.Numeric.WholeText
import TypedRecords.Proofs.Settings.Layers
import TypedRecords.Proofs.Text.SmallForms

/-!
Settings stated again.  Each field is what some value means; given back in the environment, as it is
or as its text, it means itself.  Only a code of a currency with a dotted capital I is not given
back as a code.
-/

set_option autoImplicit false

namespace TypedRecords.Settings

open TypedRecords.Text (isLetter)
open TypedRecords.Text.Case (dotAbove dottedI lower)

structure IsCode (code : String) : Prop where
  long : code.length = 3
  letters : ∀ c ∈ code.toList, isLetter c = true
  small : lower code = code

def Field.value : (field : Field) → field.Setting → Value
  | .currency, code => .text code
  | .strict, switch => .bool switch
  | .cacheSize, size => .int size
  | .missing, policy => .text policy.name

/-- What must hold of a setting for it to be accepted again: a currency must still be a code. -/
def Field.Lasts : (field : Field) → field.Setting → Prop
  | .currency, code => IsCode code
  | _, _ => True

inductive States (value : Value) : Value → Prop
  | itself : States value value
  | written : isShowable value = true → States value (.text value.plain)

def Restates (environment : Fields) (settings : Settings) : Prop :=
  ∀ field : Field, ∃ stated,
    Fields.get? environment (field.name environmentNames) = some stated ∧
      States (field.value (settings.get field)) stated

section Code

variable {value : Value} {code : String}

private theorem lower_of_means (means : Means .currency value code) : lower code = code := by
  obtain ⟨given, -, -, -, rfl⟩ := means_currency_iff.mp means
  exact Text.Case.lower_lower given

private theorem isCode_iff_of_means (means : Means .currency value code) :
    IsCode code ↔ dotAbove ∉ code.toList := by
  obtain ⟨given, -, long, letters, rfl⟩ := means_currency_iff.mp means
  constructor
  · intro accepted marked
    have letter := accepted.letters dotAbove marked
    exact absurd letter (by decide +kernel)
  · intro unmarked
    have plain : dottedI ∉ given.toList :=
      mt (Text.Case.dotAbove_mem_lower_iff letters).mpr unmarked
    refine ⟨?_, ?_, lower_of_means means⟩
    · rw [Text.Case.length_lower, List.count_eq_zero_of_not_mem plain, long]
    · rw [Text.Case.toList_lower]
      exact Text.Case.isLetter_of_mem_lowerAfter plain letters

private theorem isCode_of_means {other : String} (small : lower code = code)
    (means : Means .currency (.text code) other) : IsCode code := by
  obtain ⟨given, same, long, letters, -⟩ := means_currency_iff.mp means
  obtain rfl := Value.text.inj same
  exact ⟨long, letters, small⟩

private theorem means_of_isCode (accepted : IsCode code) : Means .currency (.text code) code := by
  have means := Means.currency accepted.long accepted.letters
  rwa [accepted.small] at means

end Code

section Stated

variable {field : Field} {value stated : Value} {result : field.Setting}

private theorem eq_of_states_text {text : String} (states : States (.text text) stated) :
    stated = .text text := by
  cases states <;> rfl

private theorem means_strict_of_states {switch : Bool} (states : States (.bool switch) stated) :
    Means .strict stated switch := by
  cases states with
  | itself => exact means_strict_bool switch
  | written =>
    cases switch with
    | true => exact .on (by decide +kernel)
    | false => exact .off (by decide +kernel)

private theorem integerOf_of_states {size : Int} (states : States (.int size) stated) :
    integerOf stated = .ok size := by
  cases states with
  | itself => rfl
  | written shown =>
    have short : Numeric.isTooLong size = false := by simpa [isShowable] using shown
    change integerOf (.text (Value.integerText size)) = .ok size
    rw [integerOf, Numeric.WholeNumber.integer?_integerText short]

private theorem means_missing_of_states {policy : MissingPolicy}
    (states : States (.text policy.name) stated) : Means .missing stated policy := by
  obtain rfl := eq_of_states_text states
  refine .missing ?_
  cases policy <;> decide +kernel

private theorem means_of_states (means : Means field value result)
    (states : States (field.value result) stated) (lasts : field.Lasts result) :
    Means field stated result := by
  cases field with
  | currency =>
    obtain rfl := eq_of_states_text states
    exact means_of_isCode lasts
  | strict => exact means_strict_of_states states
  | cacheSize =>
    cases means with
    | cacheSize _ nonneg => exact .cacheSize (integerOf_of_states states) nonneg
  | missing => exact means_missing_of_states states

private theorem refuses_of_states {currency : String} (small : lower currency = currency)
    (states : States (.text currency) stated) (other : ¬ IsCode currency) :
    Refuses environmentNames .currency stated (.badCurrency (.text currency)) := by
  obtain rfl := eq_of_states_text states
  exact .currency fun code means => other (isCode_of_means small means)

end Stated

section Load

variable {files files' : Files} {path path' : Option String}
  {environment environment' again : Fields} {settings settings' : Settings}

private theorem default_means (field : Field) :
    ∃ value, Means field value (Settings.default.get field) := by
  cases field with
  | currency =>
    exact ⟨_, means_of_isCode ⟨rfl, List.all_eq_true.mp (by decide +kernel), by decide +kernel⟩⟩
  | strict => exact ⟨_, means_strict_bool false⟩
  | cacheSize => exact ⟨.int 256, .cacheSize rfl (by decide)⟩
  | missing => exact ⟨.text "keep", .missing (by decide +kernel)⟩

private theorem exists_means_of_settles {layers : Layers} {field : Field} {result : field.Setting}
    (settles : layers.Settles field result) : ∃ value, Means field value result := by
  cases settles with
  | environment _ means => exact ⟨_, means⟩
  | manifest _ _ means => exact ⟨_, means⟩
  | default => exact default_means field

private theorem load_means (made : load files path environment = .ok settings) (field : Field) :
    ∃ value, Means field value (settings.get field) := by
  obtain ⟨manifest, -, -, settles⟩ := load_ok_iff.mp made
  exact exists_means_of_settles (settles field)

private theorem load_currency_small (made : load files path environment = .ok settings) :
    lower settings.currency = settings.currency := by
  obtain ⟨value, means⟩ := load_means made .currency
  exact lower_of_means means

private theorem load_isCode_iff (made : load files path environment = .ok settings) :
    IsCode settings.currency ↔ dotAbove ∉ settings.currency.toList := by
  obtain ⟨value, means⟩ := load_means made .currency
  exact isCode_iff_of_means means

private theorem load_of_restates (made : load files path environment = .ok settings)
    (accepted : load files' path' environment' = .ok settings') (restates : Restates again settings)
    (code : IsCode settings.currency) : load files' path' again = .ok settings := by
  have means (field : Field) : ∃ stated,
      Fields.get? again (field.name environmentNames) = some stated ∧
        Means field stated (settings.get field) := by
    obtain ⟨stated, found, states⟩ := restates field
    obtain ⟨value, means⟩ := load_means made field
    refine ⟨stated, found, means_of_states means states ?_⟩
    cases field with
    | currency => exact code
    | _ => trivial
  obtain ⟨manifest, given, admitted, -⟩ := load_ok_iff.mp accepted
  refine load_ok_iff.mpr ⟨manifest, given, ?_, fun field => ?_⟩
  · rintro ⟨layer, field⟩ member value found
    cases layer with
    | manifest => exact admitted _ member value found
    | environment =>
      obtain ⟨stated, there, meant⟩ := means field
      obtain rfl := Option.some.inj (there.symm.trans found)
      exact ⟨_, meant⟩
  · obtain ⟨stated, there, meant⟩ := means field
    exact .environment there meant

private theorem load_error_of_restates (made : load files path environment = .ok settings)
    (accepted : load files' path' environment' = .ok settings') (restates : Restates again settings)
    (other : ¬ IsCode settings.currency) :
    load files' path' again = .error (.field (.badCurrency (.text settings.currency))) := by
  obtain ⟨manifest, given, admitted, -⟩ := load_ok_iff.mp accepted
  obtain ⟨stated, found, states⟩ := restates .currency
  refine (load_error_iff given).mpr ⟨_, rfl, ?_⟩
  refine ⟨Field.all.map fun field => (.manifest, field), (.environment, .currency),
    [.strict, .cacheSize, .missing].map fun field => (.environment, field), rfl, ?_, ?_⟩
  · intro earlier member
    obtain ⟨field, -, rfl⟩ := List.mem_map.mp member
    exact admitted _ (mem_places _)
  · exact ⟨stated, found, refuses_of_states (load_currency_small made) states other⟩

private theorem load_currency_alone {given : String} (long : given.length = 3)
    (letters : ∀ c ∈ given.toList, isLetter c = true) :
    load Files.none none [("RESPCAST_DEFAULT_CURRENCY", .text given)] =
      .ok { Settings.default with currency := lower given } := by
  have missing : Files.none.find manifestName = .error .missing := by decide +kernel
  have laid : apply environmentNames [("RESPCAST_DEFAULT_CURRENCY", .text given)] Settings.default =
      .ok { Settings.default with currency := lower given } := by
    refine apply_ok_iff.mpr fun field => ?_
    cases field with
    | currency => exact readCurrency_of_code long letters
    | _ => rfl
  rw [load_of_given (.absent rfl missing (by decide))]
  change (apply environmentNames _ Settings.default).mapError _ = _
  rw [laid]
  rfl

def statement (settings : Settings) : Fields :=
  Field.all.map fun field =>
    (field.name environmentNames, .text (field.value (settings.get field)).plain)

private theorem restates_statement (short : Numeric.isTooLong settings.cacheSize = false) :
    Restates (statement settings) settings := by
  intro field
  refine ⟨.text (field.value (settings.get field)).plain, ?_, .written ?_⟩
  · cases field <;> rfl
  · cases field with
    | cacheSize => simpa [Field.value, isShowable, Settings.get] using short
    | _ => rfl

/-- Settings that were loaded and are stated in the environment, over a manifest that is accepted,
are loaded again if the currency is a code of three letters, else they are refused for it.  It is a
code unless it holds the mark of a dotted capital I.  In any case it is in small letters, and the
size of the store is one that a store can have. -/
theorem load_restated (made : load files path environment = .ok settings)
    (accepted : load files' path' environment' = .ok settings')
    (restates : Restates again settings) :
    (load files' path' again = .ok settings ↔ IsCode settings.currency) ∧
      (¬ IsCode settings.currency →
        load files' path' again = .error (.field (.badCurrency (.text settings.currency)))) ∧
      (IsCode settings.currency ↔ dotAbove ∉ settings.currency.toList) ∧
      lower settings.currency = settings.currency ∧ 0 ≤ settings.cacheSize ∧
      ∃ cache, Extraction.newCache settings = .ok cache := by
  have nonneg := load_cacheSize_nonneg made
  have refused := load_error_of_restates made accepted restates
  refine ⟨⟨fun same => ?_, load_of_restates made accepted restates⟩, refused, load_isCode_iff made,
    load_currency_small made, nonneg, _, Extraction.newCache_ok_iff.mpr ⟨nonneg, rfl⟩⟩
  by_contra other
  cases same.symm.trans (refused other)

/-- A code in capitals is loaded in small letters, and again as such with all settings as texts. -/
theorem load_restated_capitals :
    let settings : Settings := { Settings.default with currency := "eur" }
    load Files.none none [("RESPCAST_DEFAULT_CURRENCY", .text "EUR")] = .ok settings ∧
      Restates (statement settings) settings ∧
      load Files.none none (statement settings) = .ok settings := by
  intro settings
  have small : lower "EUR" = "eur" := by decide +kernel
  have made : load Files.none none [("RESPCAST_DEFAULT_CURRENCY", .text "EUR")] = .ok settings := by
    rw [load_currency_alone rfl (List.all_eq_true.mp (by decide +kernel)), small]
  have restates : Restates (statement settings) settings := restates_statement (by decide +kernel)
  have code : IsCode settings.currency :=
    ⟨by decide, List.all_eq_true.mp (by decide +kernel), by decide +kernel⟩
  exact ⟨made, restates, (load_restated made made restates).1.mpr code⟩

/-- A code with a dotted capital I is loaded as one that is refused when it is stated again. -/
theorem load_refuses_own_code :
    let settings : Settings :=
      { Settings.default with currency := String.ofList ['i', dotAbove, 'a', 'b'] }
    load Files.none none
        [("RESPCAST_DEFAULT_CURRENCY", .text (String.ofList [dottedI, 'a', 'b']))] = .ok settings ∧
      Restates (statement settings) settings ∧
      load Files.none none (statement settings) ≠ .ok settings := by
  intro settings
  have small : lower (String.ofList [dottedI, 'a', 'b']) = settings.currency := by decide +kernel
  have made : load Files.none none
      [("RESPCAST_DEFAULT_CURRENCY", .text (String.ofList [dottedI, 'a', 'b']))] =
        .ok settings := by
    rw [load_currency_alone rfl (List.all_eq_true.mp (by decide +kernel)), small]
  have restates : Restates (statement settings) settings := restates_statement (by decide +kernel)
  have other : ¬ IsCode settings.currency := fun code => absurd code.long (by decide)
  refine ⟨made, restates, fun same => ?_⟩
  cases same.symm.trans (load_error_of_restates made made restates other)

end Load

end TypedRecords.Settings
