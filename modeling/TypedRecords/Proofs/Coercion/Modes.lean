import TypedRecords.Proofs.Coercion.Basic
import TypedRecords.Proofs.Numeric.IntegerRange

/-!
Coercion to leaf types in the two modes, side by side.  Whether a value fits its type is found in
the same way in both; what does not fit is rejected in strict mode and stays in permissive mode.
Only what overruns the range of amounts or of dates has no result in either.
-/

set_option autoImplicit false

namespace TypedRecords

variable {clock : Calendar.Clock}

/-- The settings in strict or in permissive mode, and otherwise as they are. -/
def Settings.withStrict (settings : Settings) (strict : Bool) : Settings :=
  { settings with strict }

namespace Coercion

open TypedRecords.Numeric (Double)

/-- Both modes give one result, or strict mode rejects where permissive mode gives a result. -/
inductive Judged {α : Type} : Except Failure α → Except Failure α → Prop
  | agreed (result : α) : Judged (.ok result) (.ok result)
  | rejected (rejection : Rejection) (result : α) :
      Judged (.error (.rejected rejection)) (.ok result)

/-- A value too large to be coerced to a type and yet not rejected: an integer that no amount can
hold, or the text of a date with more digits than are divided. -/
inductive Overruns (clock : Calendar.Clock) : SemanticType → Value → Prop
  | amount {labels : TypeLabels} {n : Int} : Nat.pow 2 1024 ≤ n.natAbs + Nat.pow 2 970 →
      Overruns clock (.leaf .currency labels) (.int n)
  | date {labels : TypeLabels} {text : String} : DateText.read clock text = .error .indivisible →
      Overruns clock (.leaf .date labels) (.text text)

namespace Judged

variable {α β : Type} {strict permissive : Except Failure α}

theorem permissive_ok (judged : Judged strict permissive) : ∃ result, permissive = .ok result := by
  cases judged with
  | agreed result => exact ⟨result, rfl⟩
  | rejected _ result => exact ⟨result, rfl⟩

theorem strict_ok_or_rejected (judged : Judged strict permissive) :
    (∃ result, strict = .ok result) ∨ ∃ rejection, strict = .error (.rejected rejection) := by
  cases judged with
  | agreed result => exact Or.inl ⟨result, rfl⟩
  | rejected rejection _ => exact Or.inr ⟨rejection, rfl⟩

theorem map (judged : Judged strict permissive) (f : α → β) :
    Judged (strict.map f) (permissive.map f) := by
  cases judged with
  | agreed result => exact .agreed (f result)
  | rejected rejection result => exact .rejected rejection (f result)

theorem bind (judged : Judged strict permissive) {f g : α → Except Failure β}
    (next : ∀ result, Judged (f result) (g result)) :
    Judged (strict.bind f) (permissive.bind g) := by
  cases judged with
  | agreed result => exact next result
  | rejected rejection result =>
    obtain ⟨last, same⟩ := (next result).permissive_ok
    change Judged (.error (.rejected rejection)) (g result)
    rw [same]
    exact .rejected rejection last

end Judged

section Leaf

variable (settings : Settings)

theorem mismatch_judged (value : Value) (typeName : String) :
    Judged (mismatch (settings.withStrict true) value typeName)
      (mismatch (settings.withStrict false) value typeName) :=
  .rejected (.mismatch value typeName) value

private theorem orMismatch_judged (value : Value) (typeName : String) (result : Option Value) :
    Judged (orMismatch (settings.withStrict true) value typeName result)
      (orMismatch (settings.withStrict false) value typeName result) := by
  cases result with
  | none => exact mismatch_judged settings value typeName
  | some result => exact .agreed result

private theorem expect_judged (value : Value) (fits : Bool) (typeName : String) :
    Judged (expect (settings.withStrict true) value fits typeName)
      (expect (settings.withStrict false) value fits typeName) := by
  cases fits with
  | false => exact .rejected (.unexpected value typeName) value
  | true => exact .agreed value

private theorem number_judged (text : String) :
    Judged (number (settings.withStrict true) text) (number (settings.withStrict false) text) := by
  unfold number readNumber
  rcases Numeric.LeadingNumber.split? (Text.stripBlank text.toList) with _ | ⟨x, rest⟩
  · exact .rejected (.notNumber text) Double.nan
  · cases rest with
    | nil => exact .agreed x
    | cons first more => exact .rejected (.trailing text) x

private theorem toNumeric_judged (typeName : String) (value : Value) :
    Judged (toNumeric (settings.withStrict true) typeName value)
      (toNumeric (settings.withStrict false) typeName value) := by
  cases value with
  | text s => exact (number_judged settings s).map Value.float
  | _ => exact expect_judged settings _ _ typeName

private theorem toDate_judged {value : Value}
    (divided : ∀ s, value = .text s → DateText.read clock s ≠ .error .indivisible) :
    Judged (toDate clock (settings.withStrict true) value)
      (toDate clock (settings.withStrict false) value) := by
  cases value with
  | text s =>
    simp only [toDate, textToDate]
    rcases outcome : DateText.read clock s with (_ | _) | moment
    · exact mismatch_judged settings _ _
    · exact absurd outcome (divided s rfl)
    · exact .agreed _
  | int n => exact orMismatch_judged settings _ _ _
  | float x => exact orMismatch_judged settings _ _ _
  | moment m => exact .agreed _
  | date d => exact .agreed _
  | _ => exact mismatch_judged settings _ _

private theorem fieldAmount_judged (value : Value) :
    Judged (fieldAmount (settings.withStrict true) value)
      (fieldAmount (settings.withStrict false) value) := by
  cases value with
  | text s => exact (number_judged settings s).map some
  | _ => exact .agreed _

private theorem objectToCurrency_judged (fields : Fields) (amount : Value) :
    Judged (objectToCurrency (settings.withStrict true) fields amount)
      (objectToCurrency (settings.withStrict false) fields amount) :=
  (fieldAmount_judged settings amount).bind fun _ => orMismatch_judged settings _ _ _

private theorem toCurrency_judged {value : Value}
    (held : ∀ n, value = .int n → Double.ofInt? n ≠ none) :
    Judged (toCurrency (settings.withStrict true) value)
      (toCurrency (settings.withStrict false) value) := by
  cases value with
  | int n =>
    simp only [toCurrency]
    cases amount : Double.ofInt? n with
    | none => exact absurd amount (held n rfl)
    | some amount => exact .agreed _
  | float x => exact .agreed _
  | text s => exact (number_judged settings s).map _
  | object fields =>
    simp only [toCurrency]
    cases Fields.get? fields "value" with
    | none => exact mismatch_judged settings _ _
    | some amount => exact objectToCurrency_judged settings fields amount
  | _ => exact mismatch_judged settings _ _

private theorem toEntity_judged (value : Value) :
    Judged (toEntity (settings.withStrict true) value)
      (toEntity (settings.withStrict false) value) := by
  cases value with
  | text s => exact .agreed _
  | object fields => exact orMismatch_judged settings _ _ _
  | _ => exact mismatch_judged settings _ _

private theorem toLocation_judged (value : Value) :
    Judged (toLocation (settings.withStrict true) value)
      (toLocation (settings.withStrict false) value) := by
  cases value with
  | object fields => exact orMismatch_judged settings _ _ _
  | _ => exact mismatch_judged settings _ _

theorem toLeaf_judged {kind : LeafKind} {labels : TypeLabels} {value : Value}
    (held : ¬ Overruns clock (.leaf kind labels) value) (typeName : String) :
    Judged (toLeaf clock (settings.withStrict true) kind typeName value)
      (toLeaf clock (settings.withStrict false) kind typeName value) := by
  cases kind with
  | string => exact expect_judged settings _ _ _
  | number => exact toNumeric_judged settings typeName value
  | boolean => exact expect_judged settings _ _ _
  | date =>
    refine toDate_judged settings fun s same indivisible => held ?_
    rw [same]
    exact .date indivisible
  | measure => exact toNumeric_judged settings typeName value
  | currency =>
    refine toCurrency_judged settings fun n same huge => held ?_
    rw [same]
    exact .amount ((Double.ofInt?_eq_none_iff n).mp huge)
  | entity => exact toEntity_judged settings value
  | location => exact toLocation_judged settings value
  | other => exact .agreed value

end Leaf

theorem coerce_of_overruns {type : SemanticType} {value : Value}
    (overruns : Overruns clock type value) :
    ∃ failure, (∀ rejection, failure ≠ .rejected rejection) ∧
      ∀ settings, coerce clock settings type value = .error failure := by
  cases overruns with
  | @amount labels n huge =>
    have unheld : Double.ofInt? n = none := (Double.ofInt?_eq_none_iff n).mpr huge
    refine ⟨.hugeAmount, by simp, fun settings => ?_⟩
    simp only [coerce, toLeaf, toCurrency, unheld]
  | date indivisible =>
    refine ⟨.indivisibleDate, by simp, fun settings => ?_⟩
    simp only [coerce, toLeaf, toDate, textToDate, indivisible]

end Coercion

end TypedRecords
