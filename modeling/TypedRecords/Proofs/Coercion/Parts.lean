import TypedRecords.Proofs.Coercion.Modes
import TypedRecords.Proofs.Traversal

/-!
The parts of a value at which a coercion arrives.  Arrays are taken apart to any depth, and the
coercion succeeds when it does at every part and fails as the first part that fails.  So the promise
is broken just where the first part without a result overruns what can be held.
-/

set_option autoImplicit false

namespace TypedRecords.Coercion

open TypedRecords.Numeric (Double)
open TypedRecords.Traversal

variable {clock : Calendar.Clock}

def Promised {α : Type} (settings : Settings) (outcome : Except Failure α) : Prop :=
  (∃ result, outcome = .ok result) ∨
    settings.strict = true ∧ ∃ rejection, outcome = .error (.rejected rejection)

theorem promised_error_iff {α : Type} {settings : Settings} {failure : Failure} :
    Promised settings (.error failure : Except Failure α) ↔
      settings.strict = true ∧ ∃ rejection, failure = .rejected rejection := by
  simp [Promised]

theorem Judged.promised {α : Type} {settings : Settings} (operation : Settings → Except Failure α)
    (judged :
      Judged (operation (settings.withStrict true)) (operation (settings.withStrict false))) :
    Promised settings (operation settings) := by
  have own : operation settings = operation (settings.withStrict settings.strict) := rfl
  rw [own]
  cases strict : settings.strict with
  | false => exact Or.inl judged.permissive_ok
  | true =>
    rcases judged.strict_ok_or_rejected with succeeds | rejected
    · exact Or.inl succeeds
    · exact Or.inr ⟨strict, rejected⟩

structure Part where
  type : SemanticType
  value : Value

def Part.outcome (clock : Calendar.Clock) (settings : Settings)
    (part : Part) : Except Failure Value :=
  coerce clock settings part.type part.value

/-- The parts at which the coercion of a value to a type arrives, in their order. -/
def parts : SemanticType → Value → List Part
  | _, .null => []
  | .leaf kind labels, value => [⟨.leaf kind labels, value⟩]
  | .array element labels, value =>
    match itemsOf? value with
    | some items => items.flatMap (parts element)
    | none => [⟨.array element labels, value⟩]
  | .bareArray labels, value => [⟨.bareArray labels, value⟩]

section Shape

variable {value : Value} (labels : TypeLabels)

@[simp] private theorem parts_null (type : SemanticType) : parts type .null = [] := by
  cases type <;> rfl

private theorem parts_leaf (present : value ≠ .null) (kind : LeafKind) :
    parts (.leaf kind labels) value = [⟨.leaf kind labels, value⟩] := by
  cases value with
  | null => exact absurd rfl present
  | _ => rfl

private theorem parts_bareArray (present : value ≠ .null) :
    parts (.bareArray labels) value = [⟨.bareArray labels, value⟩] := by
  cases value with
  | null => exact absurd rfl present
  | _ => rfl

private theorem parts_array_items {items : List Value} (found : itemsOf? value = some items)
    (element : SemanticType) :
    parts (.array element labels) value = items.flatMap (parts element) := by
  cases value with
  | null => cases found
  | _ => simp only [parts, found]

private theorem parts_array_whole (present : value ≠ .null) (missing : itemsOf? value = none)
    (element : SemanticType) :
    parts (.array element labels) value = [⟨.array element labels, value⟩] := by
  cases value with
  | null => exact absurd rfl present
  | _ => simp only [parts, missing]

end Shape

section Outcome

variable (settings : Settings)

private theorem of_single_part {type : SemanticType} {value : Value}
    (single : parts type value = [⟨type, value⟩]) :
    ((∃ result, coerce clock settings type value = .ok result) ↔
      AllSucceed (Part.outcome clock settings) (parts type value)) ∧
    ∀ failure, coerce clock settings type value = .error failure ↔
      FirstFails (Part.outcome clock settings) (parts type value) failure := by
  rw [single, allSucceed_singleton]
  refine ⟨Iff.rfl, fun failure => ?_⟩
  rw [firstFails_singleton]
  rfl

theorem outcome_of_parts (type : SemanticType) (value : Value) :
    ((∃ result, coerce clock settings type value = .ok result) ↔
      AllSucceed (Part.outcome clock settings) (parts type value)) ∧
    ∀ failure, coerce clock settings type value = .error failure ↔
      FirstFails (Part.outcome clock settings) (parts type value) failure := by
  induction type generalizing value with
  | leaf kind labels =>
    by_cases absent : value = .null
    · simp [absent, AllSucceed]
    · exact of_single_part settings (parts_leaf labels absent kind)
  | bareArray labels =>
    by_cases absent : value = .null
    · simp [absent, AllSucceed]
    · exact of_single_part settings (parts_bareArray labels absent)
  | array element labels ih =>
    by_cases absent : value = .null
    · simp [absent, AllSucceed]
    cases found : itemsOf? value with
    | none => exact of_single_part settings (parts_array_whole labels absent found element)
    | some items =>
      have succeeds := fun item => (ih item).1
      have fails := fun item => (ih item).2
      rw [coerce_array settings labels absent, found, parts_array_items labels found]
      dsimp only
      constructor
      · rw [allSucceed_flatMap succeeds, ← exists_mapM_ok_iff]
        simp only [map_ok_iff]
        constructor
        · rintro ⟨result, results, made, -⟩
          exact ⟨results, made⟩
        · rintro ⟨results, made⟩
          exact ⟨Value.list results, results, made, rfl⟩
      · intro failure
        rw [map_error_iff, mapM_error_iff, firstFails_flatMap succeeds fails]

private theorem promised_of_mem_parts {type : SemanticType} (complete : type.isComplete = true)
    {value : Value} {part : Part} (member : part ∈ parts type value)
    (held : ¬ Overruns clock part.type part.value) :
    Promised settings (part.outcome clock settings) := by
  induction type generalizing value with
  | leaf kind labels =>
    by_cases absent : value = .null
    · rw [absent, parts_null] at member
      cases member
    · rw [parts_leaf labels absent] at member
      obtain rfl := List.mem_singleton.mp member
      unfold Part.outcome
      rw [coerce_leaf settings labels absent]
      exact Judged.promised (fun modes => toLeaf clock modes kind _ value)
        (toLeaf_judged settings held _)
  | bareArray labels => cases complete
  | array element labels ih =>
    by_cases absent : value = .null
    · rw [absent, parts_null] at member
      cases member
    cases found : itemsOf? value with
    | none =>
      rw [parts_array_whole labels absent found] at member
      obtain rfl := List.mem_singleton.mp member
      unfold Part.outcome
      rw [coerce_array settings labels absent, found]
      exact Judged.promised (fun modes => mismatch modes value _) (mismatch_judged settings value _)
    | some items =>
      rw [parts_array_items labels found] at member
      obtain ⟨item, -, within⟩ := List.mem_flatMap.mp member
      exact ih complete within

private theorem not_promised_of_overruns {part : Part}
    (overruns : Overruns clock part.type part.value) :
    ¬ Promised settings (part.outcome clock settings) := by
  obtain ⟨failure, foreign, fails⟩ := coerce_of_overruns overruns
  unfold Part.outcome
  rw [fails, promised_error_iff]
  rintro ⟨-, rejection, same⟩
  exact foreign rejection same

theorem promised_iff_first_part {type : SemanticType} (complete : type.isComplete = true)
    (value : Value) :
    Promised settings (coerce clock settings type value) ↔
      ¬ ∃ before part after, parts type value = before ++ part :: after ∧
        AllSucceed (Part.outcome clock settings) before ∧ Overruns clock part.type part.value := by
  have fails := (@outcome_of_parts clock settings type value).2
  constructor
  · rintro promised ⟨before, part, after, split, clean, overruns⟩
    have broken := not_promised_of_overruns settings overruns
    cases outcome : part.outcome clock settings with
    | ok result => exact broken (Or.inl ⟨result, outcome⟩)
    | error failure =>
      have same : coerce clock settings type value = .error failure :=
        (fails failure).mpr ⟨before, part, after, split, clean, outcome⟩
      rw [outcome, promised_error_iff] at broken
      rw [same, promised_error_iff] at promised
      exact broken promised
  · intro unbroken
    cases outcome : coerce clock settings type value with
    | ok result => exact Or.inl ⟨result, rfl⟩
    | error failure =>
      obtain ⟨before, part, after, split, clean, fail⟩ := (fails failure).mp outcome
      have member : part ∈ parts type value := by
        rw [split]
        exact List.mem_append_right before List.mem_cons_self
      have held : ¬ Overruns clock part.type part.value := fun overruns =>
        unbroken ⟨before, part, after, split, clean, overruns⟩
      have promised := promised_of_mem_parts settings complete member held
      rw [fail, promised_error_iff] at promised
      rw [promised_error_iff]
      exact promised

private theorem succeeds_iff_of_permissive {settings : Settings}
    (permissive : settings.strict = false)
    {type : SemanticType} (complete : type.isComplete = true) (value : Value) :
    (∃ result, coerce clock settings type value = .ok result) ↔
      ∀ part ∈ parts type value, ¬ Overruns clock part.type part.value := by
  rw [(outcome_of_parts settings type value).1]
  refine forall₂_congr fun part member => ?_
  constructor
  · intro succeeds overruns
    exact not_promised_of_overruns settings overruns (Or.inl succeeds)
  · intro held
    rcases promised_of_mem_parts settings complete member held with succeeds | ⟨strict, -⟩
    · exact succeeds
    · rw [permissive] at strict
      cases strict

end Outcome

/-- Coercion to a complete type gives a result, or in strict mode a rejection, unless the first part
without a result is an integer that no amount can hold or the text of a date with more digits than
are divided.  In permissive mode it gives a result exactly when there is no such part. -/
theorem coerce_promised_iff (settings : Settings) {type : SemanticType}
    (complete : type.isComplete = true) (value : Value) :
    (Promised settings (coerce clock settings type value) ↔
      ¬ ∃ before part after, parts type value = before ++ part :: after ∧
        (∀ earlier ∈ before, ∃ result, earlier.outcome clock settings = .ok result) ∧
        Overruns clock part.type part.value) ∧
    (settings.strict = false →
      ((∃ result, coerce clock settings type value = .ok result) ↔
        ∀ part ∈ parts type value, ¬ Overruns clock part.type part.value)) :=
  ⟨promised_iff_first_part settings complete value,
    fun permissive => succeeds_iff_of_permissive permissive complete value⟩

/-- An integer of 401 digits among amounts is not rejected, and yet there is no result. -/
theorem coerce_promised_iff_huge :
    let type := SemanticType.arrayOf (.plain .currency)
    let value : Value := .list [.text "3 eur", .int (Nat.pow 10 400), .null]
    type.isComplete = true ∧
      ¬ Promised Settings.default (coerce .epoch Settings.default type value) ∧
      ¬ ∃ result, coerce .epoch Settings.default type value = .ok result := by
  intro type value
  have complete : type.isComplete = true := rfl
  have overruns : Overruns .epoch (.plain .currency) (.int (Nat.pow 10 400)) :=
    .amount (by decide +kernel)
  obtain ⟨promised, permissive⟩ := coerce_promised_iff Settings.default complete value
  refine ⟨complete, fun kept => promised.mp kept ?_, fun succeeds => ?_⟩
  · refine ⟨[⟨.plain .currency, .text "3 eur"⟩], _, [], rfl, ?_, overruns⟩
    intro earlier member
    obtain rfl := List.mem_singleton.mp member
    exact ⟨_, rfl⟩
  · exact (permissive rfl).mp succeeds _ (.tail _ (.head _)) overruns

/-- A bare integer of 401 digits as an amount fails in permissive mode. -/
theorem coerce_huge_amount_fails :
    (SemanticType.plain .currency).isComplete = true ∧ Settings.default.strict = false ∧
      coerce .epoch Settings.default (.plain .currency) (.int (Nat.pow 10 400)) =
        .error .hugeAmount := by
  have unheld : Double.ofInt? (Nat.pow 10 400) = none :=
    (Double.ofInt?_eq_none_iff _).mpr (by decide +kernel)
  refine ⟨rfl, rfl, ?_⟩
  simp only [SemanticType.plain, coerce, toLeaf, toCurrency, unheld]

end TypedRecords.Coercion
