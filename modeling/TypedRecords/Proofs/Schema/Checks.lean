import TypedRecords.Proofs.Traversal
import TypedRecords.Schema.Fault

/-!
When a check of data is passed: two checks together when both are, a list when all of its items are.
And which faults it finds when it is not: those of all its parts.
-/

set_option autoImplicit false

namespace TypedRecords.Schema

variable {α β : Type}

@[simp] theorem Checked.both_ok_iff {first : Checked α} {second : Checked β} {a : α} {b : β} :
    first.both second = .ok (a, b) ↔ first = .ok a ∧ second = .ok b := by
  cases first <;> cases second <;> simp [Checked.both]

@[simp] private theorem Checked.below_ok_iff {step : Step} {check : Checked α} {a : α} :
    Checked.below step check = .ok a ↔ check = .ok a :=
  Traversal.mapError_ok_iff

@[simp] theorem required_ok_iff {fields : Fields} {name : String} {check : Value → Checked α}
    {a : α} :
    required fields name check = .ok a ↔
      ∃ value, Fields.get? fields name = some value ∧ check value = .ok a := by
  unfold required
  rw [Checked.below_ok_iff]
  cases Fields.get? fields name with
  | none => simp [Checked.fault]
  | some value => simp

private theorem optional_ok_iff {fields : Fields} {name : String} {default a : α}
    {check : Value → Checked α} :
    optional fields name default check = .ok a ↔
      Fields.get? fields name = none ∧ default = a ∨
        ∃ value, Fields.get? fields name = some value ∧ check value = .ok a := by
  unfold optional
  cases Fields.get? fields name with
  | none => simp
  | some value => simp

private theorem itemsFrom_ok_iff {check : Value → Checked α} {position : Nat} {values : List Value}
    {items : List α} :
    itemsFrom check position values = .ok items ↔
      List.Forall₂ (fun value item => check value = .ok item) values items := by
  induction values generalizing position items with
  | nil => simp [itemsFrom, eq_comm]
  | cons value rest ih =>
    simp only [itemsFrom, Traversal.map_ok_iff, Prod.exists, Checked.both_ok_iff,
      Checked.below_ok_iff, ih, List.forall₂_cons_left_iff, and_assoc]

theorem list_ok_iff {check : Value → Checked α} {value : Value} {items : List α} :
    list check value = .ok items ↔
      ∃ values, value = .list values ∧
        List.Forall₂ (fun value item => check value = .ok item) values items := by
  cases value with
  | list values => simp [list, itemsFrom_ok_iff]
  | _ => simp [list, Checked.fault]

section Readings

inductive IsOptionalText : Value → Option String → Prop
  | null : IsOptionalText .null none
  | text (s : String) : IsOptionalText (.text s) (some s)

/-- What a field that may be left out yields: what its value is read as, or else what is known
beforehand. -/
def Given (found : Option Value) (default : α) (reads : Value → α → Prop) (a : α) : Prop :=
  found = none ∧ default = a ∨ ∃ value, found = some value ∧ reads value a

@[simp] theorem text_ok_iff {value : Value} {s : String} :
    text value = .ok s ↔ value = .text s := by
  cases value <;> simp [text, Checked.fault]

private theorem optionalText_ok_iff {value : Value} {label : Option String} :
    optionalText value = .ok label ↔ IsOptionalText value label := by
  constructor
  · intro passed
    cases value <;> cases passed
    · exact .null
    · exact .text _
  · rintro (_ | _) <;> rfl

theorem optional_given_iff {fields : Fields} {name : String} {default a : α}
    {check : Value → Checked α} {reads : Value → α → Prop}
    (agrees : ∀ value a, check value = .ok a ↔ reads value a) :
    optional fields name default check = .ok a ↔
      Given (Fields.get? fields name) default reads a := by
  simp only [optional_ok_iff, agrees, Given]

theorem optionalText_field_ok_iff {fields : Fields} {name : String} {label : Option String} :
    optional fields name none optionalText = .ok label ↔
      Given (Fields.get? fields name) none IsOptionalText label :=
  optional_given_iff fun _ _ => optionalText_ok_iff

end Readings

section Faults

/-- A check finds the faults of a kind: it tells all of them and no others, and is passed where
there are none. -/
structure Checked.Finds (check : Checked α) (wrong : Fault → Prop) : Prop where
  mem_iff : ∀ fault, fault ∈ check.faults ↔ wrong fault
  told : check ≠ .error []

def Below (step : Step) (wrong : Fault → Prop) (fault : Fault) : Prop :=
  ∃ inner, wrong inner ∧ fault = ⟨step :: inner.place, inner.kind⟩

variable {first check : Checked α} {second : Checked β} {wrong other : Fault → Prop}

@[simp] private theorem Checked.faults_ok (a : α) : Checked.faults (.ok a : Checked α) = [] :=
  rfl

@[simp] private theorem Checked.faults_error (faults : List Fault) :
    Checked.faults (.error faults : Checked α) = faults :=
  rfl

theorem Checked.finds_ok (a : α) : Checked.Finds (.ok a) fun _ => False :=
  ⟨by simp, by simp⟩

theorem Checked.finds_fault (kind : FaultKind) :
    Checked.Finds (Checked.fault kind : Checked α) fun fault => fault = ⟨[], kind⟩ :=
  ⟨by simp [Checked.fault], by simp [Checked.fault]⟩

namespace Checked.Finds

theorem congr (finds : Finds check wrong) (same : ∀ fault, wrong fault ↔ other fault) :
    Finds check other :=
  ⟨fun fault => (finds.mem_iff fault).trans (same fault), finds.told⟩

theorem exists_ok (finds : Finds check wrong) (clean : ∀ fault, ¬ wrong fault) :
    ∃ a, check = .ok a := by
  cases check with
  | ok a => exact ⟨a, rfl⟩
  | error faults =>
    have none : ∀ fault, fault ∉ faults := fun fault => (finds.mem_iff fault).not.mpr (clean fault)
    exact absurd (congrArg Except.error (List.eq_nil_iff_forall_not_mem.mpr none)) finds.told

theorem exists_error (finds : Finds check wrong) {fault : Fault} (found : wrong fault) :
    ∃ faults, check = .error faults ∧ ∀ fault, fault ∈ faults ↔ wrong fault := by
  cases check with
  | ok a =>
    have member := (finds.mem_iff fault).mpr found
    cases member
  | error faults => exact ⟨faults, rfl, finds.mem_iff⟩

theorem not_of_ok (finds : Finds check wrong) {a : α} (passed : check = .ok a) (fault : Fault) :
    ¬ wrong fault := by
  rw [← finds.mem_iff, passed, faults_ok]
  exact List.not_mem_nil

theorem map (finds : Finds check wrong) (f : α → β) : Finds (check.map f) wrong := by
  cases check with
  | ok a => exact ⟨finds.mem_iff, by simp [Except.map]⟩
  | error faults => exact ⟨finds.mem_iff, fun none => finds.told (by simpa [Except.map] using none)⟩

theorem both (left : Finds first wrong) (right : Finds second other) :
    Finds (first.both second) fun fault => wrong fault ∨ other fault := by
  constructor
  · intro fault
    rw [← left.mem_iff, ← right.mem_iff]
    cases first <;> cases second <;>
      simp [Checked.both]
  · have none := left.told
    have none' := right.told
    cases first <;> cases second <;>
      simp_all [Checked.both, Checked.faults_ok, Checked.faults_error]

theorem bind {f : α → Checked β} {after : α → Fault → Prop} (finds : Finds check wrong)
    (next : ∀ a, check = .ok a → Finds (f a) (after a)) :
    Finds (check.bind f) fun fault => wrong fault ∨ ∃ a, check = .ok a ∧ after a fault := by
  cases check with
  | ok a =>
    exact (next a rfl).congr fun fault => by simp [finds.not_of_ok rfl fault]
  | error faults =>
    have same : (Except.error faults : Checked α).bind f = .error faults := rfl
    rw [same]
    refine ⟨fun fault => ?_, fun none => finds.told (by simpa using none)⟩
    simpa using finds.mem_iff fault

theorem below (finds : Finds check wrong) (step : Step) :
    Finds (Checked.below step check) (Below step wrong) := by
  constructor
  · intro fault
    simp only [Below, ← finds.mem_iff]
    cases check with
    | ok a => simp [Checked.below, Except.mapError]
    | error faults => simp [Checked.below, Except.mapError, eq_comm]
  · have none := finds.told
    cases check <;> simp_all [Checked.below, Except.mapError]

end Checked.Finds

theorem finds_of_single {reads : α → Prop} {kind : FaultKind}
    (agrees : ∀ a, check = .ok a ↔ reads a)
    (single : (∃ a, check = .ok a) ∨ check = Checked.fault kind) :
    check.Finds fun fault => (∀ a, ¬ reads a) ∧ fault = ⟨[], kind⟩ := by
  rcases single with ⟨a, passed⟩ | failed
  · have read : reads a := (agrees a).mp passed
    rw [passed]
    refine (Checked.finds_ok a).congr fun fault => ⟨False.elim, fun wrong => wrong.1 a read⟩
  · have unread (a : α) : ¬ reads a := (agrees a).not.mp (by simp [failed, Checked.fault])
    rw [failed]
    exact (Checked.finds_fault kind).congr fun fault => by simp [unread]

theorem text_finds (value : Value) :
    (text value).Finds fun fault => (∀ s, value ≠ .text s) ∧ fault = ⟨[], .notText⟩ :=
  finds_of_single (fun _ => text_ok_iff) (by cases value <;> simp [text])

private theorem optionalText_finds (value : Value) :
    (optionalText value).Finds fun fault =>
      (∀ label, ¬ IsOptionalText value label) ∧ fault = ⟨[], .notText⟩ :=
  finds_of_single (fun _ => optionalText_ok_iff) (by cases value <;> simp [optionalText])

section Fields

variable {fields : Fields} {name : String} {check : Value → Checked α}
  {wrong : Value → Fault → Prop}

theorem required_finds
    (finds : ∀ value, Fields.get? fields name = some value → (check value).Finds (wrong value)) :
    (required fields name check).Finds fun fault =>
      Fields.get? fields name = none ∧ fault = ⟨[.field name], .missing⟩ ∨
        ∃ value, Fields.get? fields name = some value ∧
          Below (.field name) (wrong value) fault := by
  unfold required
  cases found : Fields.get? fields name with
  | none =>
    refine ((Checked.finds_fault .missing).below (.field name)).congr fun fault => ?_
    simp [Below]
  | some value =>
    refine ((finds value found).below (.field name)).congr fun fault => ?_
    simp

theorem optional_finds {default : α}
    (finds : ∀ value, Fields.get? fields name = some value → (check value).Finds (wrong value)) :
    (optional fields name default check).Finds fun fault =>
      ∃ value, Fields.get? fields name = some value ∧ Below (.field name) (wrong value) fault := by
  unfold optional
  cases found : Fields.get? fields name with
  | none => exact (Checked.finds_ok default).congr fun fault => by simp
  | some value => exact ((finds value found).below (.field name)).congr fun fault => by simp

theorem optionalText_field_finds (fields : Fields) (name : String) :
    (optional fields name none optionalText).Finds fun fault =>
      ∃ value, Fields.get? fields name = some value ∧ (∀ label, ¬ IsOptionalText value label) ∧
        fault = ⟨[.field name], .notText⟩ := by
  refine (optional_finds fun value _ => optionalText_finds value).congr fun fault => ?_
  simp [Below]

private theorem itemsFrom_finds {position : Nat} {values : List Value}
    (finds : ∀ value ∈ values, (check value).Finds (wrong value)) :
    (itemsFrom check position values).Finds fun fault =>
      ∃ index value, values[index]? = some value ∧
        Below (.position (position + index)) (wrong value) fault := by
  induction values generalizing position with
  | nil => exact (Checked.finds_ok []).congr fun fault => by simp
  | cons value rest ih =>
    obtain ⟨head, tail⟩ := List.forall_mem_cons.mp finds
    have both := (head.below (.position position)).both (@ih (position + 1) tail)
    refine (both.map _).congr fun fault => ?_
    have shifted (index : Nat) : position + (index + 1) = position + 1 + index := by omega
    constructor
    · rintro (here | ⟨index, item, found, later⟩)
      · exact ⟨0, value, rfl, here⟩
      · exact ⟨index + 1, item, found, by rwa [shifted]⟩
    · rintro ⟨index, item, found, below⟩
      cases index with
      | zero =>
        obtain rfl := Option.some.inj found
        exact Or.inl below
      | succ index => exact Or.inr ⟨index, item, found, by rwa [← shifted]⟩

theorem list_finds {value : Value}
    (finds : ∀ values, value = .list values → ∀ item ∈ values, (check item).Finds (wrong item)) :
    (list check value).Finds fun fault =>
      (∀ values, value ≠ .list values) ∧ fault = ⟨[], .notList⟩ ∨
        ∃ values index item, value = .list values ∧ values[index]? = some item ∧
          Below (.position index) (wrong item) fault := by
  cases value with
  | list values =>
    have items := @itemsFrom_finds _ check wrong 0 values (finds values rfl)
    exact items.congr fun fault => by simp
  | _ => exact (Checked.finds_fault .notList).congr fun fault => by simp

end Fields

end Faults

end TypedRecords.Schema
