import TypedRecords.Proofs.Schema.Checks
import TypedRecords.Proofs.SemanticType.Reading
import TypedRecords.Proofs.Value.Fields
import TypedRecords.Proofs.Value.Within
import TypedRecords.SemanticType.Schema

/-!
Types as data: which data describe a type, and the faults of those that describe none.  The data of
a complete type describe it, and no others are made of a type that was read or checked.
-/

set_option autoImplicit false

namespace TypedRecords.SemanticType

open TypedRecords.Schema TypedRecords.Traversal

def Kind.name : Kind → String
  | .leaf kind => kind.name
  | .array => arrayName

structure LabelledBy (fields : Fields) (labels : TypeLabels) : Prop where
  unit : Given (Fields.get? fields "unit") none IsOptionalText labels.unit
  entityType : Given (Fields.get? fields "entity_type") none IsOptionalText labels.entityType
  name : Given (Fields.get? fields "name") none IsOptionalText labels.name

def Elementless (fields : Fields) : Prop :=
  Fields.get? fields "elem" = none ∨ Fields.get? fields "elem" = some .null

/-- Data that describe a type: an object with the name of the kind, an element type just for an
array, and labels. -/
inductive Describes : Value → SemanticType → Prop
  | leaf {fields : Fields} {kind : LeafKind} {labels : TypeLabels} :
      Fields.get? fields "kind" = some (.text kind.name) → Elementless fields →
      LabelledBy fields labels → Describes (.object fields) (.leaf kind labels)
  | array {fields : Fields} {data : Value} {element : SemanticType} {labels : TypeLabels} :
      Fields.get? fields "kind" = some (.text arrayName) →
      Fields.get? fields "elem" = some data → Describes data element →
      LabelledBy fields labels → Describes (.object fields) (.array element labels)

/-- What is wrong with data that describe no type, and where.  That an element type does not go
with the kind is told only when each of them is right by itself. -/
inductive DataFault : Value → Fault → Prop
  | notObject {value : Value} : (∀ fields, value ≠ .object fields) →
      DataFault value ⟨[], .notObject⟩
  | kindMissing {fields : Fields} : Fields.get? fields "kind" = none →
      DataFault (.object fields) ⟨[.field "kind"], .missing⟩
  | kindUnknown {fields : Fields} {value : Value} : Fields.get? fields "kind" = some value →
      (∀ kind : Kind, value ≠ .text kind.name) →
        DataFault (.object fields) ⟨[.field "kind"], .notInChoice⟩
  | element {fields : Fields} {data : Value} {inner : Fault} :
      Fields.get? fields "elem" = some data → data ≠ .null → DataFault data inner →
        DataFault (.object fields) ⟨.field "elem" :: inner.place, inner.kind⟩
  | label {fields : Fields} {name : String} {value : Value} :
      name ∈ ["unit", "entity_type", "name"] → Fields.get? fields name = some value →
      (∀ label, ¬ IsOptionalText value label) →
        DataFault (.object fields) ⟨[.field name], .notText⟩
  | arrayAlone {fields : Fields} {labels : TypeLabels} :
      Fields.get? fields "kind" = some (.text arrayName) → Elementless fields →
      LabelledBy fields labels → DataFault (.object fields) ⟨[], .inconsistent⟩
  | leafWithElement {fields : Fields} {kind : LeafKind} {data : Value} {element : SemanticType}
      {labels : TypeLabels} :
      Fields.get? fields "kind" = some (.text kind.name) →
      Fields.get? fields "elem" = some data → Describes data element →
      LabelledBy fields labels → DataFault (.object fields) ⟨[], .inconsistent⟩

section Parts

variable {fields : Fields}

private theorem name_ne_arrayName (kind : LeafKind) : kind.name ≠ arrayName := by
  cases kind <;> decide

private theorem kindOf_name (kind : Kind) : kindOf (.text kind.name) = .ok kind := by
  cases kind with
  | array => rfl
  | leaf kind =>
    simp [kindOf, Kind.name, name_ne_arrayName, ofName?_name]

private theorem kindOf_ok_iff {value : Value} {kind : Kind} :
    kindOf value = .ok kind ↔ value = .text kind.name := by
  constructor
  · intro found
    unfold kindOf at found
    split at found
    · split at found
      · rename_i array
        cases found
        exact congrArg Value.text array
      · split at found
        · rename_i named
          cases found
          exact congrArg Value.text (name_of_ofName? named).symm
        · cases found
    · cases found
  · rintro rfl
    exact kindOf_name kind

private theorem kindOf_finds (value : Value) :
    (kindOf value).Finds fun fault =>
      (∀ kind : Kind, value ≠ .text kind.name) ∧ fault = ⟨[], .notInChoice⟩ := by
  refine finds_of_single (fun _ => kindOf_ok_iff) ?_
  unfold kindOf
  split
  · split
    · exact Or.inl ⟨.array, rfl⟩
    · split
      · exact Or.inl ⟨_, rfl⟩
      · exact Or.inr rfl
  · exact Or.inr rfl

private theorem labelsOf_ok_iff {labels : TypeLabels} :
    labelsOf fields = .ok labels ↔ LabelledBy fields labels := by
  simp only [labelsOf, map_ok_iff, Prod.exists, Checked.both_ok_iff, optionalText_field_ok_iff]
  constructor
  · rintro ⟨unit, entityType, name, ⟨first, second, third⟩, rfl⟩
    exact ⟨first, second, third⟩
  · rintro ⟨unit, entityType, name⟩
    exact ⟨_, _, _, ⟨unit, entityType, name⟩, rfl⟩

private theorem labelsOf_finds (fields : Fields) :
    (labelsOf fields).Finds fun fault =>
      ∃ name ∈ ["unit", "entity_type", "name"], ∃ value, Fields.get? fields name = some value ∧
        (∀ label, ¬ IsOptionalText value label) ∧ fault = ⟨[.field name], .notText⟩ := by
  have labels := (optionalText_field_finds fields "unit").both
    ((optionalText_field_finds fields "entity_type").both (optionalText_field_finds fields "name"))
  exact (labels.map _).congr fun fault => by simp

private theorem checkElement_eq (fields : Fields) :
    checkElement fields =
      match Fields.get? fields "elem" with
      | none => .ok none
      | some .null => .ok none
      | some data => (check data).map some := by
  induction fields with
  | nil => rfl
  | cons field rest ih =>
    obtain ⟨name, data⟩ := field
    rw [Fields.get?_cons]
    by_cases here : name = "elem"
    · cases data <;> simp [checkElement, here]
    · cases data <;> simp [checkElement, here, ih]

private theorem checkElement_of_elementless (without : Elementless fields) :
    checkElement fields = .ok none := by
  rw [checkElement_eq]
  rcases without with absent | null
  · rw [absent]
  · rw [null]

private theorem checkElement_of_given {data : Value} (found : Fields.get? fields "elem" = some data)
    (present : data ≠ .null) : checkElement fields = (check data).map some := by
  rw [checkElement_eq, found]
  cases data with
  | null => exact absurd rfl present
  | _ => rfl

private theorem checkElement_ok_iff {found : Option SemanticType} :
    checkElement fields = .ok found ↔
      Elementless fields ∧ found = none ∨
        ∃ data element, Fields.get? fields "elem" = some data ∧ check data = .ok element ∧
          found = some element := by
  cases given : Fields.get? fields "elem" with
  | none => simp [checkElement_of_elementless (Or.inl given), Elementless, given, eq_comm]
  | some data =>
    by_cases null : data = .null
    · subst null
      have refused (element : SemanticType) : check .null ≠ .ok element := nofun
      simp [checkElement_of_elementless (Or.inr given), Elementless, given, refused,
        @eq_comm _ none found]
    · simp [checkElement_of_given given null, Elementless, given, null]

private theorem checkElement_finds {wrong : Value → Fault → Prop}
    (inner : ∀ data, Fields.get? fields "elem" = some data → (check data).Finds (wrong data)) :
    (checkElement fields).Finds fun fault =>
      ∃ data, Fields.get? fields "elem" = some data ∧ data ≠ .null ∧ wrong data fault := by
  cases given : Fields.get? fields "elem" with
  | none =>
    rw [checkElement_of_elementless (Or.inl given)]
    exact (Checked.finds_ok none).congr fun fault => by simp
  | some data =>
    by_cases null : data = .null
    · subst null
      rw [checkElement_of_elementless (Or.inr given)]
      exact (Checked.finds_ok none).congr fun fault => by simp
    · rw [checkElement_of_given given null]
      exact ((inner data given).map some).congr fun fault => by simp [null]

private theorem assemble_ok_iff {kind : Kind} {found : Option SemanticType} {labels : TypeLabels}
    {type : SemanticType} :
    assemble kind found labels = .ok type ↔
      (∃ leaf, kind = .leaf leaf ∧ found = none ∧ type = .leaf leaf labels) ∨
        ∃ element, kind = .array ∧ found = some element ∧ type = .array element labels := by
  cases kind <;> cases found <;> simp [assemble, Checked.fault, eq_comm]

private theorem assemble_finds (kind : Kind) (found : Option SemanticType) (labels : TypeLabels) :
    (assemble kind found labels).Finds fun fault =>
      (kind = .array ↔ found = none) ∧ fault = ⟨[], .inconsistent⟩ := by
  cases kind <;> cases found
  · exact (Checked.finds_ok _).congr fun fault => by simp
  · exact (Checked.finds_fault .inconsistent).congr fun fault => by simp
  · exact (Checked.finds_fault .inconsistent).congr fun fault => by simp
  · exact (Checked.finds_ok _).congr fun fault => by simp

end Parts

section Checks

private theorem check_of_not_object {value : Value} (other : ∀ fields, value ≠ .object fields) :
    check value = Checked.fault .notObject := by
  cases value with
  | object fields => exact absurd rfl (other fields)
  | _ => rfl

private theorem ofFields_parts_ok_iff {fields : Fields} {kind : Kind} {found : Option SemanticType}
    {labels : TypeLabels} :
    (Schema.required fields "kind" kindOf).both
        ((Checked.below (.field "elem") (checkElement fields)).both (labelsOf fields)) =
      .ok (kind, found, labels) ↔
      Fields.get? fields "kind" = some (.text kind.name) ∧ checkElement fields = .ok found ∧
        LabelledBy fields labels := by
  simp [labelsOf_ok_iff, kindOf_ok_iff]

theorem check_ok_iff {value : Value} {type : SemanticType} :
    check value = .ok type ↔ Describes value type := by
  induction value using Value.induction generalizing type with
  | leaf value leaf =>
    constructor
    · intro passed
      cases leaf <;> cases passed
    · intro described
      cases described <;> cases leaf
  | list items _ =>
    constructor
    · intro passed
      cases passed
    · intro described
      cases described
  | object fields ih =>
    have inner {data : Value} {element : SemanticType}
        (given : Fields.get? fields "elem" = some data) :
        check data = .ok element ↔ Describes data element := by
      obtain ⟨field, member, rfl⟩ := Fields.mem_of_get? given
      exact ih field member
    rw [check, ofFields, bind_ok_iff]
    simp only [Prod.exists, ofFields_parts_ok_iff, checkElement_ok_iff, assemble_ok_iff]
    constructor
    · rintro ⟨kind, found, labels, ⟨named, element, labelled⟩, assembled⟩
      rcases assembled with ⟨leaf, rfl, rfl, rfl⟩ | ⟨element, rfl, rfl, rfl⟩
      · rcases element with ⟨without, -⟩ | ⟨_, _, _, _, none⟩
        · exact .leaf named without labelled
        · cases none
      · rcases element with ⟨-, none⟩ | ⟨data, own, given, passed, same⟩
        · cases none
        · obtain rfl := Option.some.inj same
          exact .array named given ((inner given).mp passed) labelled
    · rintro (⟨named, without, labelled⟩ | ⟨named, given, described, labelled⟩)
      · exact ⟨.leaf _, none, _, ⟨named, Or.inl ⟨without, rfl⟩, labelled⟩,
          Or.inl ⟨_, rfl, rfl, rfl⟩⟩
      · exact ⟨.array, some _, _,
          ⟨named, Or.inr ⟨_, _, given, (inner given).mpr described, rfl⟩, labelled⟩,
          Or.inr ⟨_, rfl, rfl, rfl⟩⟩

private theorem check_finds_of_not_object {value : Value}
    (other : ∀ fields, value ≠ .object fields) :
    (check value).Finds (DataFault value) := by
  rw [check_of_not_object other]
  refine (Checked.finds_fault .notObject).congr fun fault => ?_
  constructor
  · rintro rfl
    exact .notObject other
  · intro wrong
    cases wrong <;> first | rfl | exact absurd rfl (other _)

theorem check_finds (value : Value) : (check value).Finds (DataFault value) := by
  -- The induction is on the data: what is wrong with an element type is found below its field.
  induction value using Value.induction with
  | leaf value leaf =>
    have other (fields : Fields) : value ≠ .object fields := by
      rintro rfl
      cases leaf
    exact check_finds_of_not_object other
  | list items _ => exact check_finds_of_not_object fun fields => nofun
  | object fields ih =>
    have inner (data : Value) (given : Fields.get? fields "elem" = some data) :
        (check data).Finds (DataFault data) := by
      obtain ⟨field, member, rfl⟩ := Fields.mem_of_get? given
      exact ih field member
    have kinds := required_finds fun value (_ : Fields.get? fields "kind" = some value) =>
      kindOf_finds value
    have elements := (checkElement_finds inner).below (.field "elem")
    have assembled (parts : Kind × Option SemanticType × TypeLabels) :=
      assemble_finds parts.1 parts.2.1 parts.2.2
    have parts := kinds.both (elements.both (labelsOf_finds fields))
    rw [check, ofFields]
    refine (parts.bind fun own _ => assembled own).congr fun fault => ?_
    constructor
    · rintro ((kind | element | label) | ⟨⟨kind, found, labels⟩, passed, fits, rfl⟩)
      · rcases kind with ⟨missing, rfl⟩ | ⟨value, given, _, ⟨unknown, rfl⟩, rfl⟩
        · exact .kindMissing missing
        · exact .kindUnknown given unknown
      · obtain ⟨own, ⟨data, given, present, wrong⟩, rfl⟩ := element
        exact .element given present wrong
      · obtain ⟨name, member, value, given, unread, rfl⟩ := label
        exact .label member given unread
      · obtain ⟨named, element, labelled⟩ := ofFields_parts_ok_iff.mp passed
        rcases checkElement_ok_iff.mp element with ⟨without, rfl⟩ | ⟨data, own, given, own', rfl⟩
        · obtain rfl := fits.mpr rfl
          exact .arrayAlone named without labelled
        · cases kind with
          | leaf kind => exact .leafWithElement named given (check_ok_iff.mp own') labelled
          | array => cases fits.mp rfl
    · intro wrong
      cases wrong with
      | notObject other => exact absurd rfl (other fields)
      | kindMissing missing => exact Or.inl (Or.inl (Or.inl ⟨missing, rfl⟩))
      | kindUnknown given unknown =>
        exact Or.inl (Or.inl (Or.inr ⟨_, given, ⟨[], _⟩, ⟨unknown, rfl⟩, rfl⟩))
      | element given present wrong =>
        exact Or.inl (Or.inr (Or.inl ⟨_, ⟨_, given, present, wrong⟩, rfl⟩))
      | label member given unread =>
        exact Or.inl (Or.inr (Or.inr ⟨_, member, _, given, unread, rfl⟩))
      | arrayAlone named without labelled =>
        have element := checkElement_ok_iff.mpr (Or.inl ⟨without, rfl⟩)
        exact Or.inr ⟨(.array, none, _), ofFields_parts_ok_iff.mpr ⟨named, element, labelled⟩,
          by simp, rfl⟩
      | @leafWithElement _ kind _ own labels named given described labelled =>
        have element := checkElement_ok_iff.mpr
          (Or.inr ⟨_, _, given, check_ok_iff.mpr described, rfl⟩)
        exact Or.inr ⟨(.leaf kind, some own, labels),
          ofFields_parts_ok_iff.mpr ⟨named, element, labelled⟩, by simp, rfl⟩

end Checks

section Complete

theorem isComplete_of_describes {value : Value} {type : SemanticType}
    (described : Describes value type) : type.isComplete = true := by
  induction described with
  | leaf => rfl
  | array _ _ _ _ ih => exact ih

private theorem isComplete_of_check {value : Value} {type : SemanticType}
    (made : check value = .ok type) :
    type.isComplete = true :=
  isComplete_of_describes (check_ok_iff.mp made)

theorem isComplete_of_read {text : String} {type : SemanticType} (made : read text = .ok type) :
    type.isComplete = true := by
  obtain ⟨before, spelling, after, -, -, -, spells⟩ := read_eq_ok_iff.mp made
  exact isComplete_of_spells spells

end Complete

section RoundTrip

@[simp] private theorem get?_labelField (name other : String) (label : Option String) :
    Fields.get? (labelField name label) other =
      if name = other then label.map Value.text else none := by
  cases label with
  | none => simp [labelField, Fields.get?]
  | some text => simp [labelField, Fields.get?]

private theorem given_label (label : Option String) :
    Given (label.map Value.text) none IsOptionalText label := by
  cases label with
  | none => exact Or.inl ⟨rfl, rfl⟩
  | some text => exact Or.inr ⟨.text text, rfl, .text text⟩

private theorem labelledBy_append {front : Fields} (labels : TypeLabels)
    (apart : ∀ name ∈ ["unit", "entity_type", "name"], Fields.get? front name = none) :
    LabelledBy (front ++ labelFields labels) labels := by
  have found (name : String) (label : Option String)
      (own : Fields.get? (front ++ labelFields labels) name = label.map Value.text) :
      Given (Fields.get? (front ++ labelFields labels) name) none IsOptionalText label :=
    own ▸ given_label label
  constructor <;> apply found <;>
    simp [labelFields, apart]

private theorem describes_toValue {type : SemanticType} (complete : type.isComplete = true) :
    Describes type.toValue type := by
  induction type with
  | leaf kind labels =>
    have labelled : LabelledBy (leaf kind labels).toFields labels :=
      @labelledBy_append [("kind", .text kind.name)] labels (by simp [Fields.get?])
    have without : Fields.get? (leaf kind labels).toFields "elem" = none := by
      simp [toFields, Fields.get?_cons, labelFields]
    exact .leaf rfl (Or.inl without) labelled
  | array element labels ih =>
    have labelled : LabelledBy (array element labels).toFields labels :=
      @labelledBy_append [("kind", .text arrayName), ("elem", element.toValue)] labels
        (by simp [Fields.get?])
    exact .array rfl rfl (ih complete) labelled
  | bareArray labels => cases complete

private theorem check_toValue {type : SemanticType} (complete : type.isComplete = true) :
    check type.toValue = .ok type :=
  check_ok_iff.mpr (describes_toValue complete)

/-- A type that is read from a text, checked from the fields of an object, or made of another one as
an array of it. -/
inductive Obtained : SemanticType → Prop
  | read {text : String} {type : SemanticType} : read text = .ok type → Obtained type
  | checked {fields : Fields} {type : SemanticType} : check (.object fields) = .ok type →
      Obtained type
  | arrayOf {element : SemanticType} : Obtained element → Obtained (arrayOf element)

theorem Obtained.isComplete {type : SemanticType} (obtained : Obtained type) :
    type.isComplete = true := by
  induction obtained with
  | read made => exact isComplete_of_read made
  | checked made => exact isComplete_of_check made
  | arrayOf _ ih => exact ih

/-- Somewhere among the element types of data there is an array without an element type, or an
element type of something else. -/
inductive Mismatched : Value → Prop
  | arrayAlone {fields : Fields} : Fields.get? fields "kind" = some (.text arrayName) →
      Elementless fields → Mismatched (.object fields)
  | otherWithElement {fields : Fields} : Fields.get? fields "kind" ≠ some (.text arrayName) →
      ¬ Elementless fields → Mismatched (.object fields)
  | within {fields : Fields} {data : Value} : Fields.get? fields "elem" = some data →
      Mismatched data → Mismatched (.object fields)

private theorem eq_null_of_elementless {fields : Fields} {data : Value}
    (without : Elementless fields)
    (given : Fields.get? fields "elem" = some data) : data = .null := by
  rcases without with absent | null
  · rw [absent] at given
    cases given
  · rw [null] at given
    exact (Option.some.inj given).symm

private theorem not_mismatched_of_describes {value : Value} {type : SemanticType}
    (described : Describes value type) : ¬ Mismatched value := by
  induction described with
  | @leaf fields kind labels named without _ =>
    rintro (⟨array, -⟩ | ⟨-, laden⟩ | ⟨given, inner⟩)
    · have same : kind.name = arrayName := by simpa [named] using array
      exact name_ne_arrayName kind same
    · exact laden without
    · obtain rfl := eq_null_of_elementless without given
      cases inner
  | array named given described _ ih =>
    rintro (⟨-, without⟩ | ⟨other, -⟩ | ⟨again, inner⟩)
    · obtain rfl := eq_null_of_elementless without given
      cases described
    · exact other named
    · rw [given] at again
      obtain rfl := Option.some.inj again
      exact ih inner

/-- Writing a type as data and checking the data are inverse to one another, so that different types
have different data; and no data are accepted in which, at any depth, an array has no element type
or something else has one. -/
theorem obtained_check_toValue :
    (∀ type, Obtained type → check type.toValue = .ok type) ∧
      (∀ type other, Obtained type → Obtained other → type ≠ other →
        type.toValue ≠ other.toValue) ∧
      ∀ value, Mismatched value → ∀ type, check value ≠ .ok type := by
  have restored (type : SemanticType) (obtained : Obtained type) :
      check type.toValue = .ok type := check_toValue obtained.isComplete
  refine ⟨restored, ?_, ?_⟩
  · intro type other obtained obtained' different same
    have checked := restored type obtained
    rw [same, restored other obtained'] at checked
    exact different (Except.ok.inj checked).symm
  · intro value mismatched type passed
    exact not_mismatched_of_describes (check_ok_iff.mp passed) mismatched

/-- The empty unit of a measure is kept apart from a missing one, and an array without an element
type is found within another array. -/
theorem obtained_check_toValue_empty_unit :
    let type := arrayOf (.leaf .measure { TypeLabels.none with unit := some "" })
    let other := arrayOf (plain .measure)
    let bare := Value.object [("kind", .text "Array"), ("elem", .object [("kind", .text "Array")])]
    check type.toValue = .ok type ∧ type.toValue ≠ other.toValue ∧
      ∀ found, check bare ≠ .ok found := by
  intro type other bare
  have read (text : String) (own : SemanticType) (made : SemanticType.read text = .ok own) :
      Obtained own := .read made
  have obtained : Obtained type := .arrayOf (read "Measure()" _ (by decide +kernel))
  have obtained' : Obtained other := .arrayOf (read "Measure" _ (by decide +kernel))
  have mismatched : Mismatched bare := .within rfl (.arrayAlone rfl (Or.inl rfl))
  obtain ⟨restored, apart, refused⟩ := obtained_check_toValue
  exact ⟨restored type obtained, apart type other obtained obtained' (by decide),
    refused bare mismatched⟩

end RoundTrip

end TypedRecords.SemanticType
