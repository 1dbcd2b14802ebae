import TypedRecords.Proofs.SemanticType.Data
import TypedRecords.Signature.Schema

/-!
Signatures as data: which data describe an argument or a signature, and the faults of those that
describe none.
-/

set_option autoImplicit false

namespace TypedRecords

open TypedRecords.Schema TypedRecords.Traversal

theorem Direction.ofName?_eq_some_iff {name : String} {direction : Direction} :
    ofName? name = some direction ↔ direction.name = name := by
  constructor
  · intro found
    simpa using List.find?_some found
  · rintro rfl
    cases direction <;> decide

namespace Signature

section Path

/-- The value of a source path, under the first of its two names that is there. -/
def pathField (fields : Fields) : Option Value :=
  (Fields.get? fields "source_path").or (Fields.get? fields "json_key")

/-- A source path that is neither a text nor null, at the name under which it is there. -/
inductive PathFault (fields : Fields) : Fault → Prop
  | sourcePath {value : Value} : Fields.get? fields "source_path" = some value →
      (∀ path, ¬ IsOptionalText value path) → PathFault fields ⟨[.field "source_path"], .notText⟩
  | jsonKey {value : Value} : Fields.get? fields "source_path" = none →
      Fields.get? fields "json_key" = some value → (∀ path, ¬ IsOptionalText value path) →
        PathFault fields ⟨[.field "json_key"], .notText⟩

private theorem checkSourcePath_eq (fields : Fields) :
    checkSourcePath fields =
      match Fields.get? fields "source_path" with
      | none => Schema.optional fields "json_key" none optionalText
      | some _ => Schema.optional fields "source_path" none optionalText := by
  unfold checkSourcePath
  rw [Fields.has_eq_isSome]
  cases Fields.get? fields "source_path" <;> rfl

private theorem checkSourcePath_ok_iff {fields : Fields} {path : Option String} :
    checkSourcePath fields = .ok path ↔
      Given (pathField fields) none IsOptionalText path := by
  rw [checkSourcePath_eq]
  cases own : Fields.get? fields "source_path" with
  | none =>
    have chosen : pathField fields = Fields.get? fields "json_key" := by simp [pathField, own]
    rw [chosen]
    exact optionalText_field_ok_iff
  | some value =>
    have chosen : pathField fields = Fields.get? fields "source_path" := by simp [pathField, own]
    rw [chosen]
    exact optionalText_field_ok_iff

private theorem checkSourcePath_finds (fields : Fields) :
    (checkSourcePath fields).Finds (PathFault fields) := by
  rw [checkSourcePath_eq]
  cases own : Fields.get? fields "source_path" with
  | none =>
    refine (optionalText_field_finds fields "json_key").congr fun fault => ?_
    constructor
    · rintro ⟨value, given, unread, rfl⟩
      exact .jsonKey own given unread
    · rintro (⟨given, -⟩ | ⟨-, given, unread⟩)
      · rw [own] at given
        cases given
      · exact ⟨_, given, unread, rfl⟩
  | some value =>
    refine (optionalText_field_finds fields "source_path").congr fun fault => ?_
    constructor
    · rintro ⟨value, given, unread, rfl⟩
      exact .sourcePath given unread
    · rintro (⟨given, unread⟩ | ⟨absent, -, -⟩)
      · exact ⟨_, given, unread, rfl⟩
      · rw [own] at absent
        cases absent

end Path

section Types

inductive GivesType : Value → SemanticType → Prop
  | spelled {spelling : String} {type : SemanticType} : SemanticType.IsSpelling spelling type →
      GivesType (.text spelling) type
  | described {value : Value} {type : SemanticType} : SemanticType.Describes value type →
      GivesType value type

inductive Misspells : Value → SemanticType.Misspelling → Prop
  | type {fields : Fields} {spelling : String} {misspelling : SemanticType.Misspelling} :
      Fields.get? fields "type" = some (.text spelling) →
      SemanticType.read spelling = .error misspelling → Misspells (.object fields) misspelling

theorem GivesType.isComplete {value : Value} {type : SemanticType} (gives : GivesType value type) :
    type.isComplete = true := by
  rcases gives with spells | described
  · exact SemanticType.isComplete_of_read (SemanticType.read_eq_ok_iff.mpr spells)
  · exact SemanticType.isComplete_of_describes described

private theorem not_describes_text {s : String} {type : SemanticType} :
    ¬ SemanticType.Describes (.text s) type :=
  nofun

private theorem checkType_of_not_text {value : Value} (other : ∀ s, value ≠ .text s) :
    checkType value = SemanticType.check value := by
  cases value with
  | text s => exact absurd rfl (other s)
  | _ => rfl

private theorem checkType_ok_iff {value : Value} {type : SemanticType} :
    checkType value = .ok type ↔ GivesType value type := by
  by_cases spelled : ∃ s, value = .text s
  · obtain ⟨s, rfl⟩ := spelled
    have accepted : GivesType (.text s) type ↔ SemanticType.read s = .ok type := by
      rw [SemanticType.read_eq_ok_iff]
      constructor
      · rintro (spells | described)
        · exact spells
        · exact absurd described not_describes_text
      · exact .spelled
    rw [accepted, checkType]
    cases SemanticType.read s <;> simp [Checked.fault]
  · have other : ∀ s, value ≠ .text s := not_exists.mp spelled
    rw [checkType_of_not_text other, SemanticType.check_ok_iff]
    constructor
    · exact .described
    · rintro (_ | described)
      · exact absurd rfl (other _)
      · exact described

private theorem checkType_finds {value : Value}
    (spelled : ∀ s, value = .text s → ∃ type, SemanticType.read s = .ok type) :
    (checkType value).Finds fun fault =>
      (∀ s, value ≠ .text s) ∧ SemanticType.DataFault value fault := by
  by_cases text : ∃ s, value = .text s
  · obtain ⟨s, rfl⟩ := text
    obtain ⟨type, read⟩ := spelled s rfl
    simp only [checkType, read]
    exact (Checked.finds_ok type).congr fun fault => by simp
  · have other : ∀ s, value ≠ .text s := not_exists.mp text
    rw [checkType_of_not_text other]
    exact (SemanticType.check_finds value).congr fun fault => by simp [other]

end Types

section Integers

open Numeric (Double)

/-- What is taken for an integer: a truth value, an integer, a number without fraction that is not
too great, or a text of an integer. -/
inductive GivesInteger : Value → Int → Prop
  | bool (b : Bool) : GivesInteger (.bool b) (if b then 1 else 0)
  | int (n : Int) : GivesInteger (.int n) n
  | float {x : Double} {n : Int} : x.isFinite = true → x.integer? = some n →
      -longestInteger < n → n < longestInteger → GivesInteger (.float x) n
  | text {s : String} {n : Int} : Numeric.FieldNumber.integer s = .ok n → GivesInteger (.text s) n

inductive GivesOptionalInteger : Value → Option Int → Prop
  | null : GivesOptionalInteger .null none
  | integer {value : Value} {n : Int} : GivesInteger value n → GivesOptionalInteger value (some n)

/-- What is wrong with a value that is not taken for an integer. -/
inductive IntegerFault : Value → FaultKind → Prop
  | otherKind {value : Value} : (∀ b, value ≠ .bool b) → (∀ n, value ≠ .int n) →
      (∀ x, value ≠ .float x) → (∀ s, value ≠ .text s) → IntegerFault value .notInteger
  | notFinite {x : Double} : x.isFinite = false → IntegerFault (.float x) .notFinite
  | fraction {x : Double} : x.isFinite = true → x.integer? = none →
      IntegerFault (.float x) .hasFraction
  | great {x : Double} {n : Int} : x.isFinite = true → x.integer? = some n →
      ¬ (-longestInteger < n ∧ n < longestInteger) →
        IntegerFault (.float x) .longIntegerText
  | otherText {s : String} : Numeric.FieldNumber.integer s = .error .notInteger →
      IntegerFault (.text s) .notIntegerText
  | longText {s : String} : Numeric.FieldNumber.integer s = .error .tooLong →
      IntegerFault (.text s) .longIntegerText

private theorem not_integerFault_of_gives {value : Value} {n : Int} {kind : FaultKind}
    (gives : GivesInteger value n) : ¬ IntegerFault value kind := by
  intro wrong
  cases wrong with
  | otherKind bool int float text =>
    cases gives with
    | bool b => exact bool b rfl
    | int n => exact int n rfl
    | float => exact float _ rfl
    | text => exact text _ rfl
  | notFinite infinite =>
    cases gives with
    | float finite => simp [infinite] at finite
  | fraction _ broken =>
    cases gives with
    | float _ whole => simp [broken] at whole
  | great _ whole outside =>
    cases gives with
    | float _ whole' above below =>
      obtain rfl := Option.some.inj (whole.symm.trans whole')
      exact outside ⟨above, below⟩
  | otherText refused =>
    cases gives with
    | text read => simp [refused] at read
  | longText refused =>
    cases gives with
    | text read => simp [refused] at read

private theorem givesInteger_unique {value : Value} {n m : Int} (gives : GivesInteger value n)
    (gives' : GivesInteger value m) : n = m := by
  cases gives <;> cases gives' <;> simp_all

private theorem integerFault_unique {value : Value} {kind kind' : FaultKind}
    (wrong : IntegerFault value kind) (wrong' : IntegerFault value kind') : kind = kind' := by
  cases wrong <;> cases wrong' <;> simp_all

private theorem checkInteger_cases (value : Value) :
    (∃ n, GivesInteger value n ∧ checkInteger value = .ok n) ∨
      ∃ kind, IntegerFault value kind ∧ checkInteger value = Checked.fault kind := by
  unfold checkInteger
  split
  · exact Or.inl ⟨_, .bool _, rfl⟩
  · exact Or.inl ⟨_, .int _, rfl⟩
  · split
    · rename_i infinite
      exact Or.inr ⟨_, .notFinite infinite, rfl⟩
    · rename_i finite broken
      exact Or.inr ⟨_, .fraction finite broken, rfl⟩
    · rename_i n finite whole
      by_cases within : -longestInteger < n ∧ n < longestInteger
      · exact Or.inl ⟨n, .float finite whole within.1 within.2, if_pos within⟩
      · exact Or.inr ⟨_, .great finite whole within, if_neg within⟩
  · split
    · rename_i read
      exact Or.inl ⟨_, .text read, rfl⟩
    · rename_i refused
      exact Or.inr ⟨_, .otherText refused, rfl⟩
    · rename_i refused
      exact Or.inr ⟨_, .longText refused, rfl⟩
  · rename_i bool int float text
    exact Or.inr ⟨_, .otherKind bool int float text, rfl⟩

private theorem checkInteger_ok_iff {value : Value} {n : Int} :
    checkInteger value = .ok n ↔ GivesInteger value n := by
  rcases checkInteger_cases value with ⟨m, gives, passed⟩ | ⟨kind, wrong, failed⟩
  · rw [passed]
    constructor
    · rintro ⟨⟩
      exact gives
    · intro gives'
      rw [givesInteger_unique gives gives']
  · rw [failed]
    constructor
    · rintro ⟨⟩
    · intro gives
      exact absurd wrong (not_integerFault_of_gives gives)

private theorem checkInteger_finds (value : Value) :
    (checkInteger value).Finds fun fault =>
      ∃ kind, IntegerFault value kind ∧ fault = ⟨[], kind⟩ := by
  rcases checkInteger_cases value with ⟨n, gives, passed⟩ | ⟨kind, wrong, failed⟩
  · rw [passed]
    exact (Checked.finds_ok n).congr fun fault => by simp [not_integerFault_of_gives gives]
  · rw [failed]
    refine (Checked.finds_fault kind).congr fun fault => ⟨fun same => ⟨kind, wrong, same⟩, ?_⟩
    rintro ⟨kind', wrong', rfl⟩
    rw [integerFault_unique wrong wrong']

private theorem checkOptionalInteger_of_ne_null {value : Value} (present : value ≠ .null) :
    checkOptionalInteger value = (checkInteger value).map some := by
  cases value with
  | null => exact absurd rfl present
  | _ => rfl

private theorem checkOptionalInteger_ok_iff {value : Value} {interval : Option Int} :
    checkOptionalInteger value = .ok interval ↔ GivesOptionalInteger value interval := by
  by_cases null : value = .null
  · subst null
    constructor
    · intro passed
      cases passed
      exact .null
    · rintro (_ | _ | _)
      rfl
  · rw [checkOptionalInteger_of_ne_null null, map_ok_iff]
    constructor
    · rintro ⟨n, passed, rfl⟩
      exact .integer (checkInteger_ok_iff.mp passed)
    · rintro (_ | gives)
      · exact absurd rfl null
      · exact ⟨_, checkInteger_ok_iff.mpr gives, rfl⟩

private theorem checkOptionalInteger_finds (value : Value) :
    (checkOptionalInteger value).Finds fun fault =>
      value ≠ .null ∧ ∃ kind, IntegerFault value kind ∧ fault = ⟨[], kind⟩ := by
  by_cases null : value = .null
  · subst null
    exact (Checked.finds_ok none).congr fun fault => by simp
  · rw [checkOptionalInteger_of_ne_null null]
    exact ((checkInteger_finds value).map some).congr fun fault => by simp [null]

end Integers

section Directions

private theorem checkDirection_ok_iff {value : Value} {direction : Direction} :
    checkDirection value = .ok direction ↔ value = .text direction.name := by
  cases value with
  | text s =>
    have named : Direction.ofName? s = some direction ↔ s = direction.name :=
      Direction.ofName?_eq_some_iff.trans eq_comm
    rw [Value.text.injEq, ← named, checkDirection]
    cases Direction.ofName? s <;> simp [Checked.fault]
  | _ => simp [checkDirection, Checked.fault]

private theorem checkDirection_finds (value : Value) :
    (checkDirection value).Finds fun fault =>
      (∀ direction : Direction, value ≠ .text direction.name) ∧ fault = ⟨[], .notInChoice⟩ := by
  refine finds_of_single (fun _ => checkDirection_ok_iff) ?_
  unfold checkDirection
  split
  · split
    · exact Or.inl ⟨_, rfl⟩
    · exact Or.inr rfl
  · exact Or.inr rfl

end Directions

end Signature

namespace Argument

open Signature (GivesType Misspells PathFault not_describes_text pathField)

structure DescribedBy (fields : Fields) (arg : Argument) : Prop where
  name : Fields.get? fields "name" = some (.text arg.name)
  direction : Given (Fields.get? fields "direction") .output
    (fun value direction => value = .text (Direction.name direction)) arg.direction
  type : ∃ value, Fields.get? fields "type" = some value ∧ GivesType value arg.type
  sourcePath : Given (pathField fields) none IsOptionalText arg.sourcePath

inductive Describes : Value → Argument → Prop
  | object {fields : Fields} {arg : Argument} : arg.DescribedBy fields →
      Describes (.object fields) arg

/-- What is wrong with data that describe no argument, and where.  A type that is a text has no
faults of this sort: it is spelled right or ends the check. -/
inductive DataFault : Value → Fault → Prop
  | notObject {value : Value} : (∀ fields, value ≠ .object fields) →
      DataFault value ⟨[], .notObject⟩
  | nameMissing {fields : Fields} : Fields.get? fields "name" = none →
      DataFault (.object fields) ⟨[.field "name"], .missing⟩
  | name {fields : Fields} {value : Value} : Fields.get? fields "name" = some value →
      (∀ s, value ≠ .text s) → DataFault (.object fields) ⟨[.field "name"], .notText⟩
  | direction {fields : Fields} {value : Value} : Fields.get? fields "direction" = some value →
      (∀ direction : Direction, value ≠ .text direction.name) →
        DataFault (.object fields) ⟨[.field "direction"], .notInChoice⟩
  | typeMissing {fields : Fields} : Fields.get? fields "type" = none →
      DataFault (.object fields) ⟨[.field "type"], .missing⟩
  | type {fields : Fields} {value : Value} {inner : Fault} :
      Fields.get? fields "type" = some value → (∀ s, value ≠ .text s) →
      SemanticType.DataFault value inner →
        DataFault (.object fields) ⟨.field "type" :: inner.place, inner.kind⟩
  | path {fields : Fields} {fault : Fault} : PathFault fields fault →
      DataFault (.object fields) fault

private theorem not_misspells_of_describes {value : Value} {arg : Argument}
    {misspelling : SemanticType.Misspelling} (described : Describes value arg) :
    ¬ Misspells value misspelling := by
  rintro ⟨given, refused⟩
  obtain ⟨-, -, ⟨spelled, found, gives⟩, -⟩ := described
  rw [given] at found
  obtain rfl := Option.some.inj found
  rcases gives with spells | described
  · rw [SemanticType.read_eq_ok_iff.mpr spells] at refused
    cases refused
  · exact not_describes_text described

end Argument

namespace Signature

section Arguments

private theorem checkArgument_ok_iff {value : Value} {arg : Argument} :
    checkArgument value = .ok arg ↔ Argument.Describes value arg := by
  cases value with
  | object fields =>
    simp only [checkArgument, map_ok_iff, Prod.exists, Checked.both_ok_iff,
      required_ok_iff, text_ok_iff, exists_eq_right, checkType_ok_iff, checkSourcePath_ok_iff,
      optional_given_iff fun _ _ => checkDirection_ok_iff]
    constructor
    · rintro ⟨name, direction, type, path, ⟨named, directed, typed, placed⟩, rfl⟩
      exact .object ⟨named, directed, typed, placed⟩
    · rintro ⟨named, directed, typed, placed⟩
      exact ⟨_, _, _, _, ⟨named, directed, typed, placed⟩, rfl⟩
  | _ =>
    constructor
    · rintro ⟨⟩
    · rintro ⟨⟩

private theorem checkArgument_of_not_object {value : Value}
    (other : ∀ fields, value ≠ .object fields) :
    checkArgument value = Checked.fault .notObject := by
  cases value with
  | object fields => exact absurd rfl (other fields)
  | _ => rfl

private theorem checkArgument_finds_of_not_object {value : Value}
    (other : ∀ fields, value ≠ .object fields) :
    (checkArgument value).Finds (Argument.DataFault value) := by
  rw [checkArgument_of_not_object other]
  refine (Checked.finds_fault .notObject).congr fun fault => ?_
  constructor
  · rintro rfl
    exact .notObject other
  · intro wrong
    cases wrong <;> first | rfl | exact absurd rfl (other _)

private theorem checkArgument_finds_of_object {fields : Fields}
    (spelled : ∀ misspelling, ¬ Misspells (.object fields) misspelling) :
    (checkArgument (.object fields)).Finds (Argument.DataFault (.object fields)) := by
  -- The fault that a misspelled text would have as a type is never reached.
  have right (s : String) (given : Fields.get? fields "type" = some (.text s)) :
      ∃ type, SemanticType.read s = .ok type := by
    cases read : SemanticType.read s with
    | ok type => exact ⟨type, rfl⟩
    | error misspelling => exact absurd (.type given read) (spelled misspelling)
  have names := required_finds fun value (_ : Fields.get? fields "name" = some value) =>
    text_finds value
  have directions := @optional_finds _ _ _ _ _ Direction.output
    fun value (_ : Fields.get? fields "direction" = some value) => checkDirection_finds value
  have types := required_finds fun value (given : Fields.get? fields "type" = some value) =>
    @checkType_finds value fun s same => right s (same ▸ given)
  have parts := names.both (directions.both (types.both (checkSourcePath_finds fields)))
  rw [checkArgument]
  refine (parts.map _).congr fun fault => ?_
  constructor
  · rintro (name | direction | type | path)
    · rcases name with ⟨missing, rfl⟩ | ⟨value, given, _, ⟨unread, rfl⟩, rfl⟩
      · exact .nameMissing missing
      · exact .name given unread
    · obtain ⟨value, given, _, ⟨unknown, rfl⟩, rfl⟩ := direction
      exact .direction given unknown
    · rcases type with ⟨missing, rfl⟩ | ⟨value, given, inner, ⟨other, wrong⟩, rfl⟩
      · exact .typeMissing missing
      · exact .type given other wrong
    · exact .path path
  · intro wrong
    cases wrong with
    | notObject other => exact absurd rfl (other fields)
    | nameMissing missing => exact Or.inl (Or.inl ⟨missing, rfl⟩)
    | name given unread => exact Or.inl (Or.inr ⟨_, given, _, ⟨unread, rfl⟩, rfl⟩)
    | direction given unknown => exact Or.inr (Or.inl ⟨_, given, _, ⟨unknown, rfl⟩, rfl⟩)
    | typeMissing missing => exact Or.inr (Or.inr (Or.inl (Or.inl ⟨missing, rfl⟩)))
    | type given other wrong =>
      exact Or.inr (Or.inr (Or.inl (Or.inr ⟨_, given, _, ⟨other, wrong⟩, rfl⟩)))
    | path wrong => exact Or.inr (Or.inr (Or.inr wrong))

private theorem checkArgument_finds {value : Value}
    (spelled : ∀ misspelling, ¬ Misspells value misspelling) :
    (checkArgument value).Finds (Argument.DataFault value) := by
  by_cases isObject : ∃ fields, value = .object fields
  · obtain ⟨fields, rfl⟩ := isObject
    exact checkArgument_finds_of_object spelled
  · exact checkArgument_finds_of_not_object (not_exists.mp isObject)

end Arguments

/-- The fields of an object give this signature, names not compared. -/
structure DescribedBy (fields : Fields) (signature : Signature) : Prop where
  name : Given (Fields.get? fields "name") "" (fun value name => value = .text name) signature.name
  args : Given (Fields.get? fields "args") []
    (fun value args => ∃ values, value = .list values ∧ List.Forall₂ Argument.Describes values args)
    signature.args
  sourcePath : Given (pathField fields) none IsOptionalText signature.sourcePath
  pollInterval : Given (Fields.get? fields "poll_interval") none GivesOptionalInteger
    signature.pollInterval

/-- What is wrong with fields that describe no signature, and where. -/
inductive DataFault (fields : Fields) : Fault → Prop
  | name {value : Value} : Fields.get? fields "name" = some value → (∀ s, value ≠ .text s) →
      DataFault fields ⟨[.field "name"], .notText⟩
  | args {value : Value} : Fields.get? fields "args" = some value →
      (∀ values, value ≠ .list values) → DataFault fields ⟨[.field "args"], .notList⟩
  | argument {values : List Value} {index : Nat} {value : Value} {inner : Fault} :
      Fields.get? fields "args" = some (.list values) → values[index]? = some value →
      Argument.DataFault value inner →
        DataFault fields ⟨.field "args" :: .position index :: inner.place, inner.kind⟩
  | path {fault : Fault} : PathFault fields fault → DataFault fields fault
  | pollInterval {value : Value} {kind : FaultKind} :
      Fields.get? fields "poll_interval" = some value → value ≠ .null → IntegerFault value kind →
        DataFault fields ⟨[.field "poll_interval"], kind⟩

def WellSpelled (fields : Fields) : Prop :=
  ∀ values, Fields.get? fields "args" = some (.list values) →
    ∀ value ∈ values, ∀ misspelling, ¬ Misspells value misspelling

theorem checkFields_ok_iff {fields : Fields} {signature : Signature} :
    checkFields fields = .ok signature ↔ signature.DescribedBy fields := by
  have listed (value : Value) (args : List Argument) : Schema.list checkArgument value = .ok args ↔
      ∃ values, value = .list values ∧ List.Forall₂ Argument.Describes values args := by
    simp only [list_ok_iff, checkArgument_ok_iff]
  simp only [checkFields, map_ok_iff, Prod.exists, Checked.both_ok_iff, checkSourcePath_ok_iff,
    optional_given_iff fun _ _ => text_ok_iff, optional_given_iff listed,
    optional_given_iff fun _ _ => checkOptionalInteger_ok_iff]
  constructor
  · rintro ⟨name, args, path, interval, ⟨named, listed, placed, polled⟩, rfl⟩
    exact ⟨named, listed, placed, polled⟩
  · rintro ⟨named, listed, placed, polled⟩
    exact ⟨_, _, _, _, ⟨named, listed, placed, polled⟩, rfl⟩

theorem checkFields_finds {fields : Fields} (spelled : WellSpelled fields) :
    (checkFields fields).Finds (DataFault fields) := by
  have names := @optional_finds _ _ _ _ _ ""
    fun value (_ : Fields.get? fields "name" = some value) => text_finds value
  have arguments := @optional_finds _ _ _ _ _ []
    fun value (given : Fields.get? fields "args" = some value) =>
      @list_finds _ checkArgument Argument.DataFault value fun values same item member =>
        checkArgument_finds (spelled values (same ▸ given) item member)
  have intervals := @optional_finds _ _ _ _ _ none
    fun value (_ : Fields.get? fields "poll_interval" = some value) =>
      checkOptionalInteger_finds value
  have parts := names.both (arguments.both ((checkSourcePath_finds fields).both intervals))
  refine (parts.map _).congr fun fault => ?_
  constructor
  · rintro (name | args | path | interval)
    · obtain ⟨value, given, _, ⟨unread, rfl⟩, rfl⟩ := name
      exact .name given unread
    · obtain ⟨value, given, _, ⟨unread, rfl⟩ | listed, rfl⟩ := args
      · exact .args given unread
      · obtain ⟨values, index, item, rfl, found, inner, wrong, rfl⟩ := listed
        exact .argument given found wrong
    · exact .path path
    · obtain ⟨value, given, _, ⟨present, kind, wrong, rfl⟩, rfl⟩ := interval
      exact .pollInterval given present wrong
  · intro wrong
    cases wrong with
    | name given unread => exact Or.inl ⟨_, given, _, ⟨unread, rfl⟩, rfl⟩
    | args given unread => exact Or.inr (Or.inl ⟨_, given, _, Or.inl ⟨unread, rfl⟩, rfl⟩)
    | argument given found wrong =>
      exact Or.inr (Or.inl ⟨_, given, _, Or.inr ⟨_, _, _, rfl, found, _, wrong, rfl⟩, rfl⟩)
    | path wrong => exact Or.inr (Or.inr (Or.inl wrong))
    | pollInterval given present wrong =>
      exact Or.inr (Or.inr (Or.inr ⟨_, given, _, ⟨present, _, wrong, rfl⟩, rfl⟩))

namespace DescribedBy

variable {fields : Fields} {signature other : Signature}

theorem unique (described : signature.DescribedBy fields) (described' : other.DescribedBy fields) :
    signature = other := by
  have passed : checkFields fields = .ok signature := checkFields_ok_iff.mpr described
  rw [checkFields_ok_iff.mpr described'] at passed
  exact (Except.ok.inj passed).symm

theorem isComplete (described : signature.DescribedBy fields) :
    ∀ arg ∈ signature.args, arg.type.isComplete = true := by
  intro arg member
  rcases described.args with ⟨-, none⟩ | ⟨_, -, values, -, pairs⟩
  · rw [← none] at member
    cases member
  · obtain ⟨value, -, own⟩ := exists_mem_of_forall₂ pairs.flip member
    obtain ⟨-, -, ⟨spelled, -, gives⟩, -⟩ := own
    exact gives.isComplete

theorem wellSpelled (described : signature.DescribedBy fields) : WellSpelled fields := by
  intro values given value member misspelling
  rcases described.args with ⟨absent, -⟩ | ⟨_, found, others, rfl, pairs⟩
  · rw [given] at absent
    cases absent
  · rw [given] at found
    obtain rfl := Value.list.inj (Option.some.inj found)
    obtain ⟨arg, -, own⟩ := exists_mem_of_forall₂ pairs member
    exact Argument.not_misspells_of_describes own

theorem not_dataFault (described : signature.DescribedBy fields) (fault : Fault) :
    ¬ DataFault fields fault :=
  (checkFields_finds described.wellSpelled).not_of_ok (checkFields_ok_iff.mpr described) fault

end DescribedBy

end Signature

end TypedRecords
