import TypedRecords.Json.Printer
import TypedRecords.Proofs.Json.LongIntegers
import TypedRecords.Proofs.Json.Strict

/-!
Printing in strict JSON.  A value and its form have the same shape, and differ where a number is not
finite or a part is of a kind that JSON does not have.  The form can be printed, and is its own
form.
-/

set_option autoImplicit false

namespace TypedRecords.Json

open TypedRecords.Numeric (Double isTooLong)

/-- A value and its form in JSON.  Lists have as many items and in the same order, objects the same
names in the same order; amounts, entities and places become objects of their parts, moments become
texts, and numbers that are not finite become null. -/
inductive Prints : Value → Value → Prop
  | null : Prints .null .null
  | bool (b : Bool) : Prints (.bool b) (.bool b)
  | int (n : Int) : Prints (.int n) (.int n)
  | text (s : String) : Prints (.text s) (.text s)
  | finite {x : Double} : x.isFinite = true → Prints (.float x) (.float x)
  | missing {x : Double} : x.isFinite = false → Prints (.float x) .null
  | moment (m : Calendar.Moment) : Prints (.moment m) (.text (m.isoText "T"))
  | currency {c : Currency} {amount : Value} : Prints (.float c.amount) amount →
      Prints (.currency c) (.object [("value", amount), ("code", .text c.code)])
  | entity (e : Entity) :
      Prints (.entity e) (.object [("value", .text e.id), ("display", strictText e.display)])
  | location {l : Location} {latitude longitude : Value} : Prints (.float l.latitude) latitude →
      Prints (.float l.longitude) longitude →
      Prints (.location l) (.object [("latitude", latitude), ("longitude", longitude),
        ("display", strictText l.display)])
  | list {items results : List Value} : List.Forall₂ Prints items results →
      Prints (.list items) (.list results)
  | object {fields results : Fields} : fields.map Prod.fst = results.map Prod.fst →
      List.Forall₂ Prints (fields.map Prod.snd) (results.map Prod.snd) →
      Prints (.object fields) (.object results)

/-- What JSON has, integers included only if they are not too long to be written out. -/
def IsPrintable (value : Value) : Prop :=
  IsJson value ∧ IsShort value

mutual

/-- Prints a value on a level.  Values that JSON does not have, numbers that are not finite and
integers that are too long are refused. -/
def print? (level : Nat) : Value → Option String
  | .null => some "null"
  | .bool b => some (if b then "true" else "false")
  | .int n => if isTooLong n then none else some (Value.integerText n)
  | .float x => if x.isFinite then some (Value.numberText x) else none
  | .text s => some (textLiteral s)
  | .list items => (printItems? (level + 1) items).map (block level "[" "]")
  | .object fields => (printFields? (level + 1) fields).map (block level "\x7b" "\x7d")
  | _ => none

def printItems? (level : Nat) : List Value → Option (List String)
  | [] => some []
  | item :: rest =>
    (print? level item).bind fun text => (printItems? level rest).map (text :: ·)

def printFields? (level : Nat) : List (String × Value) → Option (List String)
  | [] => some []
  | (name, value) :: rest =>
    (print? level value).bind fun text =>
      (printFields? level rest).map ((textLiteral name ++ ": " ++ text) :: ·)

end

section Printer

variable {printable : Value → Prop}

private theorem printItems?_eq_some_iff {items : List Value} {level : Nat} {texts : List String}
    (each : ∀ item ∈ items, ∀ level text,
      print? level item = some text ↔ printable item ∧ text = writeValue level item) :
    printItems? level items = some texts ↔
      (∀ item ∈ items, printable item) ∧ texts = writeItems level items := by
  induction items generalizing texts with
  | nil => simp [printItems?, writeItems, eq_comm]
  | cons item rest ih =>
    obtain ⟨head, tail⟩ := List.forall_mem_cons.mp each
    simp only [printItems?, writeItems, Option.bind_eq_some_iff, Option.map_eq_some_iff, head,
      ih tail, List.forall_mem_cons]
    constructor
    · rintro ⟨text, ⟨first, rfl⟩, others, ⟨later, rfl⟩, rfl⟩
      exact ⟨⟨first, later⟩, rfl⟩
    · rintro ⟨⟨first, later⟩, rfl⟩
      exact ⟨_, ⟨first, rfl⟩, _, ⟨later, rfl⟩, rfl⟩

private theorem printFields?_eq_some_iff {fields : Fields} {level : Nat} {texts : List String}
    (each : ∀ field ∈ fields, ∀ level text,
      print? level field.2 = some text ↔ printable field.2 ∧ text = writeValue level field.2) :
    printFields? level fields = some texts ↔
      (∀ field ∈ fields, printable field.2) ∧ texts = writeFields level fields := by
  induction fields generalizing texts with
  | nil => simp [printFields?, writeFields, eq_comm]
  | cons field rest ih =>
    obtain ⟨head, tail⟩ := List.forall_mem_cons.mp each
    simp only [printFields?, writeFields, Option.bind_eq_some_iff, Option.map_eq_some_iff, head,
      ih tail, List.forall_mem_cons]
    constructor
    · rintro ⟨text, ⟨first, rfl⟩, others, ⟨later, rfl⟩, rfl⟩
      exact ⟨⟨first, later⟩, rfl⟩
    · rintro ⟨⟨first, later⟩, rfl⟩
      exact ⟨_, ⟨first, rfl⟩, _, ⟨later, rfl⟩, rfl⟩

@[simp] private theorem isPrintable_int_iff {n : Int} :
    IsPrintable (.int n) ↔ isTooLong n = false := by
  constructor
  · intro printable
    exact printable.2 n rfl
  · intro short
    refine ⟨.int n, fun m same => ?_⟩
    obtain rfl := Value.int.inj same
    exact short

@[simp] private theorem isPrintable_float_iff {x : Double} :
    IsPrintable (.float x) ↔ x.isFinite = true := by
  constructor
  · rintro ⟨⟨finite⟩, -⟩
    assumption
  · exact fun finite => ⟨.float finite, nofun⟩

private theorem print?_leaf_iff {value : Value} (leaf : value.IsLeaf) {level : Nat}
    {text : String} :
    print? level value = some text ↔ IsPrintable value ∧ text = writeValue level value := by
  have plain {own : String} (printable : IsPrintable value) :
      some own = some text ↔ IsPrintable value ∧ text = own := by
    rw [Option.some.injEq, and_iff_right printable, eq_comm]
  have foreign {own : String} (other : ¬ IsJson value) :
      none = some text ↔ IsPrintable value ∧ text = own :=
    ⟨nofun, fun printed => absurd printed.1.1 other⟩
  cases leaf with
  | null => exact plain ⟨.null, nofun⟩
  | bool b => exact plain ⟨.bool b, nofun⟩
  | text s => exact plain ⟨.text s, nofun⟩
  | int n =>
    rw [print?, isPrintable_int_iff]
    cases isTooLong n <;> simp [writeValue, eq_comm]
  | float x =>
    rw [print?, isPrintable_float_iff]
    cases x.isFinite <;> simp [writeValue, eq_comm]
  | _ => exact foreign nofun

theorem print?_eq_some_iff {value : Value} {level : Nat} {text : String} :
    print? level value = some text ↔
      value.Throughout IsPrintable ∧ text = writeValue level value := by
  induction value using Value.induction generalizing level text with
  | leaf value leaf => rw [Value.throughout_leaf_iff leaf, print?_leaf_iff leaf]
  | list items ih =>
    have own : IsPrintable (.list items) := ⟨.list items, isShort_of_ne (by simp)⟩
    simp only [print?, writeValue, Option.map_eq_some_iff,
      printItems?_eq_some_iff fun item member level text => ih item member,
      Value.throughout_list_iff, own, true_and]
    constructor
    · rintro ⟨texts, ⟨all, rfl⟩, rfl⟩
      exact ⟨all, rfl⟩
    · rintro ⟨all, rfl⟩
      exact ⟨_, ⟨all, rfl⟩, rfl⟩
  | object fields ih =>
    have own : IsPrintable (.object fields) := ⟨.object fields, isShort_of_ne (by simp)⟩
    simp only [print?, writeValue, Option.map_eq_some_iff,
      printFields?_eq_some_iff fun field member level text => ih field member,
      Value.throughout_object_iff, own, true_and]
    constructor
    · rintro ⟨texts, ⟨all, rfl⟩, rfl⟩
      exact ⟨all, rfl⟩
    · rintro ⟨all, rfl⟩
      exact ⟨_, ⟨all, rfl⟩, rfl⟩

end Printer

section Forms

variable {value result : Value}

private theorem strictItems?_of_forall {items : List Value}
    (own : ∀ item ∈ items, strict? item = some item) :
    strictItems? items = some items := by
  induction items with
  | nil => rfl
  | cons item rest ih =>
    obtain ⟨head, tail⟩ := List.forall_mem_cons.mp own
    rw [strictItems?, head, ih tail]
    rfl

private theorem strictFields?_of_forall {fields : Fields}
    (own : ∀ field ∈ fields, strict? field.2 = some field.2) :
    strictFields? fields = some fields := by
  induction fields with
  | nil => rfl
  | cons field rest ih =>
    obtain ⟨head, tail⟩ := List.forall_mem_cons.mp own
    rw [strictFields?, head, ih tail]
    rfl

theorem strict?_of_isJson (all : value.Throughout IsJson) : strict? value = some value := by
  induction value using Value.induction with
  | leaf value leaf =>
    cases (Value.throughout_leaf_iff leaf).mp all with
    | float finite => rw [strict?, strictNumber, if_pos finite]
    | _ => first | rfl | cases leaf
  | list items ih =>
    have inner := (Value.throughout_list_iff.mp all).2
    rw [strict?, strictItems?_of_forall fun item member => ih item member (inner item member)]
    rfl
  | object fields ih =>
    have inner := (Value.throughout_object_iff.mp all).2
    rw [strict?, strictFields?_of_forall fun field member => ih field member (inner field member)]
    rfl

private theorem prints_strictNumber (x : Double) : Prints (.float x) (strictNumber x) := by
  unfold strictNumber
  split
  · rename_i finite
    exact .finite finite
  · rename_i other
    exact .missing (Bool.not_eq_true _ ▸ other)

private theorem prints_of_strict?_leaf (leaf : value.IsLeaf) (recorded : IsRecorded value)
    (found : strict? value = some result) : Prints value result := by
  cases leaf with
  | float x =>
    obtain rfl := Option.some.inj found
    exact prints_strictNumber x
  | moment m =>
    rw [strict?] at found
    split at found
    · obtain rfl := Option.some.inj found
      exact .moment m
    · cases found
  | currency c =>
    obtain rfl := Option.some.inj found
    exact .currency (prints_strictNumber c.amount)
  | entity e =>
    obtain rfl := Option.some.inj found
    exact .entity e
  | location l =>
    obtain rfl := Option.some.inj found
    exact .location (prints_strictNumber l.latitude) (prints_strictNumber l.longitude)
  | date d =>
    cases recorded with
    | decoded plain => cases plain
  | time t =>
    cases recorded with
    | decoded plain => cases plain
  | _ =>
    obtain rfl := Option.some.inj found
    constructor

theorem prints_of_strict? (recorded : value.Throughout IsRecorded)
    (found : strict? value = some result) : Prints value result := by
  induction value using Value.induction generalizing result with
  | leaf value leaf =>
    exact prints_of_strict?_leaf leaf ((Value.throughout_leaf_iff leaf).mp recorded) found
  | list items ih =>
    obtain ⟨results, pairs, rfl⟩ := Option.map_eq_some_iff.mp found
    have inner := (Value.throughout_list_iff.mp recorded).2
    have prints : ∀ item ∈ items, ∀ result, strict? item = some result → Prints item result :=
      fun item member result => ih item member (inner item member)
    have each := (List.forall₂_and_left _ _).mpr ⟨prints, strictItems?_eq_some pairs⟩
    exact .list (each.imp fun item result related => related.1 result related.2)
  | object fields ih =>
    obtain ⟨results, pairs, rfl⟩ := Option.map_eq_some_iff.mp found
    have inner := (Value.throughout_object_iff.mp recorded).2
    have related := strictFields?_eq_some pairs
    have names : fields.map Prod.fst = results.map Prod.fst := by
      rw [← List.forall₂_eq_eq_eq, List.forall₂_map_left_iff, List.forall₂_map_right_iff]
      exact related.imp fun _ _ pair => pair.1
    have prints : ∀ field ∈ fields, ∀ result,
        strict? field.2 = some result → Prints field.2 result :=
      fun field member result => ih field member (inner field member)
    have each := (List.forall₂_and_left _ _).mpr ⟨prints, related⟩
    refine .object names ?_
    rw [List.forall₂_map_left_iff, List.forall₂_map_right_iff]
    exact each.imp fun field result pair => pair.1 result.2 pair.2.2

private theorem ofForms_short : OfForms IsShort IsShort where
  null := nofun
  float := fun _ _ => nofun
  text := nofun
  list := nofun
  object := nofun
  unchanged := fun _ _ short _ => short

theorem strict?_isPrintable (recorded : value.Throughout IsRecorded)
    (short : value.Throughout IsShort) (found : strict? value = some result) :
    result.Throughout IsPrintable := by
  intro part within
  exact ⟨strict?_isJson recorded found part within,
    strict?_throughout ofForms_short short found part within⟩

end Forms

end TypedRecords.Json
