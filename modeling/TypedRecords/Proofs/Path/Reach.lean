import Mathlib.Data.List.Basic
import TypedRecords.Path.Lookup
import TypedRecords.Proofs.Path.Rendering
import TypedRecords.Proofs.Text.Digits

/-!
Where a path leads.  To every place inside a value there is a path, which names the fields and
positions on the way; and every path leads where its segments lead one after the other, or to null
as soon as there is no way on.
-/

set_option autoImplicit false

namespace TypedRecords.Path

open TypedRecords.Numeric (digitLimit)
open TypedRecords.Text (isPlainDigit digitsValue? digitValue?_of_isDigit isDigit_of_mem_repr
  toList_repr_ne_nil)

/-- One step into a value: to a field by its name, or to an item by its position. -/
inductive Place where
  | field (name : String)
  | item (position : Nat)

/-- A field is written with a backslash before every dot and backslash, a position in decimal. -/
def Place.spelling : Place → String
  | .field name => escape name
  | .item position => Nat.repr position

inductive LeadsTo : Value → List Place → Value → Prop
  | here (value : Value) : LeadsTo value [] value
  | field {fields : Fields} {name : String} {part target : Value} {rest : List Place} :
      Fields.get? fields name = some part → LeadsTo part rest target →
        LeadsTo (.object fields) (.field name :: rest) target
  | item {items : List Value} {position : Nat} {part target : Value} {rest : List Place} :
      items[position]? = some part → LeadsTo part rest target →
        LeadsTo (.list items) (.item position :: rest) target

/-- A segment of plain digits, leading zeros allowed, with the number that they write. -/
structure IsNumeral (segment : String) (position : Nat) : Prop where
  nonempty : segment ≠ ""
  digits : ∀ c ∈ segment.toList, c.isDigit = true
  value : Nat.ofDigitChars 10 segment.toList 0 = position

/-- Segments that lead from a value to a part of it: in an object by the very name of a field, in a
list by the number of a position. -/
inductive Reaches : Value → List String → Value → Prop
  | here (value : Value) : Reaches value [] value
  | field {fields : Fields} {segment : String} {part target : Value} {rest : List String} :
      Fields.get? fields segment = some part → Reaches part rest target →
        Reaches (.object fields) (segment :: rest) target
  | item {items : List Value} {segment : String} {position : Nat} {part target : Value}
      {rest : List String} :
      IsNumeral segment position → items[position]? = some part → Reaches part rest target →
        Reaches (.list items) (segment :: rest) target

/-- A segment of digits alone has no more of them than are converted. -/
def IsShort (segment : String) : Prop :=
  (∀ c ∈ segment.toList, c.isDigit = true) → segment.length ≤ digitLimit

section Numeral

private theorem digitsValue?_go_of_isDigit (cs : List Char) (value : Nat)
    (digits : ∀ c ∈ cs, c.isDigit = true) :
    digitsValue?.go value cs = some (Nat.ofDigitChars 10 cs value) := by
  induction cs generalizing value with
  | nil => rfl
  | cons c rest ih =>
    obtain ⟨first, others⟩ := List.forall_mem_cons.mp digits
    rw [digitsValue?.go, digitValue?_of_isDigit first, Option.bind_some, ih _ others]
    rfl

theorem index?_eq_some_iff {segment : String} {position : Nat} :
    index? segment = some position ↔ IsNumeral segment position := by
  have all : segment.toList.all isPlainDigit = true ↔ ∀ c ∈ segment.toList, c.isDigit = true :=
    List.all_eq_true
  simp only [index?, all]
  constructor
  · intro found
    split at found
    · rename_i numeral
      have read := digitsValue?_go_of_isDigit segment.toList 0 numeral.2
      exact ⟨numeral.1, numeral.2, Option.some.inj (read.symm.trans found)⟩
    · cases found
  · rintro ⟨nonempty, digits, rfl⟩
    rw [if_pos ⟨nonempty, digits⟩]
    exact digitsValue?_go_of_isDigit segment.toList 0 digits

theorem isNumeral_repr (position : Nat) : IsNumeral (Nat.repr position) position := by
  refine ⟨?_, isDigit_of_mem_repr position, ?_⟩
  · intro empty
    exact toList_repr_ne_nil position (by rw [empty]; rfl)
  · rw [Nat.toList_repr]
    exact Nat.ofDigitChars_toDigits (by decide) (by decide)

end Numeral

section Step

theorem item_of_isNumeral {segment : String} {position : Nat} (numeral : IsNumeral segment position)
    (short : segment.length ≤ digitLimit) (items : List Value) :
    item items segment = .ok ((items[position]?).getD .null) := by
  simp [item, index?_eq_some_iff.mpr numeral, Nat.not_lt.mpr short]

theorem item_of_not_isNumeral {segment : String}
    (other : ∀ position, ¬ IsNumeral segment position) (items : List Value) :
    item items segment = .ok .null := by
  have none : index? segment = none := by
    rw [Option.eq_none_iff_forall_ne_some]
    intro position found
    exact other position (index?_eq_some_iff.mp found)
  simp [item, none]

theorem step_field {fields : Fields} {segment : String} {part : Value}
    (found : Fields.get? fields segment = some part) : step (.object fields) segment =
      .ok part := by
  simp [step, found]

theorem step_item {items : List Value} {segment : String} {position : Nat} {part : Value}
    (numeral : IsNumeral segment position) (short : segment.length ≤ digitLimit)
    (found : items[position]? = some part) : step (.list items) segment = .ok part := by
  simp [step, item_of_isNumeral numeral short, found]

theorem follow_cons {value part : Value} {segment : String} (rest : List String)
    (found : step value segment = .ok part) :
    follow value (segment :: rest) = follow part rest := by
  simp [follow, found, Except.bind]

theorem follow_null (parts : List String) : follow .null parts = .ok .null := by
  induction parts with
  | nil => rfl
  | cons segment rest ih => exact ih

end Step

section Follow

theorem follow_of_step_null {value : Value} {segment : String} (rest : List String)
    (missing : step value segment = .ok .null) :
    follow value (segment :: rest) = .ok .null := by
  rw [follow_cons rest missing, follow_null]

private theorem follow_of_reaches {value target : Value} {parts : List String}
    (reaches : Reaches value parts target) (short : ∀ segment ∈ parts, IsShort segment) :
    follow value parts = .ok target := by
  induction reaches with
  | here value => rfl
  | @field fields segment part target rest found _ ih =>
    rw [follow_cons rest (step_field found)]
    exact ih fun other member => short other (List.mem_cons_of_mem _ member)
  | @item items segment position part target rest numeral found _ ih =>
    have length := short segment List.mem_cons_self numeral.digits
    rw [follow_cons rest (step_item numeral length found)]
    exact ih fun other member => short other (List.mem_cons_of_mem _ member)

private theorem follow_of_not_reaches {value : Value} {parts : List String}
    (lost : ∀ target, ¬ Reaches value parts target) (short : ∀ segment ∈ parts, IsShort segment) :
    follow value parts = .ok .null := by
  induction parts generalizing value with
  | nil => exact absurd (.here value) (lost value)
  | cons segment rest ih =>
    obtain ⟨first, others⟩ := List.forall_mem_cons.mp short
    cases value with
    | object fields =>
      cases found : Fields.get? fields segment with
      | none => exact follow_of_step_null rest (by simp [step, found])
      | some part =>
        rw [follow_cons rest (step_field found)]
        exact ih (fun target reaches => lost target (.field found reaches)) others
    | list items =>
      by_cases numeral : ∃ position, IsNumeral segment position
      · obtain ⟨position, numeral⟩ := numeral
        have short := first numeral.digits
        cases found : items[position]? with
        | none =>
          have missing : step (.list items) segment = .ok .null := by
            simp [step, item_of_isNumeral numeral short, found]
          exact follow_of_step_null rest missing
        | some part =>
          rw [follow_cons rest (step_item numeral short found)]
          exact ih (fun target reaches => lost target (.item numeral found reaches)) others
      · exact follow_of_step_null rest (item_of_not_isNumeral (not_exists.mp numeral) items)
    | _ => exact follow_of_step_null rest rfl

end Follow

section Places

def Place.segment : Place → String
  | .field name => name
  | .item position => Nat.repr position

theorem escape_of_isDigit {segment : String} (digits : ∀ c ∈ segment.toList, c.isDigit = true) :
    escape segment = segment := by
  have plain : ∀ c ∈ segment.toList, escapeChar c = [c] := by
    intro c member
    have digit := digits c member
    have special : ¬ (c = '.' ∨ c = '\\') := by
      rintro (rfl | rfl) <;> cases digit
    simp [escapeChar, special]
  rw [← String.toList_inj, toList_escape, List.flatMap_congr plain, List.flatMap_singleton']

private theorem Place.spelling_eq (place : Place) : place.spelling = escape place.segment := by
  cases place with
  | field name => rfl
  | item position => exact (escape_of_isDigit (isNumeral_repr position).digits).symm

private theorem segments_spelling {places : List Place} (nonempty : places ≠ []) :
    segments (".".intercalate (places.map Place.spelling)) = places.map Place.segment := by
  have written : places.map Place.spelling = (places.map Place.segment).map escape := by
    rw [List.map_map]
    exact List.map_congr_left fun place _ => place.spelling_eq
  rw [written]
  exact segments_render (by simpa using nonempty)

private theorem follow_of_leadsTo {value target : Value} {places : List Place}
    (leads : LeadsTo value places target)
    (short : ∀ position, .item position ∈ places → (Nat.repr position).length ≤ digitLimit) :
    follow value (places.map Place.segment) = .ok target := by
  induction leads with
  | here value => rfl
  | @field fields name part target rest found _ ih =>
    rw [List.map_cons, Place.segment, follow_cons _ (step_field found)]
    exact ih fun position member => short position (List.mem_cons_of_mem _ member)
  | @item items position part target rest found _ ih =>
    have length := short position List.mem_cons_self
    have taken := step_item (isNumeral_repr position) length found
    rw [List.map_cons, Place.segment, follow_cons _ taken]
    exact ih fun position member => short position (List.mem_cons_of_mem _ member)

end Places

/-- The path that names the steps to a place leads there.  And a path whose numerals can be
converted leads where its segments lead, one after the other, or to null if they lead nowhere. -/
theorem lookup_leads :
    (∀ value places target, LeadsTo value places target → places ≠ [] →
      (∀ position, .item position ∈ places → (Nat.repr position).length ≤ digitLimit) →
      lookup value (".".intercalate (places.map Place.spelling)) = .ok target) ∧
    ∀ value path, (∀ segment ∈ segments path, IsShort segment) →
      (∀ target, Reaches value (segments path) target → lookup value path = .ok target) ∧
      ((∀ target, ¬ Reaches value (segments path) target) → lookup value path = .ok .null) := by
  constructor
  · intro value places target leads nonempty short
    unfold lookup
    rw [segments_spelling nonempty]
    exact follow_of_leadsTo leads short
  · intro value path short
    exact ⟨fun target reaches => follow_of_reaches reaches short,
      fun lost => follow_of_not_reaches lost short⟩

/-- A field with a dot and a backslash in its name and an item of the list there; behind the end of
the list there is nothing. -/
theorem lookup_leads_escaped :
    let value : Value := .object [("", .null), ("a.\\b", .list [.null, .text "x"])]
    let places : List Place := [.field "a.\\b", .item 1]
    LeadsTo value places (.text "x") ∧
      lookup value (".".intercalate (places.map Place.spelling)) = .ok (.text "x") ∧
      (∀ target, ¬ Reaches value (segments "a\\.\\\\b.02.c") target) ∧
      lookup value "a\\.\\\\b.02.c" = .ok .null := by
  intro value places
  have leads : LeadsTo value places (.text "x") := .field rfl (.item rfl (.here _))
  have lost : ∀ target, ¬ Reaches value (segments "a\\.\\\\b.02.c") target := by
    intro target reaches
    have parts : segments "a\\.\\\\b.02.c" = ["a.\\b", "02", "c"] := by decide
    rw [parts] at reaches
    dsimp only [value] at reaches
    cases reaches with
    | field found further =>
      cases found
      cases further with
      | item numeral found _ =>
        obtain rfl := numeral.value
        cases found
  obtain ⟨leading, reaching⟩ := lookup_leads
  refine ⟨leads, leading value places _ leads (by simp [places]) ?_, lost, ?_⟩
  · intro position member
    obtain rfl : position = 1 := by simpa [places] using member
    decide
  · refine (reaching value _ ?_).2 lost
    intro segment member _
    have parts : segments "a\\.\\\\b.02.c" = ["a.\\b", "02", "c"] := by decide
    have lengths : ∀ part ∈ ["a.\\b", "02", "c"], part.length ≤ digitLimit := by decide
    exact lengths segment (parts ▸ member)

end TypedRecords.Path
