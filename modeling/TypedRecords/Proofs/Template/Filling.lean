import Mathlib.Data.List.Forall2
import TypedRecords.Proofs.Numeric.Whole
import TypedRecords.Proofs.Template.Tokens
import TypedRecords.Template.Format

/-!
What a filled template says: the texts of its tokens, one behind the other.  The text of a
placeholder is that of its value, whatever characters are in it, and is not divided again.
-/

set_option autoImplicit false

namespace TypedRecords.Template

/-- The value of a name: that of the call, unless it is null or the empty text, and else that of the
device, unless it is null. -/
inductive Resolves (device : Fields) (call : Option Fields) (name : String) : Value → Prop
  | call {fields : Fields} {value : Value} :
      call = some fields → Fields.get? fields name = some value →
      value ≠ .null → value ≠ .text "" → Resolves device call name value
  | device {value : Value} :
      (∀ fields given, call = some fields → Fields.get? fields name = some given →
        given = .null ∨ given = .text "") →
      Fields.get? device name = some value → value ≠ .null → Resolves device call name value

/-- The text of a value: truth values in small letters, numbers without fraction as integers, and
all others in their plain form. -/
inductive Writes : Value → String → Prop
  | yes : Writes (.bool true) "true"
  | no : Writes (.bool false) "false"
  | whole {x : Numeric.Double} {n : Int} :
      x.IsWhole n → Writes (.float x) (Value.integerText n)
  | fraction {x : Numeric.Double} :
      (∀ n, ¬ x.IsWhole n) → Writes (.float x) (Value.float x).plain
  | plain {value : Value} :
      (∀ b, value ≠ .bool b) → (∀ x, value ≠ .float x) → Writes value value.plain

/-- The text of a token.  A placeholder without a value stays as it was written, or is left out. -/
inductive Fills (policy : MissingPolicy) (device : Fields) (call : Option Fields) :
    Token → String → Prop
  | dollar : Fills policy device call .dollar "$"
  | char (c : Char) : Fills policy device call (.char c) (String.singleton c)
  | resolved {name : String} {value : Value} {text : String} (braced : Bool) :
      Resolves device call name value → Writes value text →
      Fills policy device call (.placeholder name braced) text
  | kept {name : String} (braced : Bool) :
      (∀ value, ¬ Resolves device call name value) → policy = .keep →
      Fills policy device call (.placeholder name braced)
        (String.ofList (Token.placeholder name braced).source)
  | dropped {name : String} (braced : Bool) :
      (∀ value, ¬ Resolves device call name value) → policy = .empty →
      Fills policy device call (.placeholder name braced) ""

section Token

variable {device : Fields} {call : Option Fields} {name : String}

private theorem isGiven_iff {value : Value} :
    isGiven value = true ↔ value ≠ .null ∧ value ≠ .text "" := by
  cases value <;> simp [isGiven]

private theorem given?_eq_some_iff {value : Value} :
    (call.bind fun fields => Fields.get? fields name).filter isGiven = some value ↔
      ∃ fields, call = some fields ∧ Fields.get? fields name = some value ∧
        value ≠ .null ∧ value ≠ .text "" := by
  simp only [Option.filter_eq_some_iff, Option.bind_eq_some_iff, isGiven_iff]
  constructor
  · rintro ⟨⟨fields, given, found⟩, usable⟩
    exact ⟨fields, given, found, usable⟩
  · rintro ⟨fields, given, found, usable⟩
    exact ⟨⟨fields, given, found⟩, usable⟩

theorem resolves_iff {value : Value} :
    Resolves device call name value ↔ resolve device call name = value ∧ value ≠ .null := by
  unfold resolve
  cases given : (call.bind fun fields => Fields.get? fields name).filter isGiven with
  | some own =>
    obtain ⟨fields, same, found, present, filled⟩ := given?_eq_some_iff.mp given
    constructor
    · rintro (⟨other, found', -, -⟩ | ⟨unused, -, -⟩)
      · obtain rfl := Option.some.inj (same.symm.trans other)
        obtain rfl := Option.some.inj (found.symm.trans found')
        exact ⟨rfl, present⟩
      · rcases unused fields own same found with null | empty
        · exact absurd null present
        · exact absurd empty filled
    · rintro ⟨rfl, -⟩
      exact .call same found present filled
  | none =>
    have unused : ∀ fields value, call = some fields → Fields.get? fields name = some value →
        value = .null ∨ value = .text "" := by
      intro fields value same found
      by_contra neither
      obtain ⟨present, filled⟩ := not_or.mp neither
      have some := given?_eq_some_iff.mpr ⟨fields, same, found, present, filled⟩
      rw [given] at some
      cases some
    constructor
    · rintro (⟨same, found, present, filled⟩ | ⟨-, found, present⟩)
      · rcases unused _ _ same found with null | empty
        · exact absurd null present
        · exact absurd empty filled
      · exact ⟨by simp [found], present⟩
    · rintro ⟨same, present⟩
      cases found : Fields.get? device name with
      | none => exact absurd (by simpa [found] using same.symm) present
      | some own =>
        obtain rfl : own = value := by simpa [found] using same
        exact .device unused found present

private theorem writes_iff {value : Value} {text : String} :
    Writes value text ↔ textOf value = text := by
  constructor
  · rintro (_ | _ | whole | fraction | ⟨notBool, notFloat⟩)
    · rfl
    · rfl
    · simp only [textOf, Numeric.Double.integer?_eq_some_iff.mpr whole]
    · rename_i x
      cases found : x.integer? with
      | none => simp only [textOf, found]
      | some n => exact absurd (Numeric.Double.integer?_eq_some_iff.mp found) (fraction n)
    · cases value with
      | bool b => exact absurd rfl (notBool b)
      | float x => exact absurd rfl (notFloat x)
      | _ => rfl
  · rintro rfl
    cases value with
    | bool b =>
      cases b with
      | true => exact .yes
      | false => exact .no
    | float x =>
      cases found : x.integer? with
      | none =>
        simp only [textOf, found]
        refine .fraction fun n whole => ?_
        rw [Numeric.Double.integer?_eq_some_iff.mpr whole] at found
        cases found
      | some n =>
        simp only [textOf, found]
        exact .whole (Numeric.Double.integer?_eq_some_iff.mp found)
    | _ => exact .plain (by simp) (by simp)

private theorem fill_of_ne_null (policy : MissingPolicy) {value : Value} (present : value ≠ .null)
    (token : Token) : fill policy value token = textOf value := by
  cases value with
  | null => exact absurd rfl present
  | _ => rfl

private theorem fills_iff {policy : MissingPolicy} {token : Token} {text : String} :
    Fills policy device call token text ↔ formatToken policy device call token = text := by
  constructor
  · rintro (_ | _ | ⟨braced, resolves, writes⟩ | ⟨braced, none, rfl⟩ | ⟨braced, none, rfl⟩)
    · rfl
    · rfl
    · obtain ⟨found, present⟩ := resolves_iff.mp resolves
      rw [formatToken, found, fill_of_ne_null policy present]
      exact writes_iff.mp writes
    all_goals
      rename_i name
      have null : resolve device call name = .null :=
        Classical.byContradiction fun present => none _ (resolves_iff.mpr ⟨rfl, present⟩)
      rw [formatToken, null]
      rfl
  · rintro rfl
    cases token with
    | dollar => exact .dollar
    | char c => exact .char c
    | placeholder name braced =>
      by_cases null : resolve device call name = .null
      · have none : ∀ value, ¬ Resolves device call name value := by
          intro value resolves
          obtain ⟨found, present⟩ := resolves_iff.mp resolves
          exact present (found.symm.trans null)
        rw [formatToken, null]
        cases policy with
        | keep => exact .kept braced none rfl
        | empty => exact .dropped braced none rfl
      · rw [formatToken, fill_of_ne_null policy null]
        exact .resolved braced (resolves_iff.mpr ⟨rfl, null⟩) (writes_iff.mpr rfl)

end Token

theorem forall₂_fills_iff {policy : MissingPolicy} {device : Fields} {call : Option Fields}
    {tokens : List Token} {texts : List String} :
    List.Forall₂ (Fills policy device call) tokens texts ↔
      tokens.map (formatToken policy device call) = texts := by
  have same : Fills policy device call =
      fun token text => formatToken policy device call token = text := by
    funext token text
    exact propext fills_iff
  rw [same, ← List.forall₂_map_left_iff, List.forall₂_eq_eq_eq]

/-- A template is divided into tokens in exactly one way, and filling it puts the texts of the
tokens together, and nothing else. -/
theorem format_eq_iff (policy : MissingPolicy) (template : String) (device : Fields)
    (call : Option Fields) :
    ∃ tokens, Divides template.toList tokens ∧
      tokens.flatMap Token.source = template.toList ∧
      (∀ others, Divides template.toList others → others = tokens) ∧
      ∀ text, format policy template device call = text ↔
        ∃ texts, List.Forall₂ (Fills policy device call) tokens texts ∧
          text = String.join texts := by
  have divided : Divides template.toList (tokens template) := divides_iff.mpr rfl
  refine ⟨tokens template, divided, divided.source, fun others => divides_iff.mp, fun text => ?_⟩
  constructor
  · rintro rfl
    exact ⟨_, forall₂_fills_iff.mpr rfl, rfl⟩
  · rintro ⟨texts, fills, rfl⟩
    rw [← forall₂_fills_iff.mp fills]
    rfl

/-- What is filled in is not looked at again, and a brace that is not closed says nothing. -/
example :
    format .keep "$$$\x7ba\x7d$\x7b$b"
        [("a", .text "$b$$"), ("b", .float (.finite false 4 0))] none =
      "$$b$$$\x7b4" := by
  decide

end TypedRecords.Template
