import TypedRecords.Json.Printer
import TypedRecords.Proofs.Numeric.NumberText
import TypedRecords.Proofs.Text.Characters
import TypedRecords.Proofs.Value.Within

/-!
The characters of JSON text.  Numbers are written in digits, signs and a few letters, and within
texts what is for control is escaped, so that no escape character comes of any value.  The text of a
moment is written in the basic character set.
-/

set_option autoImplicit false

namespace TypedRecords

open TypedRecords.Text

section Ascii

open TypedRecords.Calendar (Date Moment TimeOfDay)
open TypedRecords.Numeric (padded plainDigits_padded)

private theorem isAscii_of_isDigit {c : Char} (digit : c.isDigit = true) : isAscii c = true := by
  have bounds : 48 ≤ c.toNat ∧ c.toNat ≤ 57 := by
    simpa [Char.isDigit, UInt32.le_iff_toNat_le] using digit
  exact decide_eq_true (by omega)

private theorem padded_ascii (width n : Nat) : Consists isAscii (padded width n) :=
  fun c member => isAscii_of_isDigit ((plainDigits_padded width n).digits c member)

private theorem offsetText_ascii (offset : Int) : Consists isAscii (Moment.offsetText offset) := by
  have sign : Consists isAscii (if offset < 0 then "-" else "+") := .ite (by decide) (by decide)
  have colon : Consists isAscii ":" := by decide
  have seconds : Consists isAscii (if offset.natAbs % 60 = 0 then ""
      else ":" ++ padded 2 (offset.natAbs % 60)) :=
    .ite (by decide) (consists_append.mpr ⟨colon, padded_ascii 2 _⟩)
  unfold Moment.offsetText
  simp only [consists_append]
  exact ⟨⟨⟨⟨sign, padded_ascii 2 _⟩, colon⟩, padded_ascii 2 _⟩, seconds⟩

private theorem timeText_ascii (t : TimeOfDay) : Consists isAscii t.isoText := by
  have colon : Consists isAscii ":" := by decide
  have fraction : Consists isAscii
      (if t.microsecond = 0 then "" else "." ++ padded 6 t.microsecond) :=
    .ite (by decide) (consists_append.mpr ⟨by decide, padded_ascii 6 _⟩)
  simp only [TimeOfDay.isoText, consists_append]
  exact ⟨⟨⟨⟨⟨padded_ascii 2 _, colon⟩, padded_ascii 2 _⟩, colon⟩, padded_ascii 2 _⟩, fraction⟩

theorem Calendar.Moment.isoText_ascii (m : Moment) : Consists isAscii (m.isoText "T") := by
  have dash : Consists isAscii "-" := by decide
  have day : Consists isAscii m.date.isoText := by simp [Date.isoText, dash, padded_ascii]
  simp only [Moment.isoText, consists_append]
  refine ⟨⟨⟨day, by decide⟩, timeText_ascii m.time⟩, ?_⟩
  cases m.offset with
  | none => exact (by decide : Consists isAscii "")
  | some offset => exact offsetText_ascii offset

end Ascii

namespace Json

private theorem hexText_plain : ∀ n < 0x20,
    Consists isAscii (hexText 4 n) ∧ Consists isUnescaped (hexText 4 n) := by
  decide

private theorem escapeChar_unescaped (c : Char) : Consists isUnescaped (escapeChar c) := by
  unfold escapeChar
  split_ifs with quote backslash feed back tab backspace form control
  all_goals try decide
  · exact consists_append.mpr ⟨by decide, (hexText_plain _ control).2⟩
  · intro d member
    obtain rfl := List.mem_singleton.mp (by simpa using member)
    refine bne_iff_ne.mpr ?_
    rintro rfl
    exact control (by decide)

private theorem escapeChar_ascii {c : Char} (ascii : isAscii c = true) :
    Consists isAscii (escapeChar c) := by
  unfold escapeChar
  split_ifs with quote backslash feed back tab backspace form control
  all_goals try decide
  · exact consists_append.mpr ⟨by decide, (hexText_plain _ control).1⟩
  · simpa [Consists] using ascii

private theorem textLiteral_unescaped (s : String) : Consists isUnescaped (textLiteral s) := by
  have inside : Consists isUnescaped (String.join (s.toList.map escapeChar)) :=
    .join (List.forall_mem_map.mpr fun c _ => escapeChar_unescaped c)
  have mark : Consists isUnescaped "\"" := by decide
  simp [textLiteral, inside, mark]

theorem textLiteral_ascii {s : String} (ascii : Consists isAscii s) :
    Consists isAscii (textLiteral s) := by
  have inside : Consists isAscii (String.join (s.toList.map escapeChar)) :=
    .join (List.forall_mem_map.mpr fun c member => escapeChar_ascii (ascii c member))
  have mark : Consists isAscii "\"" := by decide
  simp [textLiteral, inside, mark]

private theorem block_unescaped {level : Nat} {opening closing : String} {parts : List String}
    (opens : Consists isUnescaped opening) (closes : Consists isUnescaped closing)
    (all : ∀ part ∈ parts, Consists isUnescaped part) :
    Consists isUnescaped (block level opening closing parts) := by
  have start (level : Nat) : Consists isUnescaped (lineStart level) := by
    have blanks : ∀ c ∈ List.replicate (2 * level) ' ', isUnescaped c = true := by
      intro c member
      rw [List.eq_of_mem_replicate member]
      rfl
    exact consists_append.mpr ⟨by decide, consists_ofList.mpr blanks⟩
  have comma : Consists isUnescaped "," := by decide
  cases parts with
  | nil => simp [block, opens, closes]
  | cons part rest =>
    have inside : Consists isUnescaped
        (("," ++ lineStart (level + 1)).intercalate (part :: rest)) :=
      .intercalate (consists_append.mpr ⟨comma, start _⟩) all
    simp [block, opens, closes, start, inside]

private theorem isUnescaped_of_numeral {x : Numeric.Double} {text : String}
    (numeral : Numeric.Numeral x text.toList) : Consists isUnescaped text := by
  intro c member
  have own := numeral.isChar_of_mem c member
  refine bne_iff_ne.mpr ?_
  rintro rfl
  exact absurd own (by decide +kernel)

private theorem numberText_unescaped (x : Numeric.Double) :
    Consists isUnescaped (Value.numberText x) := by
  cases x with
  | nan => decide
  | infinite negative => cases negative <;> decide
  | finite negative mantissa exponent =>
    obtain ⟨x, numeral⟩ := Numeric.exists_numeral_text Value.layout negative mantissa exponent
    exact isUnescaped_of_numeral numeral

private theorem mem_writeItems {level : Nat} {items : List Value} {part : String}
    (member : part ∈ writeItems level items) : ∃ item ∈ items, part = writeValue level item := by
  induction items with
  | nil => cases member
  | cons item rest ih =>
    rcases List.mem_cons.mp member with rfl | later
    · exact ⟨item, by simp, rfl⟩
    · obtain ⟨other, origin, same⟩ := ih later
      exact ⟨other, by simp [origin], same⟩

private theorem mem_writeFields {level : Nat} {fields : Fields} {part : String}
    (member : part ∈ writeFields level fields) :
    ∃ field ∈ fields, part = textLiteral field.1 ++ ": " ++ writeValue level field.2 := by
  induction fields with
  | nil => cases member
  | cons field rest ih =>
    rcases List.mem_cons.mp member with rfl | later
    · exact ⟨field, by simp, rfl⟩
    · obtain ⟨other, origin, same⟩ := ih later
      exact ⟨other, by simp [origin], same⟩

private theorem writeValue_unescaped (value : Value) (level : Nat) :
    Consists isUnescaped (writeValue level value) := by
  induction value using Value.induction generalizing level with
  | leaf value leaf =>
    cases leaf with
    | null => exact (by decide : Consists isUnescaped "null")
    | bool b => exact .ite (by decide) (by decide)
    | int n =>
      obtain ⟨x, numeral⟩ := Numeric.exists_numeral_integerText n
      exact isUnescaped_of_numeral numeral
    | float x => exact numberText_unescaped x
    | _ => exact textLiteral_unescaped _
  | list items ih =>
    refine block_unescaped (by decide) (by decide) fun part member => ?_
    obtain ⟨item, origin, rfl⟩ := mem_writeItems member
    exact ih item origin _
  | object fields ih =>
    refine block_unescaped (by decide) (by decide) fun part member => ?_
    obtain ⟨field, origin, rfl⟩ := mem_writeFields member
    have between : Consists isUnescaped ": " := by decide
    simp [textLiteral_unescaped, between, ih field origin]

theorem write_unescaped (value : Value) : Consists isUnescaped (write value) :=
  writeValue_unescaped value 0

end Json

end TypedRecords
