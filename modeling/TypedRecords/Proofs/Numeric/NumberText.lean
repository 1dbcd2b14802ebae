import TypedRecords.Proofs.Numeric.Numeral
import TypedRecords.Proofs.Text.Digits
import TypedRecords.Value.Printer

/-!
The written form of integers and of finite numbers is a numeral, in plain notation and with an
exponent.  It is so for every layout and for all digits, the shortest ones among them.
-/

set_option autoImplicit false

namespace TypedRecords.Numeric

open TypedRecords.Numeric.Numeral
open TypedRecords.Text (digitValue?_of_isDigit isDigit_of_mem_repr toList_repr_ne_nil)

structure PlainDigits (cs : List Char) : Prop where
  nonempty : cs ≠ []
  digits : ∀ c ∈ cs, c.isDigit = true

inductive Unsigned : List Char → Prop
  | intro {whole fraction : List Nat} {power : Int} {mantissa exponent : List Char} :
      Mantissa whole fraction mantissa → Exponent power exponent → Unsigned (mantissa ++ exponent)

section Parts

variable {cs front back : List Char}

private theorem plainDigits_repr (n : Nat) : PlainDigits (Nat.repr n).toList :=
  ⟨toList_repr_ne_nil n, isDigit_of_mem_repr n⟩

private theorem isDigit_replicate_zero (count : Nat) :
    ∀ c ∈ List.replicate count '0', c.isDigit = true := by
  intro c member
  rw [List.eq_of_mem_replicate member]
  rfl

theorem plainDigits_padded (width n : Nat) : PlainDigits (padded width n).toList := by
  have chars : (padded width n).toList =
      List.replicate (width - (Nat.repr n).length) '0' ++ (Nat.repr n).toList := by
    simp [padded]
  rw [chars]
  exact ⟨List.append_ne_nil_of_right_ne_nil _ (toList_repr_ne_nil n),
    List.forall_mem_append.mpr ⟨isDigit_replicate_zero _, isDigit_of_mem_repr n⟩⟩

private theorem exists_digits_of_isDigit (plain : ∀ c ∈ cs, c.isDigit = true) :
    ∃ digits, Digits digits cs := by
  refine ⟨cs.map fun c => c.toNat - '0'.toNat, ?_⟩
  rw [Digits, List.forall₂_map_right_iff]
  exact List.forall₂_same.mpr fun c member => digitValue?_of_isDigit (plain c member)

theorem PlainDigits.exists_digits (plain : PlainDigits cs) :
    ∃ digits, digits ≠ [] ∧ Digits digits cs := by
  obtain ⟨digits, writes⟩ := exists_digits_of_isDigit plain.digits
  refine ⟨digits, ?_, writes⟩
  rintro rfl
  cases writes
  exact plain.nonempty rfl

theorem PlainDigits.exists_mantissa (plain : PlainDigits cs) :
    ∃ whole fraction, Mantissa whole fraction cs := by
  obtain ⟨digits, nonempty, writes⟩ := plain.exists_digits
  exact ⟨digits, [], .whole nonempty writes⟩

private theorem exists_mantissa_of_point (plain : PlainDigits front)
    (behind : ∀ c ∈ back, c.isDigit = true) :
    ∃ whole fraction, Mantissa whole fraction (front ++ '.' :: back) := by
  obtain ⟨whole, nonempty, before⟩ := plain.exists_digits
  obtain ⟨fraction, after⟩ := exists_digits_of_isDigit behind
  exact ⟨whole, fraction, .pointed nonempty before after⟩

private theorem unsigned_of_point (plain : PlainDigits front)
    (behind : ∀ c ∈ back, c.isDigit = true) :
    Unsigned (front ++ '.' :: back) := by
  obtain ⟨whole, fraction, writes⟩ := exists_mantissa_of_point plain behind
  rw [← List.append_nil (front ++ '.' :: back)]
  exact .intro writes .absent

private theorem unsigned_repr (n : Nat) : Unsigned (Nat.repr n).toList := by
  obtain ⟨whole, fraction, writes⟩ := (plainDigits_repr n).exists_mantissa
  rw [← List.append_nil (Nat.repr n).toList]
  exact .intro writes .absent

theorem Unsigned.exists_numeral (unsigned : Unsigned cs) {negative : Bool} {sign : List Char}
    (signed : Sign negative sign) : ∃ x, Numeral x (sign ++ cs) := by
  cases unsigned with
  | intro writes scaled => exact ⟨_, .decimal signed writes scaled⟩

private theorem exists_numeral_of_minus {text : String} (unsigned : Unsigned text.toList)
    (negative : Prop) [Decidable negative] :
    ∃ x, Numeral x ((if negative then "-" else "") ++ text).toList := by
  rw [String.toList_append]
  split
  · exact unsigned.exists_numeral .minus
  · exact unsigned.exists_numeral .absent

end Parts

section Layout

variable {digits : List Char} (plain : PlainDigits digits)

include plain

private theorem unsigned_plainText (point : Int) : Unsigned (plainText digits point).toList := by
  unfold plainText
  split
  · have chars : ("0." ++ String.ofList (List.replicate (-point).toNat '0' ++ digits)).toList =
        ['0'] ++ '.' :: (List.replicate (-point).toNat '0' ++ digits) := by
      simp
    rw [chars]
    exact unsigned_of_point ⟨List.cons_ne_nil _ _, List.forall_mem_singleton.mpr rfl⟩
      (List.forall_mem_append.mpr ⟨isDigit_replicate_zero _, plain.digits⟩)
  · rename_i positive
    have first : digits.take point.toNat ≠ [] := by
      rw [ne_eq, List.take_eq_nil_iff]
      rintro (none | empty)
      · omega
      · exact plain.nonempty empty
    have front : PlainDigits (digits.take point.toNat ++
        List.replicate (point.toNat - digits.length) '0') := by
      refine ⟨List.append_ne_nil_of_left_ne_nil first _, List.forall_mem_append.mpr ⟨?_, ?_⟩⟩
      · exact fun c member => plain.digits c (List.mem_of_mem_take member)
      · exact isDigit_replicate_zero _
    have back : ∀ c ∈ digits.drop point.toNat, c.isDigit = true :=
      fun c member => plain.digits c (List.mem_of_mem_drop member)
    have zero : ∀ c ∈ ['0'], c.isDigit = true := List.forall_mem_singleton.mpr rfl
    dsimp only
    split
    · have chars := unsigned_of_point front zero
      simpa using chars
    · have chars := unsigned_of_point front back
      simpa using chars

private theorem unsigned_scaledText (layout : DoubleLayout) (power : Int) :
    Unsigned (scaledText layout digits power).toList := by
  obtain ⟨lead, rest, rfl⟩ := List.exists_cons_of_ne_nil plain.nonempty
  obtain ⟨head, tail⟩ := List.forall_mem_cons.mp plain.digits
  have first : PlainDigits [lead] := ⟨List.cons_ne_nil _ _, by simpa using head⟩
  obtain ⟨whole, fraction, writes⟩ : ∃ whole fraction, Mantissa whole fraction
      (lead :: (if rest.isEmpty then "" else "." ++ String.ofList rest).toList) := by
    cases rest with
    | nil => simpa using first.exists_mantissa
    | cons c rest => simpa using exists_mantissa_of_point first tail
  obtain ⟨exponent, nonempty, digits⟩ :=
    (plainDigits_padded layout.exponentWidth power.natAbs).exists_digits
  have chars : (scaledText layout (lead :: rest) power).toList =
      lead :: (if rest.isEmpty then "" else "." ++ String.ofList rest).toList ++
        'e' :: ((if power < 0 then "-" else "+").toList ++
          (padded layout.exponentWidth power.natAbs).toList) := by
    simp [scaledText]
  rw [chars]
  by_cases negative : power < 0
  · rw [if_pos negative]
    exact .intro writes (.present (Or.inl rfl) .minus nonempty digits)
  · rw [if_neg negative]
    exact .intro writes (.present (Or.inl rfl) .plus nonempty digits)

end Layout

theorem exists_numeral_text (layout : DoubleLayout) (negative : Bool) (mantissa : Nat)
    (exponent : Int) :
    ∃ x, Numeral x ((Double.finite negative mantissa exponent).text layout).toList := by
  have plain := plainDigits_repr (Shortest.decimal mantissa exponent).digits
  have zero : Unsigned "0.0".toList := by
    have digit : PlainDigits ['0'] := ⟨List.cons_ne_nil _ _, List.forall_mem_singleton.mpr rfl⟩
    exact unsigned_of_point digit digit.digits
  unfold Double.text
  dsimp only
  split
  · exact exists_numeral_of_minus zero _
  · split
    · exact exists_numeral_of_minus (unsigned_plainText plain _) _
    · exact exists_numeral_of_minus (unsigned_scaledText plain _ _) _

theorem exists_numeral_integerText (n : Int) : ∃ x, Numeral x (Value.integerText n).toList :=
  exists_numeral_of_minus (unsigned_repr n.natAbs) (n < 0)

end TypedRecords.Numeric
