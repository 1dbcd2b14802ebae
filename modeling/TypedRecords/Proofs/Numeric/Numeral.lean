import Mathlib.Data.List.Forall2
import TypedRecords.Numeric.LeadingNumber
import TypedRecords.Proofs.Numeric.Whole
import TypedRecords.Proofs.Text.Classes
import TypedRecords.Proofs.Text.Runs

/-!
How numbers are written: an optional sign, then the word for infinity, or digits of any script with
a point among or around them and perhaps an exponent.  What is read at the front of a text is the
longest numeral that stands there, so a numeral stands for one number only.
-/

set_option autoImplicit false

namespace TypedRecords.Numeric

open TypedRecords.Text (digitValue? isBlank isDecimalDigit isDecimalDigit_of_isBlank Leaves
  leaves_cons leaves_nil)

namespace Numeral

inductive Sign : Bool → List Char → Prop
  | absent : Sign false []
  | plus : Sign false ['+']
  | minus : Sign true ['-']

def Digits (digits : List Nat) (cs : List Char) : Prop :=
  List.Forall₂ (fun c d => digitValue? c = some d) cs digits

/-- Digits before and behind a point, by their values: without a point, with digits before it and
perhaps behind it, or with digits behind it alone. -/
inductive Mantissa : List Nat → List Nat → List Char → Prop
  | whole {digits : List Nat} {cs : List Char} :
      digits ≠ [] → Digits digits cs → Mantissa digits [] cs
  | pointed {whole fraction : List Nat} {front back : List Char} :
      whole ≠ [] → Digits whole front → Digits fraction back →
        Mantissa whole fraction (front ++ '.' :: back)
  | fraction {digits : List Nat} {cs : List Char} :
      digits ≠ [] → Digits digits cs → Mantissa [] digits ('.' :: cs)

inductive Exponent : Int → List Char → Prop
  | absent : Exponent 0 []
  | present {mark : Char} {negative : Bool} {sign cs : List Char} {digits : List Nat} :
      mark = 'e' ∨ mark = 'E' → Sign negative sign → digits ≠ [] → Digits digits cs →
        Exponent (Double.signed negative (LeadingNumber.natural digits)) (mark :: (sign ++ cs))

end Numeral

/-- The characters write a number: an infinite one by its word, or the one nearest to the decimal
that the digits and the exponent make. -/
inductive Numeral : Double → List Char → Prop
  | infinity {negative : Bool} {sign : List Char} :
      Numeral.Sign negative sign → Numeral (.infinite negative) (sign ++ "Infinity".toList)
  | decimal {negative : Bool} {whole fraction : List Nat} {power : Int}
      {sign mantissa exponent : List Char} :
      Numeral.Sign negative sign → Numeral.Mantissa whole fraction mantissa →
        Numeral.Exponent power exponent →
          Numeral (.ofDecimal negative (LeadingNumber.natural (whole ++ fraction))
            (power - fraction.length)) (sign ++ (mantissa ++ exponent))

namespace Numeral

def isChar (c : Char) : Bool :=
  isDecimalDigit c || "+-.eEInfinity".toList.contains c

section Chars

variable {c : Char}

private theorem isChar_of_digit (digit : isDecimalDigit c = true) : isChar c = true :=
  Bool.or_eq_true_iff.mpr (Or.inl digit)

theorem Digits.isChar {digits : List Nat} {cs : List Char} (writes : Digits digits cs) :
    ∀ c ∈ cs, isChar c = true := by
  induction writes with
  | nil => simp
  | cons first _ ih =>
    have digit : isDecimalDigit _ = true := Option.isSome_of_eq_some first
    exact List.forall_mem_cons.mpr ⟨isChar_of_digit digit, ih⟩

theorem Sign.isChar {negative : Bool} {cs : List Char} (writes : Sign negative cs) :
    ∀ c ∈ cs, isChar c = true := by
  cases writes <;> exact List.all_eq_true.mp (by decide)

theorem Mantissa.isChar {whole fraction : List Nat} {cs : List Char}
    (writes : Mantissa whole fraction cs) : ∀ c ∈ cs, isChar c = true := by
  have point : Numeral.isChar '.' = true := by decide
  cases writes with
  | whole _ writes => exact writes.isChar
  | pointed _ before behind =>
    exact List.forall_mem_append.mpr
      ⟨before.isChar, List.forall_mem_cons.mpr ⟨point, behind.isChar⟩⟩
  | fraction _ writes => exact List.forall_mem_cons.mpr ⟨point, writes.isChar⟩

theorem Exponent.isChar {power : Int} {cs : List Char} (writes : Exponent power cs) :
    ∀ c ∈ cs, isChar c = true := by
  cases writes with
  | absent => simp
  | present marks signed _ digits =>
    refine List.forall_mem_cons.mpr ⟨?_, List.forall_mem_append.mpr ⟨signed.isChar, digits.isChar⟩⟩
    rcases marks with rfl | rfl <;> decide

/-- A numeral consists of digits, signs, points, marks of exponents and the letters of infinity. -/
theorem isChar_of_mem {x : Double} {cs : List Char} (writes : Numeral x cs) :
    ∀ c ∈ cs, isChar c = true := by
  cases writes with
  | infinity signed =>
    exact List.forall_mem_append.mpr ⟨signed.isChar, List.all_eq_true.mp (by decide)⟩
  | decimal signed digits scaled =>
    exact List.forall_mem_append.mpr
      ⟨signed.isChar, List.forall_mem_append.mpr ⟨digits.isChar, scaled.isChar⟩⟩

theorem not_isBlank_of_isChar (inside : isChar c = true) : isBlank c = false := by
  refine Bool.eq_false_iff.mpr fun blank => ?_
  have table : ("+-.eEInfinity".toList.all fun mark => !isBlank mark) = true := by decide
  rcases Bool.or_eq_true_iff.mp inside with digit | mark
  · rw [isDecimalDigit_of_isBlank blank] at digit
    cases digit
  · have outside := List.all_eq_true.mp table c (List.contains_iff_mem.mp mark)
    rw [blank] at outside
    cases outside

end Chars

end Numeral

namespace LeadingNumber

open TypedRecords.Numeric.Numeral

def isSign (c : Char) : Bool :=
  c == '+' || c == '-'

def isMantissaChar (c : Char) : Bool :=
  isDecimalDigit c || c == '.'

section Parts

private theorem isDecimalDigit_of_digitValue? {c : Char} {d : Nat}
    (digit : digitValue? c = some d) :
    isDecimalDigit c = true := by
  rw [isDecimalDigit, digit]
  rfl

private theorem isMantissaChar_of_digitValue? {c : Char} {d : Nat}
    (digit : digitValue? c = some d) :
    isMantissaChar c = true :=
  Bool.or_eq_true_iff.mpr (Or.inl (isDecimalDigit_of_digitValue? digit))

private theorem isSign_of_isMantissaChar {c : Char} (inside : isMantissaChar c = true) :
    isSign c = false := by
  refine Bool.eq_false_iff.mpr fun sign => ?_
  rcases Bool.or_eq_true_iff.mp sign with plus | minus
  · rw [eq_of_beq plus] at inside
    cases inside
  · rw [eq_of_beq minus] at inside
    cases inside

theorem Digits.nonempty {d : Nat} {digits : List Nat} {cs : List Char}
    (writes : Digits (d :: digits) cs) : ∃ c rest, cs = c :: rest ∧ digitValue? c = some d := by
  cases writes with
  | cons first _ => exact ⟨_, _, rfl, first⟩

theorem splitSign_append {negative : Bool} {sign rest : List Char} (writes : Sign negative sign)
    (ends : Leaves isSign rest) : splitSign (sign ++ rest) = (negative, rest) := by
  cases writes with
  | plus => rfl
  | minus => rfl
  | absent =>
    rw [List.nil_append]
    unfold splitSign
    split
    · cases ends _ _ rfl
    · cases ends _ _ rfl
    · rfl

theorem exists_sign (cs : List Char) :
    ∃ sign, cs = sign ++ (splitSign cs).2 ∧ Sign (splitSign cs).1 sign := by
  unfold splitSign
  split
  · exact ⟨['-'], rfl, .minus⟩
  · exact ⟨['+'], rfl, .plus⟩
  · exact ⟨[], rfl, .absent⟩

private theorem splitDigits_append {digits : List Nat} {cs : List Char} (writes : Digits digits cs)
    (rest : List Char) :
    splitDigits (cs ++ rest) = (digits ++ (splitDigits rest).1, (splitDigits rest).2) := by
  induction writes with
  | nil => rfl
  | cons first _ ih => simp [splitDigits, first, ih]

private theorem splitDigits_of_leaves {cs : List Char} (ends : Leaves isDecimalDigit cs) :
    splitDigits cs = ([], cs) := by
  cases cs with
  | nil => rfl
  | cons c rest =>
    have outside := ends c rest rfl
    rw [isDecimalDigit, Option.isSome_eq_false_iff, Option.isNone_iff_eq_none] at outside
    simp [splitDigits, outside]

theorem exists_digits (cs : List Char) :
    ∃ front, cs = front ++ (splitDigits cs).2 ∧ Digits (splitDigits cs).1 front := by
  induction cs with
  | nil => exact ⟨[], rfl, .nil⟩
  | cons c rest ih =>
    cases digit : digitValue? c with
    | none => exact ⟨[], by simp [splitDigits, digit], by simp [splitDigits, digit, Digits]⟩
    | some d =>
      obtain ⟨front, same, writes⟩ := ih
      simp only [splitDigits, digit]
      exact ⟨c :: front, congrArg (c :: ·) same, .cons digit writes⟩

private theorem splitDigits_cases (cs : List Char) :
    splitDigits cs = ([], cs) ∨
      ∃ d digits behind, splitDigits cs = (d :: digits, behind) ∧ behind.length < cs.length ∧
        ¬ Leaves isDecimalDigit cs := by
  obtain ⟨front, same, writes⟩ := exists_digits cs
  rcases split : splitDigits cs with ⟨_ | ⟨d, digits⟩, behind⟩
  · rw [split] at same writes
    cases writes
    exact Or.inl (by rw [same]; rfl)
  · rw [split] at same writes
    obtain ⟨c, rest, rfl, digit⟩ := Digits.nonempty writes
    refine Or.inr ⟨d, digits, behind, rfl, ?_, fun ends => ?_⟩
    · rw [same, List.length_append, List.length_cons]
      dsimp only
      omega
    · have outside := ends c (rest ++ behind) same
      rw [isDecimalDigit_of_digitValue? digit] at outside
      cases outside

end Parts

section Mantissa

def isPoint (c : Char) : Bool :=
  c == '.'

private theorem leaves_or_point (cs : List Char) :
    Leaves isPoint cs ∨ ∃ rest, cs = '.' :: rest := by
  cases cs with
  | nil => exact Or.inl (leaves_nil isPoint)
  | cons c rest =>
    cases point : isPoint c with
    | false => exact Or.inl (leaves_cons point rest)
    | true => exact Or.inr ⟨rest, by rw [eq_of_beq point]⟩

private theorem length_splitDigits_le (cs : List Char) : (splitDigits cs).2.length ≤ cs.length := by
  rcases splitDigits_cases cs with none | ⟨d, digits, behind, split, shorter, -⟩
  · rw [none]
  · rw [split]
    exact shorter.le

private theorem splitDigitsWithPoint?_of_point {cs rest : List Char} {d : Nat} {digits : List Nat}
    (split : splitDigits cs = (d :: digits, '.' :: rest)) :
    splitDigitsWithPoint? cs = some (d :: digits, (splitDigits rest).1, (splitDigits rest).2) := by
  simp only [splitDigitsWithPoint?, split]

private theorem splitDigitsWithPoint?_of_leaves {cs behind : List Char} {d : Nat}
    {digits : List Nat}
    (split : splitDigits cs = (d :: digits, behind)) (ends : Leaves isPoint behind) :
    splitDigitsWithPoint? cs = some (d :: digits, [], behind) := by
  cases behind with
  | nil => simp only [splitDigitsWithPoint?, split]
  | cons c rest =>
    have other : c ≠ '.' := by
      rintro rfl
      cases ends _ _ rfl
    unfold splitDigitsWithPoint?
    rw [split]
    split <;> simp_all

private theorem splitDigitsWithPoint?_of_fraction {rest behind : List Char} {d : Nat}
    {digits : List Nat} (split : splitDigits rest = (d :: digits, behind)) :
    splitDigitsWithPoint? ('.' :: rest) = some ([], d :: digits, behind) := by
  have front : splitDigits ('.' :: rest) = ([], '.' :: rest) :=
    splitDigits_of_leaves (leaves_cons (by decide) rest)
  simp only [splitDigitsWithPoint?, front, split]

private theorem not_leaves_of_digit {cs : List Char} (starts : ¬ Leaves isDecimalDigit cs) :
    ¬ Leaves isMantissaChar cs := by
  intro ends
  exact starts fun c rest same => (Bool.or_eq_false_iff.mp (ends c rest same)).1

private theorem not_leaves_point (cs : List Char) : ¬ Leaves isMantissaChar ('.' :: cs) := by
  intro ends
  cases ends _ _ rfl

private theorem fraction_goesOn (whole : List Nat) {fraction : List Nat} {back : List Char}
    (writes : Digits fraction back) (rest : List Char) :
    (whole, (splitDigits (back ++ rest)).1, (splitDigits (back ++ rest)).2) =
        (whole, fraction, rest) ∨
      (splitDigits (back ++ rest)).2.length < rest.length ∧ ¬ Leaves isMantissaChar rest := by
  rw [splitDigits_append writes]
  rcases splitDigits_cases rest with none | ⟨d, digits, behind, split, shorter, starts⟩
  · rw [none, List.append_nil]
    exact Or.inl rfl
  · rw [split]
    exact Or.inr ⟨shorter, not_leaves_of_digit starts⟩

private theorem splitDigitsWithPoint?_append {whole fraction : List Nat} {cs : List Char}
    (writes : Mantissa whole fraction cs) (rest : List Char) :
    ∃ taken, splitDigitsWithPoint? (cs ++ rest) = some taken ∧
      (taken = (whole, fraction, rest) ∨
        taken.2.2.length < rest.length ∧ ¬ Leaves isMantissaChar rest) := by
  cases writes with
  | @pointed whole fraction front back nonempty before behind =>
    obtain ⟨d, digits, rfl⟩ := List.exists_cons_of_ne_nil nonempty
    have point : splitDigits ('.' :: (back ++ rest)) = ([], '.' :: (back ++ rest)) :=
      splitDigits_of_leaves (leaves_cons (by decide) _)
    have split := splitDigits_append before ('.' :: (back ++ rest))
    rw [point, List.append_nil] at split
    rw [List.append_assoc]
    exact ⟨_, splitDigitsWithPoint?_of_point split, fraction_goesOn _ behind rest⟩
  | @fraction digits cs nonempty writes =>
    obtain ⟨d, digits, rfl⟩ := List.exists_cons_of_ne_nil nonempty
    have split := splitDigits_append writes rest
    have goesOn := fraction_goesOn [] writes rest
    rw [split] at goesOn
    exact ⟨_, splitDigitsWithPoint?_of_fraction split, goesOn⟩
  | @whole digits cs nonempty writes =>
    obtain ⟨d, digits, rfl⟩ := List.exists_cons_of_ne_nil nonempty
    have split := splitDigits_append writes rest
    -- a point behind the digits is taken as well, with the digits that follow it
    rcases leaves_or_point (splitDigits rest).2 with ends | ⟨back, point⟩
    · refine ⟨_, splitDigitsWithPoint?_of_leaves split ends, ?_⟩
      rcases splitDigits_cases rest with none | ⟨e, more, behind, longer, shorter, starts⟩
      · exact Or.inl (by simp [none])
      · rw [longer]
        exact Or.inr ⟨shorter, not_leaves_of_digit starts⟩
    · rw [point] at split
      refine ⟨_, splitDigitsWithPoint?_of_point split, Or.inr ⟨?_, ?_⟩⟩
      · calc (splitDigits back).2.length
            ≤ back.length := length_splitDigits_le back
          _ < (splitDigits rest).2.length := by simp [point]
          _ ≤ rest.length := length_splitDigits_le rest
      · rcases splitDigits_cases rest with none | ⟨e, more, behind, -, -, starts⟩
        · rw [none] at point
          dsimp only at point
          rw [point]
          exact not_leaves_point back
        · exact not_leaves_of_digit starts

private theorem fraction_of_splitDigitsWithPoint? {cs : List Char}
    {taken : List Nat × List Nat × List Char}
    (split : splitDigits cs = ([], cs)) (found : splitDigitsWithPoint? cs = some taken) :
    ∃ d digits behind rest, cs = '.' :: rest ∧ splitDigits rest = (d :: digits, behind) ∧
      taken = ([], d :: digits, behind) := by
  rcases leaves_or_point cs with ends | ⟨rest, rfl⟩
  · cases cs with
    | nil => simp [splitDigitsWithPoint?, split] at found
    | cons c rest =>
      have other : c ≠ '.' := by
        rintro rfl
        cases ends _ _ rfl
      unfold splitDigitsWithPoint? at found
      rw [split] at found
      split at found <;> simp_all
  · rcases more : splitDigits rest with ⟨_ | ⟨d, digits⟩, behind⟩
    · simp [splitDigitsWithPoint?, split, more] at found
    · rw [splitDigitsWithPoint?_of_fraction more] at found
      exact ⟨d, digits, behind, rest, rfl, more, (Option.some.inj found).symm⟩

theorem exists_mantissa {cs behind : List Char} {whole fraction : List Nat}
    (found : splitDigitsWithPoint? cs = some (whole, fraction, behind)) :
    ∃ front, cs = front ++ behind ∧ Mantissa whole fraction front := by
  rcases splitDigits_cases cs with none | ⟨d, digits, rest, split, -, -⟩
  · obtain ⟨d, digits, rest, back, rfl, split, taken⟩ :=
      fraction_of_splitDigitsWithPoint? none found
    obtain ⟨front, same, writes⟩ := exists_digits back
    rw [split] at same writes
    cases taken
    exact ⟨'.' :: front, congrArg ('.' :: ·) same, .fraction (List.cons_ne_nil d digits) writes⟩
  · obtain ⟨front, same, writes⟩ := exists_digits cs
    rw [split] at same writes
    rcases leaves_or_point rest with ends | ⟨more, rfl⟩
    · rw [splitDigitsWithPoint?_of_leaves split ends] at found
      cases found
      exact ⟨front, same, .whole (List.cons_ne_nil d digits) writes⟩
    · rw [splitDigitsWithPoint?_of_point split] at found
      cases found
      obtain ⟨back, cut, behind⟩ := exists_digits more
      refine ⟨front ++ '.' :: back, ?_, .pointed (List.cons_ne_nil d digits) writes behind⟩
      rw [List.append_assoc, List.cons_append, ← cut]
      exact same

end Mantissa

section Exponent

private theorem splitExponent_of_digits {mark : Char} {rest behind : List Char} {d : Nat}
    {digits : List Nat} (marks : mark = 'e' ∨ mark = 'E')
    (split : splitDigits (splitSign rest).2 = (d :: digits, behind)) :
    splitExponent (mark :: rest) =
      (Double.signed (splitSign rest).1 (natural (d :: digits)), behind) := by
  simp only [splitExponent, if_pos marks, split]
  rfl

private theorem splitExponent_cases (cs : List Char) :
    splitExponent cs = (0, cs) ∨
      ∃ mark front, cs = mark :: front ++ (splitExponent cs).2 ∧
        Exponent (splitExponent cs).1 (mark :: front) := by
  cases cs with
  | nil => exact Or.inl rfl
  | cons mark rest =>
    by_cases marks : mark = 'e' ∨ mark = 'E'
    · obtain ⟨sign, signed, writesSign⟩ := exists_sign rest
      rcases splitDigits_cases (splitSign rest).2 with none | ⟨d, digits, behind, split, -, -⟩
      · refine Or.inl ?_
        simp [splitExponent, marks, none]
      · obtain ⟨front, same, writes⟩ := exists_digits (splitSign rest).2
        rw [splitExponent_of_digits marks split]
        rw [split] at same writes
        refine Or.inr ⟨mark, sign ++ front, ?_,
          .present marks writesSign (List.cons_ne_nil d digits) writes⟩
        rw [List.cons_append, List.append_assoc, ← same, ← signed]
    · refine Or.inl ?_
      simp [splitExponent, marks]

theorem exists_exponent (cs : List Char) :
    ∃ front, cs = front ++ (splitExponent cs).2 ∧ Exponent (splitExponent cs).1 front := by
  rcases splitExponent_cases cs with none | ⟨mark, front, same, writes⟩
  · rw [none]
    exact ⟨[], rfl, .absent⟩
  · exact ⟨mark :: front, same, writes⟩

private theorem length_splitExponent_le (cs : List Char) :
    (splitExponent cs).2.length ≤ cs.length := by
  obtain ⟨front, same, -⟩ := exists_exponent cs
  calc (splitExponent cs).2.length
      ≤ (front ++ (splitExponent cs).2).length := by simp
    _ = cs.length := congrArg List.length same.symm

private theorem splitExponent_append {power : Int} {cs : List Char} (writes : Exponent power cs)
    (rest : List Char) :
    splitExponent (cs ++ rest) = (power, rest) ∨
      (splitExponent (cs ++ rest)).2.length < rest.length := by
  cases writes with
  | absent =>
    rw [List.nil_append]
    refine (splitExponent_cases rest).imp_right ?_
    rintro ⟨mark, front, same, -⟩
    calc (splitExponent rest).2.length
        < (mark :: front ++ (splitExponent rest).2).length := by
          rw [List.length_append, List.length_cons]
          omega
      _ = rest.length := congrArg List.length same.symm
  | @present mark negative sign cs digits marks signed nonempty writes =>
    obtain ⟨d, digits, rfl⟩ := List.exists_cons_of_ne_nil nonempty
    obtain ⟨c, more, rfl, digit⟩ := Digits.nonempty writes
    have unsigned : splitSign (sign ++ (c :: more ++ rest)) = (negative, c :: more ++ rest) :=
      splitSign_append signed
        (leaves_cons (isSign_of_isMantissaChar (isMantissaChar_of_digitValue? digit)) _)
    have split := splitDigits_append writes rest
    rw [List.cons_append, List.append_assoc,
      splitExponent_of_digits marks (by rw [unsigned]; exact split), unsigned]
    rcases splitDigits_cases rest with none | ⟨e, further, behind, longer, shorter, -⟩
    · exact Or.inl (by simp [none])
    · rw [longer]
      exact Or.inr shorter

end Exponent

section Number

theorem Mantissa.nonempty {whole fraction : List Nat} {cs : List Char}
    (writes : Mantissa whole fraction cs) :
    ∃ c rest, cs = c :: rest ∧ isMantissaChar c = true := by
  have digitFirst {digits : List Nat} {front : List Char} (nonempty : digits ≠ [])
      (writes : Digits digits front) :
      ∃ c rest, front = c :: rest ∧ isMantissaChar c = true := by
    obtain ⟨d, digits, rfl⟩ := List.exists_cons_of_ne_nil nonempty
    obtain ⟨c, rest, same, digit⟩ := Digits.nonempty writes
    exact ⟨c, rest, same, isMantissaChar_of_digitValue? digit⟩
  cases writes with
  | whole nonempty writes => exact digitFirst nonempty writes
  | pointed nonempty before _ =>
    obtain ⟨c, rest, rfl, inside⟩ := digitFirst nonempty before
    exact ⟨c, _, rfl, inside⟩
  | fraction _ _ => exact ⟨'.', _, rfl, rfl⟩

private theorem split?_of_infinity (negative : Bool) {cs rest : List Char}
    (split : splitSign cs = (negative, infinityWord ++ rest)) :
    split? cs = some (.infinite negative, rest) := by
  have word : infinityWord.isPrefixOf (infinityWord ++ rest) = true :=
    List.isPrefixOf_iff_prefix.mpr (List.prefix_append infinityWord rest)
  simp only [split?, split, word, if_true, List.drop_left]

private theorem split?_of_unsigned {negative : Bool} {cs unsigned : List Char}
    (split : splitSign cs = (negative, unsigned)) (other : ¬ infinityWord <+: unsigned) :
    split? cs = (splitDigitsWithPoint? unsigned).map fun taken =>
      (assemble negative taken.1 taken.2.1 (splitExponent taken.2.2).1,
        (splitExponent taken.2.2).2) := by
  have word : infinityWord.isPrefixOf unsigned = false :=
    Bool.eq_false_iff.mpr fun isWord => other (List.isPrefixOf_iff_prefix.mp isWord)
  simp only [split?, split, word, Bool.false_eq_true, if_false]

private theorem exponent_absent {power : Int} {exponent rest : List Char}
    (scaled : Exponent power exponent) (goesOn : ¬ Leaves isMantissaChar (exponent ++ rest)) :
    exponent = [] := by
  cases scaled with
  | absent => rfl
  | present marks _ _ _ =>
    refine absurd (leaves_cons ?_ _) goesOn
    rcases marks with rfl | rfl <;> decide

theorem split?_append {x : Double} {cs : List Char} (writes : Numeral x cs) (rest : List Char) :
    ∃ taken, split? (cs ++ rest) = some taken ∧
      (taken = (x, rest) ∨ taken.2.length < rest.length) := by
  cases writes with
  | @infinity negative sign signed =>
    have unsigned : splitSign (sign ++ (infinityWord ++ rest)) = (negative, infinityWord ++ rest) :=
      splitSign_append signed (leaves_cons (by decide) _)
    rw [List.append_assoc]
    exact ⟨_, split?_of_infinity negative unsigned, Or.inl rfl⟩
  | @decimal negative whole fraction power sign mantissa exponent signed digits scaled =>
    obtain ⟨c, more, rfl, inside⟩ := Mantissa.nonempty digits
    have unsigned : splitSign (sign ++ (c :: more ++ (exponent ++ rest))) =
        (negative, c :: more ++ (exponent ++ rest)) :=
      splitSign_append signed (leaves_cons (isSign_of_isMantissaChar inside) _)
    have other : ¬ infinityWord <+: c :: more ++ (exponent ++ rest) := by
      intro word
      have first : 'I' = c := (List.cons_prefix_cons.mp word).1
      rw [← first] at inside
      cases inside
    obtain ⟨taken, found, stops⟩ := splitDigitsWithPoint?_append digits (exponent ++ rest)
    have split := split?_of_unsigned unsigned other
    rw [found, Option.map_some] at split
    rw [List.append_assoc, List.append_assoc, split]
    refine ⟨_, rfl, ?_⟩
    -- a mantissa that took more than its own has taken what follows; then no exponent was written
    rcases stops with rfl | ⟨shorter, goesOn⟩
    · rcases splitExponent_append scaled rest with whole | longer
      · rw [whole]
        exact Or.inl rfl
      · exact Or.inr longer
    · rw [exponent_absent scaled goesOn, List.nil_append] at shorter
      exact Or.inr ((length_splitExponent_le taken.2.2).trans_lt shorter)

theorem exists_numeral {cs behind : List Char} {x : Double} (found : split? cs = some (x, behind)) :
    ∃ front, cs = front ++ behind ∧ Numeral x front := by
  obtain ⟨sign, signed, writesSign⟩ := exists_sign cs
  by_cases word : infinityWord <+: (splitSign cs).2
  · obtain ⟨rest, same⟩ := word
    rw [split?_of_infinity (splitSign cs).1 (Prod.ext rfl same.symm)] at found
    cases found
    refine ⟨sign ++ infinityWord, ?_, .infinity writesSign⟩
    rw [List.append_assoc, same]
    exact signed
  · rw [split?_of_unsigned rfl word] at found
    obtain ⟨⟨whole, fraction, rest⟩, digits, taken⟩ := Option.map_eq_some_iff.mp found
    cases taken
    obtain ⟨mantissa, before, writes⟩ := exists_mantissa digits
    obtain ⟨exponent, cut, scaled⟩ := exists_exponent rest
    refine ⟨sign ++ (mantissa ++ exponent), ?_, .decimal writesSign writes scaled⟩
    rw [List.append_assoc, List.append_assoc, ← cut, ← before]
    exact signed

theorem split?_longest {cs front behind : List Char} {x y : Double} {numeral : List Char}
    (found : split? cs = some (x, behind)) (same : cs = front ++ behind)
    (starts : numeral <+: cs) (writes : Numeral y numeral) : numeral.length ≤ front.length := by
  obtain ⟨rest, rfl⟩ := starts
  obtain ⟨taken, again, stops⟩ := split?_append writes rest
  obtain rfl := Option.some.inj (found.symm.trans again)
  have lengths := congrArg List.length same
  rw [List.length_append, List.length_append] at lengths
  rcases stops with whole | longer
  · cases whole
    omega
  · dsimp only at longer
    omega

theorem split?_eq_none_iff {cs : List Char} :
    split? cs = none ↔ ∀ x numeral, numeral <+: cs → ¬ Numeral x numeral := by
  constructor
  · rintro none x numeral ⟨rest, rfl⟩ writes
    obtain ⟨taken, found, -⟩ := split?_append writes rest
    cases none.symm.trans found
  · intro absent
    rcases found : split? cs with _ | ⟨x, behind⟩
    · rfl
    · obtain ⟨front, same, writes⟩ := exists_numeral found
      exact absurd writes (absent x front ⟨behind, same.symm⟩)

theorem split?_eq_whole_iff {cs : List Char} {x : Double} :
    split? cs = some (x, []) ↔ Numeral x cs := by
  constructor
  · intro found
    obtain ⟨front, same, writes⟩ := exists_numeral found
    rw [List.append_nil] at same
    rwa [same]
  · intro writes
    obtain ⟨taken, found, stops⟩ := split?_append writes []
    rw [List.append_nil] at found
    rcases stops with rfl | shorter
    · exact found
    · cases shorter

end Number

end LeadingNumber

end TypedRecords.Numeric
