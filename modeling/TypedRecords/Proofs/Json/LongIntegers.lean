import Mathlib.Data.List.Induction
import TypedRecords.Proofs.Json.Reading
import TypedRecords.Proofs.Text.Reads

/-!
Integers with too many digits in JSON.  A text is refused for such an integer only if its digits
stand in it, one behind the other; and no integer that is read is one of them.
-/

set_option autoImplicit false

namespace TypedRecords.Json

open TypedRecords.Numeric (digitLimit isTooLong)
open TypedRecords.Text (isPlainDigit Reads Upward)
open TypedRecords.Traversal

/-- That many digits, which are more than are converted, stand somewhere in a row. -/
structure HasLongRun (count : Nat) (cs : List Char) : Prop where
  long : digitLimit < count
  run : ∃ digits, digits <:+: cs ∧ digits.length = count ∧ ∀ c ∈ digits, isPlainDigit c = true

def Accounts (cs : List Char) (stop : Stop) : Prop :=
  ∀ count, stop = .tooManyDigits count → HasLongRun count cs

instance : Upward Accounts where
  up suffix account count same := by
    obtain ⟨long, digits, within, counted, plain⟩ := account count same
    exact ⟨long, digits, within.trans suffix.isInfix, counted, plain⟩

section Faults

variable {α : Type} (cs : List Char) (what : Fault)

private theorem fault_reads (left : Nat) :
    Reads Accounts cs (.error (.fault what left) : Except Stop (α × List Char)) :=
  .failed fun _ same => nomatch same

private theorem stopAt_reads (left : List Char) :
    Reads Accounts cs (stopAt what left : Except Stop (α × List Char)) :=
  fault_reads cs what left.length

end Faults

private theorem skipGap_suffix (cs : List Char) : skipGap cs <:+ cs :=
  List.dropWhile_suffix _

private theorem suffix_of_skipGap {cs behind : List Char} {mark : Char}
    (found : skipGap cs = mark :: behind) : behind <:+ cs :=
  (List.suffix_cons mark behind).trans (found ▸ skipGap_suffix cs)

private theorem readText_reads (opening : Nat) (done cs : List Char) :
    Reads Accounts cs (readText opening done cs) := by
  fun_induction readText opening done cs
  case case1 | case3 => exact fault_reads _ _ _
  case case2 => exact .done (List.suffix_cons _ _)
  case case4 | case5 | case6 | case12 | case14 | case15 => exact stopAt_reads _ _ _
  case case7 ih => exact ih.mono ⟨[_, _, _, _, _, _, _, _, _, _, _, _], rfl⟩
  -- Behind a code point in digits; where the next one is not its second half, it is left.
  case case8 ih | case9 ih | case10 ih | case11 ih => exact ih.mono ⟨[_, _, _, _, _, _], rfl⟩
  case case13 ih => exact ih.mono ⟨[_, _], rfl⟩
  case case16 ih => exact ih.mono (List.suffix_cons _ _)

section Numerals

variable {cs rest : List Char} {numeral : Numeral}

theorem splitFraction_suffix (cs : List Char) : (splitFraction cs).2 <:+ cs := by
  unfold splitFraction
  split
  · split
    · exact List.suffix_refl _
    · exact (List.dropWhile_suffix _).trans (List.suffix_cons _ _)
  · exact List.suffix_refl _

theorem splitExponent_suffix (cs : List Char) : (splitExponent cs).2 <:+ cs := by
  unfold splitExponent
  split
  · exact List.suffix_refl _
  split
  · dsimp only
    split
    · exact List.suffix_refl _
    · refine ((List.dropWhile_suffix _).trans ?_).trans (List.suffix_cons _ _)
      -- A sign in front of the digits is left out.
      split
      · exact List.suffix_cons _ _
      · exact List.suffix_cons _ _
      · exact List.suffix_refl _
  · exact List.suffix_refl _

private theorem minus_suffix (cs : List Char) :
    (match cs with
      | '-' :: rest => (true, rest)
      | cs => (false, cs)).2 <:+ cs := by
  split
  · exact List.suffix_cons _ _
  · exact List.suffix_refl _

private theorem numeral_suffix {unsigned : List Char} (signed : unsigned <:+ cs) (count : Nat) :
    (splitExponent (splitFraction (unsigned.drop count)).2).2 <:+ cs :=
  (((splitExponent_suffix _).trans (splitFraction_suffix _)).trans (List.drop_suffix _ _)).trans
    signed

private theorem splitNumeral?_eq_some (found : splitNumeral? cs = some (numeral, rest)) :
    rest <:+ cs ∧ numeral.whole <:+: cs ∧ ∀ c ∈ numeral.whole, isPlainDigit c = true := by
  unfold splitNumeral? at found
  dsimp only at found
  split at found
  · rename_i more zero
    obtain ⟨-, same⟩ := Option.ite_none_left_eq_some.mp found
    obtain ⟨rfl, rfl⟩ := Prod.mk.inj (Option.some.inj same)
    have signed : '0' :: more <:+ cs := zero ▸ minus_suffix cs
    have front : ['0'] <+: '0' :: more := ⟨more, rfl⟩
    refine ⟨numeral_suffix (minus_suffix cs) _, front.isInfix.trans signed.isInfix, ?_⟩
    exact List.forall_mem_singleton.mpr rfl
  · obtain ⟨-, same⟩ := Option.ite_none_left_eq_some.mp found
    obtain ⟨rfl, rfl⟩ := Prod.mk.inj (Option.some.inj same)
    refine ⟨numeral_suffix (minus_suffix cs) _, ?_, List.all_eq_true.mp List.all_takeWhile⟩
    exact (List.takeWhile_prefix _).isInfix.trans (minus_suffix cs).isInfix

theorem readScalar_reads (cs : List Char) : Reads Accounts cs (readScalar cs) := by
  unfold readScalar
  split
  · exact .done (List.drop_suffix _ _)
  · split
    · rename_i numeral rest found
      obtain ⟨behind, within, plain⟩ := splitNumeral?_eq_some found
      refine ⟨fun value left same => ?_, fun stop same count => ?_⟩
      · obtain ⟨own, -, pair⟩ := map_ok_iff.mp same
        obtain rfl := congrArg Prod.snd pair
        exact behind
      · rintro rfl
        have refused := map_error_iff.mp same
        unfold Numeral.value at refused
        split at refused
        · split at refused
          · rename_i long
            cases refused
            exact ⟨long, numeral.whole, within, rfl, plain⟩
          · cases refused
        · cases refused
    · exact stopAt_reads _ _ _

end Numerals

section Readers

variable {fuel : Nat}

private theorem readValue_reads (items : ∀ cs, Reads Accounts cs (readItems fuel cs))
    (fields : ∀ cs, Reads Accounts cs (readFields fuel cs)) (cs : List Char) :
    Reads Accounts cs (readValue (fuel + 1) cs) := by
  unfold readValue
  split
  · exact ((readText_reads _ _ _).map Value.text).mono (List.suffix_cons _ _)
  · rename_i rest
    refine .mono (List.suffix_cons _ rest) ?_
    split
    · rename_i closed
      exact .done (suffix_of_skipGap closed)
    · exact ((items _).map Value.list).mono (skipGap_suffix rest)
  · rename_i rest
    refine .mono (List.suffix_cons _ rest) ?_
    split
    · rename_i closed
      exact .done (suffix_of_skipGap closed)
    · exact ((fields _).map fun pairs => Value.object (Fields.ofPairs pairs)).mono
        (skipGap_suffix rest)
  · exact readScalar_reads _

private theorem readItems_reads (values : ∀ cs, Reads Accounts cs (readValue fuel cs))
    (items : ∀ cs, Reads Accounts cs (readItems fuel cs)) (cs : List Char) :
    Reads Accounts cs (readItems (fuel + 1) cs) := by
  unfold readItems
  refine (values cs).bind fun item rest _ => ?_
  dsimp only
  split
  · rename_i closed
    exact .done (suffix_of_skipGap closed)
  · rename_i behind comma
    have later := (items (skipGap behind)).mono (skipGap_suffix behind)
    exact (later.map fun items => item :: items).mono (suffix_of_skipGap comma)
  · exact stopAt_reads _ _ _

private theorem readFields_reads (values : ∀ cs, Reads Accounts cs (readValue fuel cs))
    (fields : ∀ cs, Reads Accounts cs (readFields fuel cs)) (cs : List Char) :
    Reads Accounts cs (readFields (fuel + 1) cs) := by
  unfold readFields
  split
  · rename_i rest
    refine .mono (List.suffix_cons _ rest) ((readText_reads _ _ _).bind fun name rest _ => ?_)
    dsimp only
    split
    · rename_i behind colon
      refine .mono (suffix_of_skipGap colon) ?_
      refine .mono (skipGap_suffix behind) ((values _).bind fun value rest _ => ?_)
      dsimp only
      split
      · rename_i closed
        exact .done (suffix_of_skipGap closed)
      · rename_i behind comma
        have later := (fields (skipGap behind)).mono (skipGap_suffix behind)
        exact (later.map fun pairs => (name, value) :: pairs).mono (suffix_of_skipGap comma)
      · exact stopAt_reads _ _ _
    · exact stopAt_reads _ _ _
  · exact stopAt_reads _ _ _

private theorem readers_read (fuel : Nat) :
    (∀ cs, Reads Accounts cs (readValue fuel cs)) ∧ (∀ cs, Reads Accounts cs (readItems fuel cs)) ∧
      ∀ cs, Reads Accounts cs (readFields fuel cs) := by
  induction fuel with
  | zero =>
    exact ⟨fun cs => stopAt_reads cs _ _, fun cs => stopAt_reads cs _ _,
      fun cs => stopAt_reads cs _ _⟩
  | succ fuel ih =>
    obtain ⟨values, items, fields⟩ := ih
    exact ⟨readValue_reads items fields, readItems_reads values items,
      readFields_reads values fields⟩

end Readers

private theorem hasLongRun_of_readDocument {cs : List Char} {count : Nat}
    (refused : readDocument cs = .error (.tooManyDigits count)) : HasLongRun count cs := by
  rcases bind_error_iff.mp refused with failed | ⟨⟨value, rest⟩, -, failed⟩
  · exact (((readers_read _).1 _).mono (skipGap_suffix cs)).accounted _ failed count rfl
  · dsimp only at failed
    split at failed
    · cases failed
    · cases failed

theorem hasLongRun_of_read {text : String} {count : Nat}
    (refused : read text = .error (.tooManyDigits count)) : HasLongRun count text.toList := by
  unfold read at refused
  split at refused
  · cases refused
  · obtain ⟨stop, failed, same⟩ := mapError_error_iff.mp refused
    cases stop with
    | fault => cases same
    | tooManyDigits own =>
      cases same
      exact hasLongRun_of_readDocument failed

/-- The value, if it is an integer, is not too long to be written out. -/
def IsShort (value : Value) : Prop :=
  ∀ n, value = .int n → isTooLong n = false

section Short

private theorem naturalOf_lt {digits : List Char} (plain : ∀ c ∈ digits, isPlainDigit c = true) :
    naturalOf digits < Nat.pow 10 digits.length := by
  induction digits using List.reverseRecOn with
  | nil => decide
  | append_singleton front c ih =>
    have digit : c.toNat - '0'.toNat < 10 := by
      have last := plain c (by simp)
      simp only [isPlainDigit, Bool.and_eq_true, decide_eq_true_eq, Char.le_def,
        UInt32.le_iff_toNat_le] at last
      have nine : c.toNat ≤ 57 := last.2
      have zero : '0'.toNat = 48 := rfl
      omega
    have before := ih fun c member => plain c (List.mem_append_left _ member)
    have power : Nat.pow 10 (front.length + 1) = Nat.pow 10 front.length * 10 := rfl
    rw [naturalOf, List.map_append, Text.positional, List.foldl_append, ← Text.positional,
      ← naturalOf, List.length_append, List.length_singleton, power]
    simp only [List.map_cons, List.map_nil, List.foldl_cons, List.foldl_nil]
    omega

private theorem isTooLong_eq_false_of_natAbs {n : Int} {digits : List Char}
    (plain : ∀ c ∈ digits, isPlainDigit c = true) (short : digits.length ≤ digitLimit)
    (size : n.natAbs = naturalOf digits) : isTooLong n = false := by
  -- said of any limit, since the power to the limit itself is not to be worked out
  have within {limit : Nat} (short : digits.length ≤ limit) : ¬ Nat.pow 10 limit ≤ n.natAbs := by
    rw [size]
    refine Nat.not_le.mpr (Nat.lt_of_lt_of_le (naturalOf_lt plain) ?_)
    exact Nat.pow_le_pow_right (by decide) short
  exact decide_eq_false (within short)

theorem isShort_of_ne {value : Value} (other : ∀ n, value ≠ .int n) : IsShort value :=
  fun n same => absurd same (other n)

private theorem words_short {word : List Char × Value} (member : word ∈ words) :
    word.2.Throughout IsShort := by
  obtain ⟨leaf, -, other⟩ := words_cases member
  exact (Value.throughout_leaf_iff leaf).mpr (isShort_of_ne other)

private theorem numeral_short {numeral : Numeral} {value : Value}
    (plain : ∀ c ∈ numeral.whole, isPlainDigit c = true) (read : numeral.value = .ok value) :
    value.Throughout IsShort := by
  unfold Numeral.value at read
  split at read
  · split at read
    · cases read
    · rename_i short
      obtain rfl := Except.ok.inj read
      refine (Value.throughout_leaf_iff (.int _)).mpr fun n same => ?_
      obtain rfl := Value.int.inj same
      refine isTooLong_eq_false_of_natAbs plain (Nat.not_lt.mp short) ?_
      split <;> simp
  · obtain rfl := Except.ok.inj read
    exact (Value.throughout_leaf_iff (.float _)).mpr (isShort_of_ne (by simp))

private theorem readScalar_short {cs rest : List Char} {value : Value}
    (read : readScalar cs = .ok (value, rest)) : value.Throughout IsShort := by
  unfold readScalar at read
  split at read
  · rename_i word plain found
    obtain rfl : plain = value := congrArg Prod.fst (Except.ok.inj read)
    exact words_short (List.mem_of_find?_eq_some found)
  · split at read
    · rename_i numeral behind split
      obtain ⟨-, -, plain⟩ := splitNumeral?_eq_some split
      obtain ⟨number, found, same⟩ := map_ok_iff.mp read
      obtain rfl : value = number := congrArg Prod.fst same
      exact numeral_short plain found
    · cases read

theorem ofReading_short : OfReading IsShort where
  text := fun _ => isShort_of_ne (by simp)
  list := fun _ => isShort_of_ne (by simp)
  object := fun _ => isShort_of_ne (by simp)
  scalar := fun _ _ _ => readScalar_short

end Short

end TypedRecords.Json
