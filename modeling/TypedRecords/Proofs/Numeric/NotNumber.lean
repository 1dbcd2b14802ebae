import TypedRecords.Numeric.FieldNumber
import TypedRecords.Proofs.Numeric.Numeral

/-!
Where what is no number comes from.  Rounding does not give it and no numeral writes it; it is read
only in texts for fields, from its word.
-/

set_option autoImplicit false

namespace TypedRecords.Numeric

open TypedRecords.Text (isSpacing stripWhere exists_ends_of_stripWhere leaves_cons)

namespace Double

private theorem ofRatio_ne_nan (negative : Bool) (num den : Nat) :
    ofRatio negative num den ≠ .nan := by
  unfold ofRatio
  dsimp only
  split
  · exact Double.noConfusion
  · split <;> (split <;> exact Double.noConfusion)

private theorem ofDecimal_ne_nan (negative : Bool) (digits : Nat) (power : Int) :
    ofDecimal negative digits power ≠ .nan := by
  unfold ofDecimal
  split_ifs
  · exact Double.noConfusion
  · exact Double.noConfusion
  · exact Double.noConfusion
  · exact ofRatio_ne_nan _ _ _
  · exact ofRatio_ne_nan _ _ _

theorem ne_nan_of_ofInt? {n : Int} {x : Double} (found : ofInt? n = some x) : x ≠ .nan := by
  rintro rfl
  unfold ofInt? ofIntRatio? finite? at found
  split at found <;> simp at found

end Double

theorem Numeral.ne_nan {x : Double} {cs : List Char} (writes : Numeral x cs) : x ≠ .nan := by
  cases writes with
  | infinity _ => exact Double.noConfusion
  | decimal _ _ _ => exact Double.ofDecimal_ne_nan _ _ _

namespace FieldNumber

open TypedRecords.Numeric.LeadingNumber (isSign splitSign splitSign_append exists_sign)
open TypedRecords.Numeric.Numeral (Sign)

/-- The word for what is no number, in any case of its letters, perhaps with a sign. -/
inductive NanWord : List Char → Prop
  | intro {negative : Bool} {sign word : List Char} :
      Sign negative sign → word.map NumberWord.smallLetter = "nan".toList → NanWord (sign ++ word)

private theorem ofChars?_eq_notNumber_iff {cs : List Char} :
    NumberWord.ofChars? cs = some .notNumber ↔ cs.map NumberWord.smallLetter = "nan".toList := by
  rw [← String.ofList_inj, String.ofList_toList]
  unfold NumberWord.ofChars?
  generalize String.ofList (cs.map NumberWord.smallLetter) = word
  dsimp only
  split_ifs with infinite none
  · rcases infinite with rfl | rfl <;> simp
  · simp [none]
  · simp [none]

private theorem numeral_of_unsignedNumber? {negative : Bool} {sign cs : List Char} {x : Double}
    (signed : Sign negative sign) (found : unsignedNumber? negative cs = some x) :
    Numeral x (sign ++ cs) := by
  unfold unsignedNumber? at found
  split at found
  · cases found
  · split at found
    · cases found
    · rename_i whole fraction rest digits
      split at found
      · rename_i power scaled
        obtain ⟨mantissa, rfl, writes⟩ := LeadingNumber.exists_mantissa digits
        obtain ⟨exponent, same, exponentWrites⟩ := LeadingNumber.exists_exponent rest
        rw [scaled] at same exponentWrites
        obtain rfl := Option.some.inj found
        rw [same, List.append_nil]
        exact .decimal signed writes exponentWrites
      · cases found

private theorem bareNumber?_eq_nan_iff {cs : List Char} :
    bareNumber? cs = some .nan ↔ NanWord cs := by
  constructor
  · intro found
    obtain ⟨sign, same, signed⟩ := exists_sign cs
    unfold bareNumber? at found
    dsimp only at found
    split at found
    · cases found
    · rename_i word
      rw [same]
      exact .intro signed (ofChars?_eq_notNumber_iff.mp word)
    · exact absurd rfl (numeral_of_unsignedNumber? signed found).ne_nan
  · rintro isWord
    cases isWord with
    | @intro negative sign word signed same =>
    -- the word begins with a letter, so that no more than the sign is taken for one
    have nonempty : word ≠ [] := by
      rintro rfl
      cases same
    obtain ⟨c, more, rfl⟩ := List.exists_cons_of_ne_nil nonempty
    have first : NumberWord.smallLetter c = 'n' := (List.cons.inj same).1
    have unsigned : isSign c = false := by
      refine Bool.eq_false_iff.mpr fun sign => ?_
      rcases Bool.or_eq_true_iff.mp sign with plus | minus
      · rw [eq_of_beq plus] at first
        cases first
      · rw [eq_of_beq minus] at first
        cases first
    unfold bareNumber?
    rw [splitSign_append signed (leaves_cons unsigned more)]
    dsimp only
    rw [ofChars?_eq_notNumber_iff.mpr same]

private theorem underscore_of_ofChars? {cs : List Char} {word : NumberWord}
    (found : NumberWord.ofChars? cs = some word) : '_' ∉ cs := by
  intro member
  have small : '_' ∈ cs.map NumberWord.smallLetter := List.mem_map_of_mem member
  rw [← String.toList_ofList (l := cs.map NumberWord.smallLetter)] at small
  unfold NumberWord.ofChars? at found
  generalize String.ofList (cs.map NumberWord.smallLetter) = letters at small found
  dsimp only at found
  split_ifs at found with infinite none
  · rcases infinite with rfl | rfl <;> simp at small
  · rw [none] at small
    simp at small

private theorem underscore_of_bareNumber? {cs : List Char} {x : Double}
    (found : bareNumber? cs = some x) :
    '_' ∉ cs := by
  have outside {front : List Char} (inside : ∀ c ∈ front, Numeral.isChar c = true) :
      '_' ∉ front := by
    intro member
    cases inside '_' member
  obtain ⟨sign, same, signed⟩ := exists_sign cs
  have beyond {word : NumberWord}
      (found : NumberWord.ofChars? (splitSign cs).2 = some word) : '_' ∉ cs := by
    rw [same, List.mem_append, not_or]
    exact ⟨outside signed.isChar, underscore_of_ofChars? found⟩
  unfold bareNumber? at found
  dsimp only at found
  split at found
  · rename_i word
    exact beyond word
  · rename_i word
    exact beyond word
  · rw [same]
    exact outside (numeral_of_unsignedNumber? signed found).isChar_of_mem

private theorem bareNumber?_of_ungrouped? {text cs : List Char}
    (found : ungrouped? text = some cs) :
    bareNumber? (stripWhere isSpacing text) = none := by
  have underscore : '_' ∈ text := by
    unfold ungrouped? at found
    split at found
    · cases found
    · rename_i grouped
      simpa using fun missing => grouped (Or.inr (Or.inr (Or.inl missing)))
  obtain ⟨front, back, same, before, behind⟩ := exists_ends_of_stripWhere isSpacing text
  refine Option.eq_none_iff_forall_ne_some.mpr fun x number => ?_
  have missing := underscore_of_bareNumber? number
  rw [same] at underscore
  rcases List.mem_append.mp underscore with inner | outer
  · rcases List.mem_append.mp inner with outer | kept
    · cases before '_' outer
    · exact missing kept
  · cases behind '_' outer

/-- The word for what is no number, between white space or with underscores in it. -/
def NanText (s : String) : Prop :=
  NanWord (stripWhere isSpacing s.toList) ∨ ∃ cs, ungrouped? s.toList = some cs ∧ NanWord cs

theorem number?_eq_nan_iff {s : String} : number? s = some .nan ↔ NanText s := by
  unfold number?
  constructor
  · intro found
    split at found
    · rename_i x bare
      obtain rfl := Option.some.inj found
      exact Or.inl (bareNumber?_eq_nan_iff.mp bare)
    · obtain ⟨cs, ungrouped, bare⟩ := Option.bind_eq_some_iff.mp found
      exact Or.inr ⟨cs, ungrouped, bareNumber?_eq_nan_iff.mp bare⟩
  · rintro (word | ⟨cs, ungrouped, word⟩)
    · rw [bareNumber?_eq_nan_iff.mpr word]
    · rw [bareNumber?_of_ungrouped? ungrouped, ungrouped]
      exact bareNumber?_eq_nan_iff.mpr word

end FieldNumber

end TypedRecords.Numeric
