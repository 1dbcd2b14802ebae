import Mathlib.Tactic.ByContra
import TypedRecords.Proofs.Text.Classes
import TypedRecords.Text.Case

/-!
Small forms of texts.  A small form is its own small form, since the counterparts of letters lie in
no run of letters.  It is as long as the text, and of letters alone if the text is, but for the
dotted capital I, which comes to a letter and a mark.
-/

set_option autoImplicit false

namespace TypedRecords.Text

/-- Whether one of the ranges of an ascending list holds all code points from `first` to `last`. -/
def coverRange (first last : Nat) : List (Nat × Nat) → Bool
  | [] => false
  | (start, stop) :: rest =>
    start.ble first && (last.ble stop || coverRange first last rest)

private theorem inRanges_of_coverRange {first last code : Nat} {ranges : List (Nat × Nat)}
    (covered : coverRange first last ranges = true) (above : first ≤ code) (below : code ≤ last) :
    inRanges code ranges = true := by
  induction ranges with
  | nil => cases covered
  | cons range rest ih =>
    simp only [coverRange, Bool.and_eq_true, Bool.or_eq_true, Nat.ble_eq] at covered
    obtain ⟨starts, ends | covered⟩ := covered
    · rw [inRanges, if_neg (by omega), if_pos (by omega)]
    · rw [inRanges, if_neg (by omega), ih covered, ite_self]

namespace Case

def Run.Holds (run : Run) (code : Nat) : Prop :=
  run.first ≤ code ∧ code ≤ run.last ∧ (code - run.first) % run.stride = 0

/-- The counterparts of a run, as a run that is already where it belongs. -/
def Run.counterpart (run : Run) : Run :=
  ⟨(run.first + run.distance).toNat, (run.last + run.distance).toNat, run.stride, 0⟩

def Run.single (code : Nat) : Run := ⟨code, code, 1, 0⟩

private theorem Run.single_holds_iff {code other : Nat} :
    (single code).Holds other ↔ other = code := by
  constructor
  · rintro ⟨above, below, -⟩
    exact Nat.le_antisymm below above
  · rintro rfl
    exact ⟨Nat.le_refl _, Nat.le_refl _, Nat.mod_one _⟩

theorem Run.Holds.counterpart {run : Run} {code : Nat} (holds : run.Holds code)
    (nonneg : 0 ≤ run.first + run.distance) :
    run.counterpart.Holds (code + run.distance).toNat := by
  obtain ⟨above, below, steps⟩ := holds
  have between : (code + run.distance).toNat - (run.first + run.distance).toNat =
      code - run.first := by omega
  refine ⟨?_, ?_, ?_⟩
  · change (run.first + run.distance).toNat ≤ _
    omega
  · change _ ≤ (run.last + run.distance).toNat
    omega
  · exact between ▸ steps

/-- Whether two runs are seen to have no code point in common: one ends before the other begins, or
they alternate. -/
def Run.isApart (run other : Run) : Bool :=
  (run.last + 1).ble other.first || (other.last + 1).ble run.first ||
    (run.stride.beq 2 || run.first.beq run.last) && other.stride.beq 2 &&
      ((run.first + other.first) % 2).beq 1

private theorem Run.not_holds_of_isApart {run other : Run} {code : Nat}
    (apart : run.isApart other = true) (holds : run.Holds code) : ¬ other.Holds code := by
  obtain ⟨above, below, steps⟩ := holds
  rintro ⟨above', below', steps'⟩
  simp only [isApart, Bool.or_eq_true, Bool.and_eq_true, Nat.ble_eq, Nat.beq_eq] at apart
  rcases apart with (before | behind) | ⟨⟨two | single, two'⟩, odd⟩
  · omega
  · omega
  · rw [two] at steps
    rw [two'] at steps'
    omega
  · rw [two'] at steps'
    omega

section Runs

variable {runs : List Run} {code : Nat}

private theorem mapRuns_of_not_holds (outside : ∀ run ∈ runs, ¬ run.Holds code) :
    mapRuns code runs = code := by
  induction runs with
  | nil => rfl
  | cons run rest ih =>
    obtain ⟨here, behind⟩ := List.forall_mem_cons.mp outside
    exact (if_neg here).trans (ih behind)

private theorem mapRuns_cases (code : Nat) (runs : List Run) :
    (∀ run ∈ runs, ¬ run.Holds code) ∨
      ∃ run ∈ runs, run.Holds code ∧ mapRuns code runs = (code + run.distance).toNat := by
  induction runs with
  | nil => exact Or.inl (List.forall_mem_nil _)
  | cons run rest ih =>
    by_cases here : run.Holds code
    · exact Or.inr ⟨run, List.mem_cons_self, here, if_pos here⟩
    · have passed : mapRuns code (run :: rest) = mapRuns code rest := if_neg here
      rcases ih with outside | ⟨own, member, holds, moved⟩
      · exact Or.inl (List.forall_mem_cons.mpr ⟨here, outside⟩)
      · exact Or.inr ⟨own, List.mem_cons_of_mem _ member, holds, passed.trans moved⟩

end Runs

/-- Whether the code points of a run are seen to have no small forms but themselves. -/
def Run.isSmall (run : Run) : Bool :=
  (single 0x130 :: single 0x3a3 :: lowerRuns).all run.isApart

/-- Whether the code points of a run are seen to be those of characters. -/
def Run.isScalar (run : Run) : Bool :=
  run.last < 0xd800 || 0xdfff < run.first && run.last < 0x110000

/-- Whether a run is seen to go from letters to letters, or not from letters. -/
def Run.keepsLetters (run : Run) : Bool :=
  coverRange run.counterpart.first run.counterpart.last letterRanges ||
    areDisjoint 1000 [(run.first, run.last)] letterRanges

/-- What is seen of a run that goes from capitals to small letters. -/
structure Run.Lowers (run : Run) : Prop where
  nonneg : 0 ≤ run.first + run.distance
  scalar : run.counterpart.isScalar = true
  small : run.counterpart.isSmall = true
  letters : run.keepsLetters = true

private theorem lowers_of_mem : ∀ run ∈ lowerRuns, run.Lowers := by
  -- The table is gone through once for each test.  `small` compares every pair of runs: `isApart`
  -- uses `Nat.ble`, which the kernel computes without opening the decision of an order.
  have nonneg : ∀ run ∈ lowerRuns, 0 ≤ run.first + run.distance := by decide +kernel
  have scalar : ∀ run ∈ lowerRuns, run.counterpart.isScalar = true := by decide +kernel
  have small : ∀ run ∈ lowerRuns, run.counterpart.isSmall = true := by decide +kernel
  have letters : ∀ run ∈ lowerRuns, run.keepsLetters = true := by decide +kernel
  exact fun run member =>
    ⟨nonneg run member, scalar run member, small run member, letters run member⟩

/-- The dotted capital I, the letter whose small form is longer than it. -/
def dottedI : Char := Char.ofNat 0x130

/-- The mark that follows the small form of the dotted capital I. -/
def dotAbove : Char := Char.ofNat 0x307

/-- Whether a character is its own small form wherever it stands. -/
def IsSmall (c : Char) : Prop :=
  ∀ before after, lowerChar before c after = [c]

/-- What the small form of a character can be: that of the dotted capital I, a sigma, the
counterpart in a run, or the character itself. -/
inductive Lowered (c : Char) : List Char → Prop
  | dotted : c = dottedI → Lowered c ['i', dotAbove]
  | sigma {d : Char} : c ≠ dottedI → d ∈ [Char.ofNat 0x3c2, Char.ofNat 0x3c3] → Lowered c [d]
  | moved {run : Run} {d : Char} : c ≠ dottedI → run ∈ lowerRuns → run.Holds c.toNat →
      run.counterpart.Holds d.toNat → Lowered c [d]
  | same : c ≠ dottedI → IsSmall c → Lowered c [c]

section Small

variable {before after : List Char} {c d : Char} {cs small : List Char} {run : Run}

private theorem toNat_ofNat_of_isScalar {code : Nat} (scalar : run.isScalar = true)
    (holds : run.Holds code) : (Char.ofNat code).toNat = code := by
  have valid : code.isValidChar := by
    obtain ⟨above, below, -⟩ := holds
    simp only [Run.isScalar, Bool.or_eq_true, Bool.and_eq_true, decide_eq_true_eq] at scalar
    rcases scalar with low | ⟨above', below'⟩
    · exact Or.inl (by omega)
    · exact Or.inr ⟨by omega, by omega⟩
  rw [Char.ofNat, dif_pos valid]
  rfl

private theorem lowerChar_of_not_holds (plain : c.toNat ≠ 0x130) (sigma : c.toNat ≠ 0x3a3)
    (outside : ∀ run ∈ lowerRuns, ¬ run.Holds c.toNat) : IsSmall c := by
  intro before after
  rw [lowerChar, if_neg plain, if_neg sigma, mapRuns_of_not_holds outside, Char.ofNat_toNat]

theorem isSmall_of_holds (small : run.isSmall = true) (holds : run.Holds c.toNat) : IsSmall c := by
  simp only [Run.isSmall, List.all_cons, Bool.and_eq_true, List.all_eq_true] at small
  obtain ⟨plain, sigma, apart⟩ := small
  refine lowerChar_of_not_holds ?_ ?_ fun other member => ?_
  · exact fun same => Run.not_holds_of_isApart plain holds (Run.single_holds_iff.mpr same)
  · exact fun same => Run.not_holds_of_isApart sigma holds (Run.single_holds_iff.mpr same)
  · exact Run.not_holds_of_isApart (apart other member) holds

theorem isSmall_of_single (small : (Run.single c.toNat).isSmall = true) : IsSmall c :=
  isSmall_of_holds small (Run.single_holds_iff.mpr rfl)

theorem lowered_lowerChar (before : List Char) (c : Char) (after : List Char) :
    Lowered c (lowerChar before c after) := by
  by_cases dotted : c = dottedI
  · subst dotted
    exact .dotted rfl
  have plain : c.toNat ≠ 0x130 := fun same => dotted (by rw [dottedI, ← same, Char.ofNat_toNat])
  rw [lowerChar, if_neg plain]
  by_cases sigma : c.toNat = 0x3a3
  · rw [if_pos sigma]
    split
    · exact .sigma dotted (by simp)
    · exact .sigma dotted (by simp)
  · rw [if_neg sigma]
    rcases mapRuns_cases c.toNat lowerRuns with outside | ⟨run, member, holds, moved⟩
    · rw [mapRuns_of_not_holds outside, Char.ofNat_toNat]
      exact .same dotted (lowerChar_of_not_holds plain sigma outside)
    · have lowers := lowers_of_mem run member
      have there := holds.counterpart lowers.nonneg
      rw [moved]
      refine .moved dotted member holds ?_
      rwa [toNat_ofNat_of_isScalar lowers.scalar there]

theorem Lowered.isSmall (lowered : Lowered c small) : ∀ d ∈ small, IsSmall d := by
  cases lowered with
  | dotted =>
    have first : IsSmall 'i' := isSmall_of_single (by decide +kernel)
    have second : IsSmall dotAbove := isSmall_of_single (by decide +kernel)
    simp [first, second]
  | sigma _ either =>
    have final : IsSmall (Char.ofNat 0x3c2) := isSmall_of_single (by decide +kernel)
    have medial : IsSmall (Char.ofNat 0x3c3) := isSmall_of_single (by decide +kernel)
    simp only [List.mem_cons, List.not_mem_nil, or_false] at either
    rcases either with rfl | rfl
    · simpa using final
    · simpa using medial
  | moved _ member _ there => simpa using isSmall_of_holds (lowers_of_mem _ member).small there
  | same _ own => simpa using own

theorem Lowered.isLetter (lowered : Lowered c small) (plain : c ≠ dottedI)
    (letter : isLetter c = true) : ∀ d ∈ small, isLetter d = true := by
  cases lowered with
  | dotted same => exact absurd same plain
  | sigma _ either =>
    have letters : [Char.ofNat 0x3c2, Char.ofNat 0x3c3].all Text.isLetter = true := by
      decide +kernel
    simpa using List.all_eq_true.mp letters _ either
  | @moved run d _ member holds there =>
    obtain ⟨above, below, -⟩ := holds
    obtain ⟨above', below', -⟩ := there
    rcases Bool.or_eq_true_iff.mp (lowers_of_mem run member).letters with covered | disjoint
    · have small : isLetter d = true := inRanges_of_coverRange covered above' below'
      simpa using small
    · have inside : inRanges c.toNat [(run.first, run.last)] = true := by
        rw [inRanges, if_neg (by omega), if_pos below]
      exact absurd letter (by rw [Text.isLetter, not_inRanges_of_disjoint disjoint inside]; decide)
  | same => simpa using letter

theorem Lowered.length (lowered : Lowered c small) :
    small.length = if c = dottedI then 2 else 1 := by
  cases lowered with
  | dotted same => rw [if_pos same]; rfl
  | sigma plain => exact (if_neg plain).symm
  | moved plain => exact (if_neg plain).symm
  | same plain => exact (if_neg plain).symm

private theorem isSmall_of_mem_lowerAfter : ∀ d ∈ lowerAfter before cs, IsSmall d := by
  induction cs generalizing before with
  | nil => exact List.forall_mem_nil _
  | cons c after ih =>
    exact List.forall_mem_append.mpr ⟨(lowered_lowerChar before c after).isSmall, ih⟩

theorem lowerAfter_of_isSmall (small : ∀ c ∈ cs, IsSmall c) : lowerAfter before cs = cs := by
  induction cs generalizing before with
  | nil => rfl
  | cons c after ih =>
    obtain ⟨own, behind⟩ := List.forall_mem_cons.mp small
    rw [lowerAfter, own, ih behind, List.singleton_append]

private theorem length_lowerAfter (before cs : List Char) :
    (lowerAfter before cs).length = cs.length + cs.count dottedI := by
  induction cs generalizing before with
  | nil => rfl
  | cons c after ih =>
    rw [lowerAfter, List.length_append, (lowered_lowerChar before c after).length, ih,
      List.length_cons, List.count_cons]
    by_cases dotted : c = dottedI <;> simp [dotted] <;> omega

theorem isLetter_of_mem_lowerAfter (plain : dottedI ∉ cs) (letters : ∀ c ∈ cs, isLetter c = true) :
    ∀ d ∈ lowerAfter before cs, isLetter d = true := by
  induction cs generalizing before with
  | nil => exact List.forall_mem_nil _
  | cons c after ih =>
    obtain ⟨apart, behind⟩ := not_or.mp (mt List.mem_cons.mpr plain)
    obtain ⟨letter, rest⟩ := List.forall_mem_cons.mp letters
    have first := (lowered_lowerChar before c after).isLetter (Ne.symm apart) letter
    exact List.forall_mem_append.mpr ⟨first, ih behind rest⟩

private theorem dotAbove_mem_lowerAfter (dotted : dottedI ∈ cs) :
    dotAbove ∈ lowerAfter before cs := by
  induction cs generalizing before with
  | nil => cases dotted
  | cons c after ih =>
    rw [lowerAfter, List.mem_append]
    rcases List.mem_cons.mp dotted with rfl | behind
    · exact Or.inl (List.mem_cons_of_mem _ List.mem_cons_self)
    · exact Or.inr (ih behind)

end Small

section Texts

variable (s : String)

theorem toList_lower : (lower s).toList = lowerAfter [] s.toList :=
  String.toList_ofList

@[simp] theorem lower_lower : lower (lower s) = lower s := by
  rw [lower, toList_lower, lowerAfter_of_isSmall isSmall_of_mem_lowerAfter, lower]

theorem length_lower : (lower s).length = s.length + s.toList.count dottedI := by
  rw [← String.length_toList, toList_lower, length_lowerAfter, String.length_toList]

variable {s}

theorem dotAbove_mem_lower_iff (letters : ∀ c ∈ s.toList, isLetter c = true) :
    dotAbove ∈ (lower s).toList ↔ dottedI ∈ s.toList := by
  rw [toList_lower]
  constructor
  · intro marked
    by_contra plain
    have letter := isLetter_of_mem_lowerAfter plain letters dotAbove marked
    exact absurd letter (by decide +kernel)
  · exact fun dotted => dotAbove_mem_lowerAfter dotted

end Texts

end Case

end TypedRecords.Text
