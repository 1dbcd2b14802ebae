import TypedRecords.Proofs.SemanticType.Grammar
import TypedRecords.Proofs.Traversal

/-!
Reading a type accepts the texts of the grammar and no others, and gives the type that they spell.
-/

set_option autoImplicit false

namespace TypedRecords.SemanticType

open TypedRecords.Text (isBlank stripBlank Leaves leaves_nil leaves_cons leaves_append
  leaves_dropWhile takeWhile_append_of_leaves dropWhile_append_of_leaves)
open TypedRecords.Traversal (mapError_ok_iff)

section Argument

/-- The parentheses that are opened before some characters and closed within them: no beginning
closes more, and all of them together close just these. -/
structure Closes (depth : Nat) (cs : List Char) : Prop where
  opened : ∀ front, front <+: cs → front.count ')' ≤ depth + front.count '('
  closed : cs.count ')' = depth + cs.count '('

private theorem closes_zero_iff {cs : List Char} : Closes 0 cs ↔ Balanced cs := by
  constructor
  · rintro ⟨opened, closed⟩
    exact ⟨by simpa using opened, by simpa using closed⟩
  · rintro ⟨opened, closed⟩
    exact ⟨by simpa using opened, by simpa using closed⟩

private theorem depth_of_closes_nil {depth : Nat} (closes : Closes depth []) : depth = 0 := by
  simpa using closes.closed.symm

private theorem not_closes_zero_close (rest : List Char) : ¬ Closes 0 (')' :: rest) := by
  intro closes
  have first := closes.opened [')'] (by simp)
  simp at first

private theorem closes_cons_iff {depth deeper : Nat} {c : Char} {rest : List Char}
    (kept : depth + [c].count '(' = deeper + [c].count ')') :
    Closes depth (c :: rest) ↔ Closes deeper rest := by
  have count (front : List Char) (a : Char) :
      (c :: front).count a = [c].count a + front.count a := by
    rw [← List.count_append, List.singleton_append]
  have opens := count rest '('
  have shuts := count rest ')'
  constructor
  · rintro ⟨opened, closed⟩
    refine ⟨fun front start => ?_, by omega⟩
    have within := opened (c :: front) ((List.prefix_cons_inj c).mpr start)
    have frontOpens := count front '('
    have frontShuts := count front ')'
    omega
  · rintro ⟨opened, closed⟩
    refine ⟨fun front start => ?_, by omega⟩
    rcases List.prefix_cons_iff.mp start with rfl | ⟨later, rfl, within⟩
    · simp
    · have bound := opened later within
      have laterOpens := count later '('
      have laterShuts := count later ')'
      omega

/-- Characters up to a parenthesis that closes an argument, given those already passed. -/
def EndsArgument (depth : Nat) (done cs argument rest : List Char) : Prop :=
  ∃ inner, argument = done.reverse ++ inner ∧ cs = inner ++ ')' :: rest ∧ Closes depth inner

private theorem endsArgument_cons_iff {depth deeper : Nat} {c : Char}
    {done cs argument rest : List Char}
    (kept : depth + [c].count '(' = deeper + [c].count ')') (goesOn : c = ')' → depth ≠ 0) :
    EndsArgument depth done (c :: cs) argument rest ↔
      EndsArgument deeper (c :: done) cs argument rest := by
  constructor
  · rintro ⟨inner, rfl, split, closes⟩
    cases inner with
    | nil =>
      obtain ⟨rfl, -⟩ := List.cons.inj split
      exact absurd (depth_of_closes_nil closes) (goesOn rfl)
    | cons first inner =>
      obtain ⟨rfl, rfl⟩ := List.cons.inj split
      exact ⟨inner, by simp, rfl, (closes_cons_iff kept).mp closes⟩
  · rintro ⟨inner, rfl, rfl, closes⟩
    exact ⟨c :: inner, by simp, rfl, (closes_cons_iff kept).mpr closes⟩

private theorem endsArgument_close_iff {done cs argument rest : List Char} :
    EndsArgument 0 done (')' :: cs) argument rest ↔ argument = done.reverse ∧ cs = rest := by
  constructor
  · rintro ⟨inner, rfl, split, closes⟩
    cases inner with
    | nil =>
      obtain ⟨-, rfl⟩ := List.cons.inj split
      simp
    | cons first inner =>
      obtain ⟨rfl, -⟩ := List.cons.inj split
      exact absurd closes (not_closes_zero_close inner)
  · rintro ⟨rfl, rfl⟩
    exact ⟨[], by simp, rfl, closes_zero_iff.mpr ⟨by simp, rfl⟩⟩

private theorem splitArgument?_eq_some_iff {depth : Nat} {done cs argument rest : List Char} :
    splitArgument? depth done cs = some (argument, rest) ↔
      EndsArgument depth done cs argument rest := by
  -- Every character is passed over, with the count of open parentheses kept up, but the one that
  -- closes when none is open.
  induction cs generalizing depth done with
  | nil => simp [splitArgument?, EndsArgument]
  | cons c cs ih =>
    unfold splitArgument?
    by_cases opening : c = '('
    · rw [if_pos opening, ih]
      exact (endsArgument_cons_iff (by simp [opening]) (by simp [opening])).symm
    rw [if_neg opening]
    by_cases closing : c = ')'
    · rw [if_pos closing]
      cases depth with
      | succ depth =>
        exact ih.trans (endsArgument_cons_iff (by simp [closing]) (by simp)).symm
      | zero =>
        rw [closing, endsArgument_close_iff]
        simp [eq_comm]
    · rw [if_neg closing, ih]
      exact (endsArgument_cons_iff (by simp [opening, closing]) (absurd · closing)).symm

private theorem splitArgument?_zero_iff {cs argument rest : List Char} :
    splitArgument? 0 [] cs = some (argument, rest) ↔
      cs = argument ++ ')' :: rest ∧ Balanced argument := by
  rw [splitArgument?_eq_some_iff, ← closes_zero_iff]
  constructor
  · rintro ⟨inner, rfl, split, closes⟩
    exact ⟨split, closes⟩
  · rintro ⟨split, closes⟩
    exact ⟨argument, rfl, split, closes⟩

end Argument

section Front

/-- The beginning of a text as it is read: white space, a name as long as it goes, white space as
long as it goes, and what follows. -/
structure Front (before name outer rest : List Char) : Prop where
  blankBefore : Blank before
  named : IsName name
  blankOuter : Blank outer
  nameEnds : Leaves isNameChar (outer ++ rest)
  blankEnds : Leaves isBlank rest

variable {length fuel : Nat} {before name outer rest inside : List Char} {type : SemanticType}

private theorem skipBlank_append {front rest : List Char} (blank : Blank front)
    (leaves : Leaves isBlank rest) : skipBlank (front ++ rest) = rest :=
  dropWhile_append_of_leaves blank leaves

private theorem exists_blank_of_skipBlank {cs rest : List Char} (skipped : skipBlank cs = rest) :
    ∃ gap, Blank gap ∧ cs = gap ++ rest :=
  ⟨cs.takeWhile isBlank, List.all_eq_true.mp List.all_takeWhile,
    skipped ▸ List.takeWhile_append_dropWhile.symm⟩

private theorem isName_of_all {cs : List Char} (nonempty : cs ≠ [])
    (all : cs.all isNameChar = true) :
    IsName cs :=
  ⟨nonempty, fun c member => isNameChar_iff.mp (List.all_eq_true.mp all c member)⟩

theorem IsName.isNameChar (named : IsName name) : ∀ c ∈ name, isNameChar c = true :=
  fun c member => isNameChar_iff.mpr (named.chars c member)

private theorem IsName.leaves_isBlank (named : IsName name) (rest : List Char) :
    Leaves isBlank (name ++ rest) := by
  obtain ⟨first, more, rfl⟩ := List.exists_cons_of_ne_nil named.nonempty
  exact leaves_cons (isBlank_of_isNameChar (named.isNameChar first List.mem_cons_self)) _

private theorem exists_front (cs : List Char)
    (named : (skipBlank cs).takeWhile isNameChar ≠ []) :
    ∃ before name outer rest, cs = before ++ (name ++ (outer ++ rest)) ∧
      Front before name outer rest := by
  let start := skipBlank cs
  let behind := start.dropWhile isNameChar
  have outerEnds : behind.takeWhile isBlank ++ skipBlank behind = behind :=
    List.takeWhile_append_dropWhile
  have nameEnds : start.takeWhile isNameChar ++ behind = start :=
    List.takeWhile_append_dropWhile
  refine ⟨cs.takeWhile isBlank, start.takeWhile isNameChar, behind.takeWhile isBlank,
    skipBlank behind, ?_, ?_⟩
  · rw [outerEnds, nameEnds]
    exact List.takeWhile_append_dropWhile.symm
  · exact {
      blankBefore := List.all_eq_true.mp List.all_takeWhile
      named := isName_of_all named List.all_takeWhile
      blankOuter := List.all_eq_true.mp List.all_takeWhile
      nameEnds := outerEnds.symm ▸ leaves_dropWhile isNameChar start
      blankEnds := leaves_dropWhile isBlank behind }

private theorem exists_front_of_readType {cs : List Char}
    (made : readType length fuel cs = .ok (type, rest)) :
    ∃ before name outer more, cs = before ++ (name ++ (outer ++ more)) ∧
      Front before name outer more := by
  apply exists_front
  intro nameless
  cases fuel with
  | zero => cases made
  | succ fuel => simp [readType, nameless] at made

namespace Front

theorem start (front : Front before name outer rest) :
    skipBlank (before ++ (name ++ (outer ++ rest))) = name ++ (outer ++ rest) :=
  skipBlank_append front.blankBefore (front.named.leaves_isBlank _)

private theorem takeName (front : Front before name outer rest) :
    (name ++ (outer ++ rest)).takeWhile isNameChar = name :=
  takeWhile_append_of_leaves front.named.isNameChar front.nameEnds

private theorem dropName (front : Front before name outer rest) :
    (name ++ (outer ++ rest)).dropWhile isNameChar = outer ++ rest :=
  dropWhile_append_of_leaves front.named.isNameChar front.nameEnds

theorem next (front : Front before name outer rest) : skipBlank (outer ++ rest) = rest :=
  skipBlank_append front.blankOuter front.blankEnds

private theorem isEmpty_name (front : Front before name outer rest) : name.isEmpty = false := by
  simpa using front.named.nonempty

end Front

private theorem readType_alone_iff (front : Front before name outer rest)
    (alone : ∀ inside, rest ≠ '(' :: inside) {more : List Char} :
    readType length (fuel + 1) (before ++ (name ++ (outer ++ rest))) = .ok (type, more) ↔
      ofName (String.ofList name) = .ok type ∧ more = rest := by
  simp only [readType, front.start, front.takeName, front.dropName, front.next,
    front.isEmpty_name, Bool.false_eq_true, if_false]
  cases ofName (String.ofList name) <;> simp [Except.map, eq_comm]

private theorem readType_array_iff (front : Front before arrayName.toList outer ('(' :: inside))
    {more : List Char} :
    readType length (fuel + 1) (before ++ (arrayName.toList ++ (outer ++ '(' :: inside))) =
        .ok (type, more) ↔
      ∃ element left, readType length fuel inside = .ok (element, left) ∧
        skipBlank left = ')' :: more ∧ type = arrayOf element := by
  simp only [readType, front.start, front.takeName, front.dropName, front.next,
    front.isEmpty_name, Bool.false_eq_true, if_false, String.ofList_toList, if_true]
  cases readType length fuel inside with
  | error fault => simp
  | ok element =>
    obtain ⟨element, left⟩ := element
    dsimp only
    split
    · rename_i behind closed
      simp [closed, eq_comm, and_comm]
    · rename_i unclosed
      have remains : ∀ behind, skipBlank left ≠ ')' :: behind := unclosed
      simp [remains]

private theorem take_length_sub {cs front back : List Char} (split : cs = front ++ back) :
    cs.take (cs.length - back.length) = front := by
  rw [split, List.length_append, Nat.add_sub_cancel, List.take_left]

private theorem readType_argument_iff (front : Front before name outer ('(' :: inside))
    (notArray : String.ofList name ≠ arrayName) {more : List Char} :
    readType length (fuel + 1) (before ++ (name ++ (outer ++ '(' :: inside))) =
        .ok (type, more) ↔
      ∃ argument, inside = argument ++ ')' :: more ∧ Balanced argument ∧
        type = ofArgument (String.ofList name) (String.ofList (stripBlank argument))
          (String.ofList (name ++ outer ++ '(' :: (argument ++ [')']))) := by
  simp only [readType, front.start, front.takeName, front.dropName, front.next,
    front.isEmpty_name, Bool.false_eq_true, if_false, notArray]
  cases found : splitArgument? 0 [] inside with
  | none =>
    constructor
    · intro made
      cases made
    · rintro ⟨argument, split, balanced, -⟩
      rw [splitArgument?_zero_iff.mpr ⟨split, balanced⟩] at found
      cases found
  | some pair =>
    obtain ⟨own, left⟩ := pair
    have whole : name ++ (outer ++ '(' :: inside) =
        (name ++ outer ++ '(' :: (own ++ [')'])) ++ left := by
      simp [(splitArgument?_zero_iff.mp found).1]
    have spelled := take_length_sub whole
    simp only [spelled]
    constructor
    · intro made
      cases made
      obtain ⟨split, balanced⟩ := splitArgument?_zero_iff.mp found
      exact ⟨own, split, balanced, rfl⟩
    · rintro ⟨argument, split, balanced, rfl⟩
      have same := found.symm.trans (splitArgument?_zero_iff.mpr ⟨split, balanced⟩)
      cases same
      rfl

end Front

section Whole

variable {length fuel : Nat} {type : SemanticType}

/-- What is read at the front of a text is white space, the spelling of a type, and white space of
which some may be left. -/
theorem spells_of_readType {cs rest : List Char}
    (made : readType length fuel cs = .ok (type, rest)) :
    ∃ before spelling after, cs = before ++ spelling ++ after ++ rest ∧
      Blank before ∧ Blank after ∧ Spells spelling type := by
  induction fuel generalizing cs type rest with
  | zero => cases made
  | succ fuel ih =>
    obtain ⟨before, name, outer, more, rfl, front⟩ := exists_front_of_readType made
    by_cases argument : ∃ inside, more = '(' :: inside
    · obtain ⟨inside, rfl⟩ := argument
      by_cases array : String.ofList name = arrayName
      · have same : name = arrayName.toList := by simp [← array]
        subst same
        obtain ⟨element, left, inner, closed, rfl⟩ := (readType_array_iff front).mp made
        obtain ⟨first, spelling, last, rfl, blankFirst, blankLast, spells⟩ := ih inner
        obtain ⟨gap, blankGap, rfl⟩ := exists_blank_of_skipBlank closed
        refine ⟨before, _, [], ?_, front.blankBefore, by simp [Blank],
          .array front.blankOuter blankFirst (blankLast.append blankGap) spells⟩
        simp
      · obtain ⟨argument, rfl, balanced, rfl⟩ := (readType_argument_iff front array).mp made
        refine ⟨before, _, [], ?_, front.blankBefore, by simp [Blank],
          spells_ofArgument front.named array front.blankOuter balanced⟩
        simp
    · have alone : ∀ inside, more ≠ '(' :: inside := not_exists.mp argument
      obtain ⟨found, rfl⟩ := (readType_alone_iff front alone).mp made
      refine ⟨before, name, outer, ?_, front.blankBefore, front.blankOuter,
        spells_of_ofName front.named found⟩
      simp

/-- What stands behind a type: nothing, or the parenthesis that closes an array. -/
def IsEnd (rest : List Char) : Prop :=
  rest = [] ∨ ∃ behind, rest = ')' :: behind

theorem IsEnd.leaves {rest : List Char} (ends : IsEnd rest) {within : Char → Bool}
    (outside : within ')' = false) : Leaves within rest := by
  rcases ends with rfl | ⟨behind, rfl⟩
  · exact leaves_nil within
  · exact leaves_cons outside behind

private theorem front_of_isName {before name outer rest : List Char} (blankBefore : Blank before)
    (named : IsName name) (blankOuter : Blank outer) (notName : Leaves isNameChar rest)
    (notBlank : Leaves isBlank rest) : Front before name outer rest where
  blankBefore := blankBefore
  named := named
  blankOuter := blankOuter
  nameEnds := leaves_append (fun c member => isNameChar_of_isBlank (blankOuter c member)) notName
  blankEnds := notBlank

private theorem isName_known (kind : LeafKind) : IsName kind.name.toList := by
  cases kind <;> exact isName_of_all (by decide) (by decide +kernel)

private theorem isName_array : IsName arrayName.toList :=
  isName_of_all (by decide) (by decide +kernel)

section Complete

variable {before after rest : List Char} (blankBefore : Blank before) (blankAfter : Blank after)
  (ends : IsEnd rest)

/-- The reader takes a type from the front and leaves what stands behind it, perhaps with white
space before that. -/
def TakesType (length fuel : Nat) (cs : List Char) (type : SemanticType) (rest : List Char) :
    Prop :=
  ∃ left, readType length fuel cs = .ok (type, left) ∧ skipBlank left = rest

include blankBefore blankAfter ends

private theorem takesType_of_name {name : List Char} (named : IsName name)
    (found : ofName (String.ofList name) = .ok type) :
    TakesType length (fuel + 1) (before ++ name ++ after ++ rest) type rest := by
  have front : Front before name after rest :=
    front_of_isName blankBefore named blankAfter (ends.leaves (by decide)) (ends.leaves (by decide))
  have alone : ∀ inside, rest ≠ '(' :: inside := by
    rintro inside rfl
    rcases ends with none | ⟨behind, other⟩
    · cases none
    · cases other
  have read : readType length (fuel + 1) (before ++ (name ++ (after ++ rest))) = .ok (type, rest) :=
    (readType_alone_iff front alone).mpr ⟨found, rfl⟩
  have stays : skipBlank ([] ++ rest) = rest :=
    skipBlank_append (by simp [Blank]) (ends.leaves (by decide))
  exact ⟨rest, by simpa using read, stays⟩

private theorem takesType_of_argument {name outer argument : List Char} (named : IsName name)
    (notArray : String.ofList name ≠ arrayName) (blankOuter : Blank outer)
    (balanced : Balanced argument)
    (made : ofArgument (String.ofList name) (String.ofList (stripBlank argument))
      (String.ofList (name ++ outer ++ '(' :: (argument ++ [')']))) = type) :
    TakesType length (fuel + 1)
      (before ++ (name ++ outer ++ '(' :: (argument ++ [')'])) ++ after ++ rest) type rest := by
  have front : Front before name outer ('(' :: (argument ++ ')' :: (after ++ rest))) :=
    front_of_isName blankBefore named blankOuter (leaves_cons (by decide) _)
      (leaves_cons (by decide) _)
  have read : readType length (fuel + 1)
      (before ++ (name ++ (outer ++ '(' :: (argument ++ ')' :: (after ++ rest))))) =
        .ok (type, after ++ rest) :=
    (readType_argument_iff front notArray).mpr ⟨argument, rfl, balanced, made.symm⟩
  exact ⟨after ++ rest, by simpa using read,
    skipBlank_append blankAfter (ends.leaves (by decide))⟩

private theorem takesType_of_array {outer first element last : List Char} (blankOuter : Blank outer)
    (inner : TakesType length fuel (first ++ element ++ last ++ ')' :: (after ++ rest)) type
      (')' :: (after ++ rest))) :
    TakesType length (fuel + 1)
      (before ++ (arrayName.toList ++ outer ++ '(' :: (first ++ element ++ last ++ [')'])) ++
        after ++ rest) (arrayOf type) rest := by
  obtain ⟨left, taken, closed⟩ := inner
  have front : Front before arrayName.toList outer
      ('(' :: (first ++ element ++ last ++ ')' :: (after ++ rest))) :=
    front_of_isName blankBefore isName_array blankOuter (leaves_cons (by decide) _)
      (leaves_cons (by decide) _)
  have read : readType length (fuel + 1) (before ++ (arrayName.toList ++
      (outer ++ '(' :: (first ++ element ++ last ++ ')' :: (after ++ rest))))) =
        .ok (arrayOf type, after ++ rest) :=
    (readType_array_iff front).mpr ⟨type, left, taken, closed, rfl⟩
  exact ⟨after ++ rest, by simpa using read,
    skipBlank_append blankAfter (ends.leaves (by decide))⟩

end Complete

/-- Every spelling is read to its end, whatever white space there is before and behind it.  Each
level of arrays is written with more characters than it takes of the fuel. -/
theorem takesType_of_spells {spelling : List Char} (spells : Spells spelling type) :
    ∀ {fuel before after rest}, spelling.length ≤ fuel → Blank before → Blank after → IsEnd rest →
      TakesType length (fuel + 1) (before ++ spelling ++ after ++ rest) type rest := by
  induction spells with
  | @known kind known =>
    intro fuel before after rest _ blankBefore blankAfter ends
    have found : ofName (String.ofList kind.name.toList) = .ok (.plain kind) := by
      simpa using ofName_of_known known
    exact takesType_of_name blankBefore blankAfter ends (isName_known kind) found
  | unknown named notArray beyond =>
    intro fuel before after rest _ blankBefore blankAfter ends
    exact takesType_of_name blankBefore blankAfter ends named (ofName_of_unknown notArray beyond)
  | @array outer first element last type blankOuter blankFirst blankLast _ ih =>
    intro fuel before after rest enough blankBefore blankAfter ends
    obtain ⟨fuel, rfl⟩ : ∃ less, fuel = less + 1 := ⟨fuel - 1, by simp at enough; omega⟩
    have shorter : element.length ≤ fuel := by
      simp at enough
      omega
    exact takesType_of_array blankBefore blankAfter ends blankOuter
      (ih shorter blankFirst blankLast (Or.inr ⟨after ++ rest, rfl⟩))
  | measure blankOuter balanced =>
    intro fuel before after rest _ blankBefore blankAfter ends
    exact takesType_of_argument blankBefore blankAfter ends (isName_known .measure) (by decide)
      blankOuter balanced rfl
  | entity blankOuter balanced =>
    intro fuel before after rest _ blankBefore blankAfter ends
    exact takesType_of_argument blankBefore blankAfter ends (isName_known .entity) (by decide)
      blankOuter balanced rfl
  | other named notArray notMeasure notEntity blankOuter balanced =>
    intro fuel before after rest _ blankBefore blankAfter ends
    exact takesType_of_argument blankBefore blankAfter ends named notArray blankOuter balanced
      (by rw [ofArgument, if_neg notMeasure, if_neg notEntity])

private theorem readWhole_ok_iff {cs : List Char} :
    readWhole cs = .ok type ↔
      ∃ before spelling after, cs = before ++ spelling ++ after ∧ Blank before ∧ Blank after ∧
        Spells spelling type := by
  unfold readWhole
  constructor
  · intro made
    split at made
    · cases made
    rename_i found rest read
    split at made
    · rename_i empty
      cases made
      obtain ⟨gap, blankGap, rfl⟩ := exists_blank_of_skipBlank empty
      obtain ⟨before, spelling, after, split, blankBefore, blankAfter, spells⟩ :=
        spells_of_readType read
      exact ⟨before, spelling, after ++ gap, by simpa using split, blankBefore,
        blankAfter.append blankGap, spells⟩
    · cases made
  · rintro ⟨before, spelling, after, rfl, blankBefore, blankAfter, spells⟩
    obtain ⟨left, read, finished⟩ :
        TakesType (Text.width (before ++ spelling ++ after))
          ((before ++ spelling ++ after).length + 1) (before ++ spelling ++ after ++ []) type [] :=
      takesType_of_spells spells (by simp; omega) blankBefore blankAfter (Or.inl rfl)
    rw [List.append_nil] at read
    simp only [read, finished]

theorem read_eq_ok_iff {text : String} : read text = .ok type ↔ IsSpelling text type :=
  mapError_ok_iff.trans readWhole_ok_iff

theorem isComplete_of_spells {spelling : List Char} (spells : Spells spelling type) :
    type.isComplete = true := by
  induction spells with
  | array _ _ _ _ ih => exact ih
  | _ => rfl

end Whole

/-- A text is read as a type exactly when it spells the type, and the type is complete.  Of every
other text it is said how it departs from the form of a type. -/
theorem read_ok_iff (text : String) :
    (∀ type, read text = .ok type ↔ IsSpelling text type) ∧
      ((∃ fault, read text = .error ⟨text, fault⟩) ↔ ¬ ∃ type, IsSpelling text type) ∧
      ∀ type, read text = .ok type → type.isComplete = true := by
  have accepted (type : SemanticType) : read text = .ok type ↔ IsSpelling text type :=
    mapError_ok_iff.trans readWhole_ok_iff
  refine ⟨accepted, ?_, ?_⟩
  · constructor
    · rintro ⟨fault, refused⟩ ⟨type, spelling⟩
      rw [(accepted type).mpr spelling] at refused
      cases refused
    · intro unspelled
      cases whole : readWhole text.toList with
      | error fault => exact ⟨fault, by simp [read, whole, Except.mapError]⟩
      | ok type => exact absurd ⟨type, readWhole_ok_iff.mp whole⟩ unspelled
  · intro type made
    obtain ⟨before, spelling, after, -, -, -, spells⟩ := (accepted type).mp made
    exact isComplete_of_spells spells

/-- An array of a type beyond the vocabulary, with white space wherever it may be. -/
theorem read_ok_iff_nested :
    let text := " Array ( Enum (on,(off) ) )"
    let type := arrayOf (.leaf .other { TypeLabels.none with name := some "Enum (on,(off) )" })
    read text = .ok type ∧ IsSpelling text type ∧ type.isComplete = true := by
  intro text type
  have made : read text = .ok type := by decide +kernel
  obtain ⟨accepted, -, complete⟩ := read_ok_iff text
  exact ⟨made, (accepted type).mp made, complete type made⟩

end TypedRecords.SemanticType
