import TypedRecords.Proofs.Numeric.Numeral
import TypedRecords.Proofs.Text.Reads
import TypedRecords.Toml.Document

/-!
Integers with too many digits in TOML.  A document is refused for such an integer only if its digits
stand in it, one behind the other or with underscores between them.
-/

set_option autoImplicit false

namespace TypedRecords.Toml

open TypedRecords.Numeric (digitLimit)
open TypedRecords.Text (Reads Skips Upward isPlainDigit)
open TypedRecords.Traversal

/-- That many digits, which are more than are converted, stand somewhere in a row in which there is
nothing but digits and underscores. -/
structure HasLongRun (count : Nat) (cs : List Char) : Prop where
  long : digitLimit < count
  run : ∃ run, run <:+: cs ∧ (∀ c ∈ run, isPlainDigit c = true ∨ c = '_') ∧
    (run.filter isPlainDigit).length = count

def Accounts (cs : List Char) (failure : Failure) : Prop :=
  ∀ count, failure = .tooManyDigits count → HasLongRun count cs

instance : Upward Accounts where
  up suffix account count same := by
    obtain ⟨long, run, within, plain, counted⟩ := account count same
    exact ⟨long, run, within.trans suffix.isInfix, plain, counted⟩

private theorem malformed_reads {α : Type} (cs : List Char) :
    Reads Accounts cs (.error .malformed : Except Failure (α × List Char)) :=
  .failed fun _ same => nomatch same

section Gaps

private theorem skipSpace_suffix (cs : List Char) : skipSpace cs <:+ cs :=
  List.dropWhile_suffix _

private theorem suffix_of_skipSpace {cs behind : List Char} {mark : Char}
    (found : skipSpace cs = mark :: behind) : behind <:+ cs :=
  (List.suffix_cons mark behind).trans (found ▸ skipSpace_suffix cs)

private theorem skipComment_skips (cs : List Char) : Skips Accounts cs (skipComment cs) := by
  unfold skipComment
  split
  · dsimp only
    split
    · exact .failed fun _ same => nomatch same
    · exact .done ((List.drop_suffix _ _).trans (List.suffix_cons _ _))
  · exact .done (List.suffix_refl _)

private theorem skipLines_skips (inComment : Bool) (cs : List Char) :
    Skips Accounts cs (skipLines inComment cs) := by
  fun_induction skipLines inComment cs
  case case1 => exact .done (List.suffix_refl _)
  case case3 => exact .failed fun _ same => nomatch same
  case case2 ih | case4 ih | case5 ih | case6 ih => exact ih.mono (List.suffix_cons _ _)
  case case7 => exact .done (List.suffix_refl _)

end Gaps

section Texts

section Quoted

variable {lines : Bool} {rest : List Char}
  (later : ∀ part, part <:+ rest →
    ∀ mode done, Reads Accounts part (readQuoted lines mode done part))

include later

private theorem readPlain_reads (done : List Char) (c : Char) :
    Reads Accounts (c :: rest) (readQuoted.readPlain lines done c rest) := by
  refine .mono (List.suffix_cons c rest) ?_
  unfold readQuoted.readPlain
  split
  · split
    · split
      · exact .done ⟨['"', '"'], rfl⟩
      · exact later _ (List.suffix_refl _) _ _
    · exact .done (List.suffix_refl _)
  split
  · split
    · exact malformed_reads _
    · rename_i e more
      have behind (front : List Char) {part : List Char} (same : front ++ part = e :: more)
          (mode : Mode) (done : List Char) :
          Reads Accounts (e :: more) (readQuoted lines mode done part) :=
        (later part ⟨front, same⟩ mode done).mono ⟨front, same⟩
      split
      · exact behind [e] rfl _ _
      split
      · exact behind [e] rfl _ _
      split
      · split
        · split
          · exact behind [_, _, _, _, _] rfl _ _
          · exact malformed_reads _
        · exact malformed_reads _
      split
      · split
        · split
          · exact behind [_, _, _, _, _, _, _, _, _] rfl _ _
          · exact malformed_reads _
        · exact malformed_reads _
      · split
        · exact behind [_] rfl _ _
        · exact malformed_reads _
  -- Which control characters may not stand here depends on the kind of text.
  split
  · split
    · exact malformed_reads _
    · exact later _ (List.suffix_refl _) _ _
  · split
    · exact malformed_reads _
    · exact later _ (List.suffix_refl _) _ _

end Quoted

/-- The reading goes on in what is left, so this is about all that can be left. -/
theorem readQuoted_reads_of_suffix (lines : Bool) (cs part : List Char) (suffix : part <:+ cs)
    (mode : Mode) (done : List Char) : Reads Accounts part (readQuoted lines mode done part) := by
  induction cs generalizing part mode done with
  | nil =>
    obtain rfl := List.suffix_nil.mp suffix
    unfold readQuoted
    exact malformed_reads _
  | cons c rest ih =>
    rcases List.suffix_cons_iff.mp suffix with rfl | inner
    · unfold readQuoted
      split
      · split
        · exact (ih rest (List.suffix_refl _) _ _).mono (List.suffix_cons _ _)
        split
        · exact (ih rest (List.suffix_refl _) _ _).mono (List.suffix_cons _ _)
        · exact malformed_reads _
      · split
        · exact (ih rest (List.suffix_refl _) _ _).mono (List.suffix_cons _ _)
        · exact readPlain_reads ih _ _
      · exact readPlain_reads ih _ _
    · exact ih part inner mode done

private theorem readQuoted_reads (lines : Bool) (mode : Mode) (done cs : List Char) :
    Reads Accounts cs (readQuoted lines mode done cs) :=
  readQuoted_reads_of_suffix lines cs cs (List.suffix_refl cs) mode done

private theorem readLiteral_reads (cs : List Char) : Reads Accounts cs (readLiteral cs) := by
  unfold readLiteral
  dsimp only
  split
  · exact malformed_reads _
  · rename_i c rest found
    split
    · exact malformed_reads _
    · exact .done ((List.suffix_cons c rest).trans (found ▸ List.drop_suffix _ _))

private theorem readLiteralLines_reads (done cs : List Char) :
    Reads Accounts cs (readLiteralLines done cs) := by
  fun_induction readLiteralLines done cs
  case case1 => exact malformed_reads _
  case case2 => exact .done ⟨[_, _, _], rfl⟩
  case case3 => exact malformed_reads _
  case case4 ih => exact ih.mono (List.suffix_cons _ _)

private theorem skipFirstLine_suffix (cs : List Char) : skipFirstLine cs <:+ cs := by
  unfold skipFirstLine
  split
  · exact List.suffix_cons _ _
  · exact List.suffix_refl _

private theorem withMoreMarks_suffix (mark : Char) (pair : String × List Char) :
    (withMoreMarks mark pair.1 pair.2).2 <:+ pair.2 :=
  List.drop_suffix _ _

private theorem readText?_reads {cs : List Char} {outcome : Except Failure (String × List Char)}
    (found : readText? cs = some outcome) : Reads Accounts cs outcome := by
  unfold readText? at found
  split at found
  · rename_i rest
    obtain rfl := Option.some.inj found
    have inside := (readQuoted_reads true .plain [] _).mono (skipFirstLine_suffix rest)
    exact (inside.mapRest (withMoreMarks_suffix '"')).mono ⟨[_, _, _], rfl⟩
  · obtain rfl := Option.some.inj found
    exact (readQuoted_reads false _ _ _).mono (List.suffix_cons _ _)
  · rename_i rest
    obtain rfl := Option.some.inj found
    have inside := (readLiteralLines_reads [] _).mono (skipFirstLine_suffix rest)
    exact (inside.mapRest (withMoreMarks_suffix '\x27')).mono ⟨[_, _, _], rfl⟩
  · obtain rfl := Option.some.inj found
    exact (readLiteral_reads _).mono (List.suffix_cons _ _)
  · cases found

private theorem readKeyPart_reads (cs : List Char) : Reads Accounts cs (readKeyPart cs) := by
  unfold readKeyPart
  split
  · exact (readQuoted_reads false _ _ _).mono (List.suffix_cons _ _)
  · exact (readLiteral_reads _).mono (List.suffix_cons _ _)
  · dsimp only
    split
    · exact malformed_reads _
    · exact .done (List.drop_suffix _ _)

private theorem readKey_reads (fuel : Nat) (cs : List Char) :
    Reads Accounts cs (readKey fuel cs) := by
  induction fuel generalizing cs with
  | zero => exact malformed_reads _
  | succ fuel ih =>
    refine (readKeyPart_reads cs).bind fun part rest _ => ?_
    dsimp only
    split
    · rename_i behind dot
      have later := (ih (skipSpace behind)).mono (skipSpace_suffix behind)
      exact (later.map fun parts => part :: parts).mono (suffix_of_skipSpace dot)
    · exact .done (skipSpace_suffix rest)

end Texts

/-- A row of digits and underscores stands at the front of some characters: the digits of the row,
what is behind it, and all characters. -/
inductive IsRow (isDigit : Char → Bool) : List Char → List Char → List Char → Prop
  | nil {cs : List Char} : IsRow isDigit [] cs cs
  | digit {c : Char} {digits behind rest : List Char} : isDigit c = true →
      IsRow isDigit digits behind rest → IsRow isDigit (c :: digits) behind (c :: rest)
  | underscore {digits behind rest : List Char} :
      IsRow isDigit digits behind rest → IsRow isDigit digits behind ('_' :: rest)

section Rows

variable {isDigit : Char → Bool} {digits behind cs : List Char}

private theorem IsRow.exists_run (apart : isDigit '_' = false)
    (row : IsRow isDigit digits behind cs) :
    ∃ run, cs = run ++ behind ∧ (∀ c ∈ run, isDigit c = true ∨ c = '_') ∧
      run.filter isDigit = digits := by
  induction row with
  | nil => exact ⟨[], rfl, List.forall_mem_nil _, rfl⟩
  | digit own _ ih =>
    obtain ⟨run, rfl, plain, same⟩ := ih
    exact ⟨_ :: run, rfl, List.forall_mem_cons.mpr ⟨Or.inl own, plain⟩, by
      rw [List.filter_cons_of_pos own, same]⟩
  | underscore _ ih =>
    obtain ⟨run, rfl, plain, same⟩ := ih
    exact ⟨'_' :: run, rfl, List.forall_mem_cons.mpr ⟨Or.inr rfl, plain⟩, by
      rw [List.filter_cons_of_neg (by simp [apart]), same]⟩

theorem IsRow.suffix (row : IsRow isDigit digits behind cs) : behind <:+ cs := by
  induction row with
  | nil => exact List.suffix_refl _
  | digit _ _ ih => exact ih.trans (List.suffix_cons _ _)
  | underscore _ ih => exact ih.trans (List.suffix_cons _ _)

private theorem splitTail_isRow (isDigit : Char → Bool) (cs : List Char) :
    IsRow isDigit (splitGroups.splitTail isDigit cs).1 (splitGroups.splitTail isDigit cs).2 cs := by
  fun_induction splitGroups.splitTail isDigit cs
  case case2 own _ _ split ih =>
    rw [split] at ih
    exact .digit own ih
  case case3 own _ _ split _ ih =>
    rw [split] at ih
    exact .underscore (.digit own ih)
  all_goals exact .nil

private theorem splitGroups_isRow (isDigit : Char → Bool) (cs : List Char) :
    IsRow isDigit (splitGroups isDigit cs).1 (splitGroups isDigit cs).2 cs := by
  unfold splitGroups
  split
  · exact .nil
  · split
    · rename_i c rest own
      exact .digit own (splitTail_isRow isDigit rest)
    · exact .nil

private theorem splitGroups_suffix (isDigit : Char → Bool) (cs : List Char) :
    (splitGroups isDigit cs).2 <:+ cs :=
  (splitGroups_isRow isDigit cs).suffix

end Rows

/-- What is left behind something that is split off stands at the end of the characters. -/
def Splits {α : Type} (cs : List Char) (found : Option (α × List Char)) : Prop :=
  ∀ result rest, found = some (result, rest) → rest <:+ cs

namespace Splits

variable {α β : Type} {cs rest : List Char} {found : Option (α × List Char)}

theorem some {result : α} (suffix : rest <:+ cs) : Splits cs (some (result, rest)) := by
  intro own left same
  obtain ⟨rfl, rfl⟩ := Prod.mk.inj (Option.some.inj same)
  exact suffix

theorem none : Splits cs (none : Option (α × List Char)) :=
  nofun

theorem mono {part : List Char} (suffix : part <:+ cs) (splits : Splits part found) :
    Splits cs found :=
  fun result rest same => (splits result rest same).trans suffix

theorem bind {next : α × List Char → Option (β × List Char)} (first : Splits cs found)
    (second : ∀ result rest, Splits rest (next (result, rest))) : Splits cs (found.bind next) := by
  intro result rest same
  obtain ⟨⟨own, left⟩, there, more⟩ := Option.bind_eq_some_iff.mp same
  exact (second own left result rest more).trans (first own left there)

private theorem afterMark {mark : Char} {next : List Char → Option (β × List Char)}
    (second : ∀ rest, Splits rest (next rest)) : Splits cs ((splitMark? mark cs).bind next) := by
  intro result rest same
  obtain ⟨left, there, more⟩ := Option.bind_eq_some_iff.mp same
  refine (second left result rest more).trans ?_
  unfold splitMark? at there
  split at there
  · split at there
    · exact Option.some.inj there ▸ List.suffix_cons _ _
    · cases there
  · cases there

end Splits

section Scalars

private theorem splitBased?_splits (cs : List Char) : Splits cs (splitBased? cs) := by
  unfold splitBased?
  split
  · rename_i letter rest
    intro result left found
    obtain ⟨base, -, found⟩ := Option.bind_eq_some_iff.mp found
    have suffix := splitGroups_suffix (isDigitOf base) rest
    split at found
    · cases found
    · rename_i digits behind _ split
      rw [split] at suffix
      obtain rfl : behind = left := congrArg Prod.snd (Option.some.inj found)
      exact suffix.trans ⟨['0', letter], rfl⟩
  · exact .none

private theorem splitPart?_splits (width least greatest : Nat) (cs : List Char) :
    Splits cs (splitPart? width least greatest cs) := by
  unfold splitPart?
  dsimp only
  split
  · exact .some (List.drop_suffix _ _)
  · exact .none

private theorem splitMicroseconds_suffix (cs : List Char) : (splitMicroseconds cs).2 <:+ cs := by
  unfold splitMicroseconds
  split
  · split
    · exact List.suffix_refl _
    · exact (List.drop_suffix _ _).trans (List.suffix_cons _ _)
  · exact List.suffix_refl _

private theorem splitTime?_splits (cs : List Char) : Splits cs (splitTime? cs) :=
  (splitPart?_splits _ _ _ cs).bind fun _ _ => .afterMark fun _ =>
    (splitPart?_splits _ _ _ _).bind fun _ _ => .afterMark fun _ =>
      (splitPart?_splits _ _ _ _).bind fun _ rest => .some (splitMicroseconds_suffix rest)

private theorem splitClock?_splits (cs : List Char) : Splits cs (splitClock? cs) :=
  (splitPart?_splits _ _ _ cs).bind fun _ _ => .afterMark fun _ =>
    (splitPart?_splits _ _ _ _).bind fun _ rest => .some (List.suffix_refl rest)

private theorem splitDay?_splits (cs : List Char) : Splits cs (splitDay? cs) :=
  (splitPart?_splits _ _ _ cs).bind fun _ _ => .afterMark fun _ =>
    (splitPart?_splits _ _ _ _).bind fun _ _ => .afterMark fun _ =>
      (splitPart?_splits _ _ _ _).bind fun _ rest => .some (List.suffix_refl rest)

private theorem splitOffset_suffix (cs : List Char) : (splitOffset cs).2 <:+ cs := by
  unfold splitOffset
  split
  · exact List.suffix_refl _
  · rename_i c rest
    split
    · exact List.suffix_cons _ _
    split
    · split
      · rename_i seconds behind found
        exact (splitClock?_splits rest seconds behind found).trans (List.suffix_cons _ _)
      · exact List.suffix_refl _
    · exact List.suffix_refl _

private theorem splitTimeBehindDay?_splits (cs : List Char) :
    Splits cs (splitTimeBehindDay? cs) := by
  unfold splitTimeBehindDay?
  split
  · split
    · exact (splitTime?_splits _).mono (List.suffix_cons _ _)
    · exact .none
  · exact .none

private theorem splitDate?_reads {cs : List Char} {outcome : Except Failure (Value × List Char)}
    (found : splitDate? cs = some outcome) : Reads Accounts cs outcome := by
  obtain ⟨⟨⟨year, month, day⟩, rest⟩, split, rfl⟩ := Option.map_eq_some_iff.mp found
  refine .mono (splitDay?_splits cs _ rest split) ?_
  dsimp only
  split
  · exact malformed_reads _
  · split
    · exact .done (List.suffix_refl _)
    · rename_i time behind timed
      exact .done ((splitOffset_suffix behind).trans
        (splitTimeBehindDay?_splits rest time behind timed))

private theorem splitWord?_splits (cs : List Char) : Splits cs (splitWord? cs) := by
  intro result rest found
  obtain ⟨⟨word, value⟩, -, same⟩ := Option.map_eq_some_iff.mp found
  obtain rfl : cs.drop word.length = rest := congrArg Prod.snd same
  exact List.drop_suffix _ _

theorem splitFraction_suffix (cs : List Char) : (splitFraction cs).2 <:+ cs := by
  unfold splitFraction
  split
  · rename_i rest
    have suffix := splitGroups_suffix isPlainDigit rest
    split
    · exact List.suffix_refl _
    · rename_i digits behind _ split
      rw [split] at suffix
      exact suffix.trans (List.suffix_cons _ _)
  · exact List.suffix_refl _

private theorem splitSign_suffix (cs : List Char) :
    (Numeric.LeadingNumber.splitSign cs).2 <:+ cs := by
  obtain ⟨sign, same, -⟩ := Numeric.LeadingNumber.exists_sign cs
  exact ⟨sign, same.symm⟩

theorem splitExponent_suffix (cs : List Char) : (splitExponent cs).2 <:+ cs := by
  unfold splitExponent
  split
  · exact List.suffix_refl _
  · rename_i e rest
    split
    · dsimp only
      have suffix := splitGroups_suffix isPlainDigit (Numeric.LeadingNumber.splitSign rest).2
      split
      · exact List.suffix_refl _
      · rename_i digits behind _ split
        rw [split] at suffix
        exact (suffix.trans (splitSign_suffix rest)).trans (List.suffix_cons _ _)
    · exact List.suffix_refl _

private theorem splitWhole_isRow (cs : List Char) :
    IsRow isPlainDigit (splitWhole cs).1 (splitWhole cs).2 cs := by
  unfold splitWhole
  split
  · exact .digit rfl .nil
  · exact splitGroups_isRow isPlainDigit _

private theorem splitDecimal?_reads {cs : List Char} {outcome : Except Failure (Value × List Char)}
    (found : splitDecimal? cs = some outcome) : Reads Accounts cs outcome := by
  unfold splitDecimal? at found
  dsimp only at found
  have row := splitWhole_isRow (Numeric.LeadingNumber.splitSign cs).2
  refine .mono (splitSign_suffix cs) ?_
  split at found
  · cases found
  · rename_i whole rest _ split
    rw [split] at row
    have behind := (splitExponent_suffix (splitFraction rest).2).trans
      ((splitFraction_suffix rest).trans row.suffix)
    split at found
    · split at found
      · rename_i long
        obtain rfl := Option.some.inj found
        obtain ⟨run, same, plain, counted⟩ := row.exists_run rfl
        refine .failed fun count refused => ?_
        obtain rfl := Failure.tooManyDigits.inj refused
        exact ⟨long, run, same ▸ (List.prefix_append run rest).isInfix, plain, by rw [counted]⟩
      · exact Option.some.inj found ▸ .done behind
    · exact Option.some.inj found ▸ .done behind

theorem readScalar_reads (cs : List Char) : Reads Accounts cs (readScalar cs) := by
  unfold readScalar
  split
  · rename_i found
    exact splitDate?_reads found
  split
  · rename_i time rest found
    exact .done (splitTime?_splits cs time rest found)
  split
  · rename_i result found
    exact .done (splitBased?_splits cs result.1 result.2 found)
  split
  · rename_i found
    exact splitDecimal?_reads found
  split
  · rename_i result found
    exact .done (splitWord?_splits cs result.1 result.2 found)
  · exact malformed_reads _

end Scalars

section Values

variable {fuel : Nat}

private theorem readValue_reads (items : ∀ cs, Reads Accounts cs (readItems fuel cs))
    (pairs : ∀ frozen fields cs, Reads Accounts cs (readPairs fuel frozen fields cs))
    (cs : List Char) : Reads Accounts cs (readValue (fuel + 1) cs) := by
  unfold readValue
  split
  · rename_i found
    exact (readText?_reads found).map Value.text
  split
  · rename_i rest _
    refine .mono (List.suffix_cons _ rest) ((skipLines_skips false rest).bind fun rest => ?_)
    split
    · exact .done (List.suffix_cons _ _)
    · exact (items _).bind fun items rest _ => .done (List.suffix_refl rest)
  · rename_i rest _
    refine .mono (List.suffix_cons _ rest) ?_
    split
    · rename_i closed
      exact .done (suffix_of_skipSpace closed)
    · exact ((pairs _ _ _).map Value.object).mono (skipSpace_suffix rest)
  · exact readScalar_reads _

private theorem readItems_reads (values : ∀ cs, Reads Accounts cs (readValue fuel cs))
    (items : ∀ cs, Reads Accounts cs (readItems fuel cs)) (cs : List Char) :
    Reads Accounts cs (readItems (fuel + 1) cs) := by
  unfold readItems
  refine (values cs).bind fun item rest _ => (skipLines_skips false rest).bind fun rest => ?_
  split
  · exact .done (List.suffix_cons _ _)
  · rename_i behind
    refine .mono (List.suffix_cons _ behind) ((skipLines_skips false behind).bind fun rest => ?_)
    split
    · exact .done (List.suffix_cons _ _)
    · exact (items _).bind fun items rest _ => .done (List.suffix_refl rest)
  · exact malformed_reads _

private theorem readPairs_reads (values : ∀ cs, Reads Accounts cs (readValue fuel cs))
    (pairs : ∀ frozen fields cs, Reads Accounts cs (readPairs fuel frozen fields cs))
    (frozen : List (List String)) (fields : Fields) (cs : List Char) :
    Reads Accounts cs (readPairs (fuel + 1) frozen fields cs) := by
  unfold readPairs
  refine (readKey_reads cs.length cs).bind fun key rest _ => ?_
  dsimp only
  split
  · rename_i behind _
    refine .mono ((skipSpace_suffix behind).trans (List.suffix_cons _ behind)) ?_
    refine (values _).bind fun value rest _ => ?_
    dsimp only
    split
    · exact malformed_reads _
    · split
      · rename_i closed
        exact .done (suffix_of_skipSpace closed)
      · rename_i behind comma
        exact ((pairs _ _ _).mono (skipSpace_suffix behind)).mono (suffix_of_skipSpace comma)
      · exact malformed_reads _
  · exact malformed_reads _

private theorem readers_read (fuel : Nat) :
    (∀ cs, Reads Accounts cs (readValue fuel cs)) ∧
      (∀ cs, Reads Accounts cs (readItems fuel cs)) ∧
      ∀ frozen fields cs, Reads Accounts cs (readPairs fuel frozen fields cs) := by
  induction fuel with
  | zero =>
    exact ⟨fun cs => malformed_reads cs, fun cs => malformed_reads cs,
      fun _ _ cs => malformed_reads cs⟩
  | succ fuel ih =>
    obtain ⟨values, items, pairs⟩ := ih
    exact ⟨readValue_reads items pairs, readItems_reads values items, readPairs_reads values pairs⟩

end Values

section Documents

variable {cs : List Char}

private theorem need_reads {α β : Type} {result : Option α}
    {next : α → Except Failure (β × List Char)}
    (reads : ∀ a, Reads Accounts cs (next a)) : Reads Accounts cs ((need result).bind next) := by
  cases result with
  | none => exact malformed_reads _
  | some a => exact reads a

private theorem readPair_reads (draft : Draft) (cs : List Char) :
    Reads Accounts cs (readPair draft cs) := by
  unfold readPair
  refine (readKey_reads cs.length cs).bind fun key rest _ => ?_
  dsimp only
  split
  · rename_i behind _
    refine .mono ((skipSpace_suffix behind).trans (List.suffix_cons _ behind)) ?_
    refine ((readers_read _).1 _).bind fun value rest _ => ?_
    exact need_reads fun _ => .done (List.suffix_refl rest)
  · exact malformed_reads _

private theorem readHeader_reads (draft : Draft) (cs : List Char) :
    Reads Accounts cs (readHeader draft cs) := by
  unfold readHeader
  dsimp only
  split
  · rename_i rest
    refine .mono ((skipSpace_suffix rest).trans (List.suffix_cons _ rest)) ?_
    refine (readKey_reads _ _).bind fun key rest _ => ?_
    dsimp only
    refine need_reads fun draft => ?_
    split
    · exact .done ⟨[_, _], rfl⟩
    · exact malformed_reads _
  · refine .mono (skipSpace_suffix cs) ?_
    refine (readKey_reads _ _).bind fun key rest _ => ?_
    dsimp only
    refine need_reads fun draft => ?_
    split
    · exact .done (List.suffix_cons _ _)
    · exact malformed_reads _

private theorem readStatement_reads (draft : Draft) (cs : List Char) :
    Reads Accounts cs (readStatement draft cs) := by
  unfold readStatement
  split
  · exact .done (List.suffix_refl _)
  split
  · exact (readHeader_reads draft _).mono (List.suffix_cons _ _)
  split
  · exact .done (List.suffix_refl _)
  split
  · exact readPair_reads draft _
  · exact malformed_reads _

private theorem accounts_of_readStatements {fuel : Nat} {draft : Draft} {failure : Failure}
    (failed : readStatements fuel draft cs = .error failure) : Accounts cs failure := by
  induction fuel generalizing draft cs with
  | zero =>
    obtain rfl := Except.error.inj failed
    exact nofun
  | succ fuel ih =>
    unfold readStatements at failed
    split at failed
    · cases failed
    · rename_i rest line
      exact Upward.up (suffix_of_skipSpace line) (ih failed)
    · refine Upward.up (skipSpace_suffix cs) ?_
      rcases bind_error_iff.mp failed with failed | ⟨⟨next, rest⟩, read, failed⟩
      · exact (readStatement_reads draft _).accounted failure failed
      refine Upward.up ((readStatement_reads draft _).left next rest read) ?_
      refine Upward.up (skipSpace_suffix rest) ?_
      rcases bind_error_iff.mp failed with failed | ⟨left, skipped, failed⟩
      · exact (skipComment_skips _).accounted failure failed
      refine Upward.up ((skipComment_skips _).left left skipped) ?_
      split at failed
      · cases failed
      · exact Upward.up (List.suffix_cons _ _) (ih failed)
      · obtain rfl := Except.error.inj failed
        exact nofun

/-- A document is refused for an integer with too many digits only if so many digits stand in a row
in it. -/
theorem hasLongRun_of_read {text : String} {count : Nat}
    (refused : read text = .error (.tooManyDigits count)) : HasLongRun count text.toList :=
  accounts_of_readStatements refused count rfl

end Documents

end TypedRecords.Toml
