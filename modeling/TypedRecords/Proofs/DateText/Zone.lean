import TypedRecords.DateText.Moment
import TypedRecords.Proofs.Traversal

/-!
The zone in the text of a date.  Numbers, months and halves of the day leave its name and its offset
as they were, and the name of a zone takes the offset back or makes it zero.  So where there is
another offset, it is the one of a sign with hours, and perhaps minutes, behind it, unless the name
is one that the clock knows: then the clock tells the offset.
-/

set_option autoImplicit false

namespace TypedRecords.DateText

open TypedRecords.Calendar (Clock Moment)
open TypedRecords.Traversal

variable {clock : Clock}

def SameZone (found result : Findings) : Prop :=
  (result.zoneName, result.zoneOffset) = (found.zoneName, found.zoneOffset)

def KeepsZone (found : Findings) (outcome : Except Failure (Findings × Nat)) : Prop :=
  Yields outcome fun result => SameZone found result.1

section Keeps

variable (tokens : List String) (i : Nat) (token : String) (found : Findings) (q : Quantity)

private theorem setMinute_sameZone : Yields (found.setMinute q) (SameZone found) :=
  yields_map fun _ => rfl

private theorem setSecond_sameZone (cs : List Char) :
    Yields (found.setSecond cs) (SameZone found) :=
  yields_map fun _ => rfl

private theorem setHour_sameZone : Yields (found.setHour q) (SameZone found) :=
  yields_map fun _ => rfl

private theorem setUnit_sameZone (unit : Nat) :
    Yields (found.setUnit token q unit) (SameZone found) := by
  unfold Findings.setUnit
  split
  · exact setHour_sameZone found q
  · exact setMinute_sameZone found q
  · exact setSecond_sameZone found _
  · exact yields_ok rfl

private theorem readWithUnit_keepsZone (unitAt : Nat) :
    KeepsZone found (readWithUnit tokens i unitAt token q found) := by
  unfold readWithUnit
  refine yields_bind fun unit => ?_
  split
  · exact (setUnit_sameZone token found q unit).bind fun _ same => yields_ok same
  · exact (setUnit_sameZone token found q (unit + 1)).bind fun _ same => yields_ok same

private theorem readShortTime_sameZone : Yields (readShortTime token found) (SameZone found) := by
  unfold readShortTime
  refine yields_bind fun hour => ?_
  split
  · exact yields_bind fun minute => yields_ok rfl
  · exact yields_ok rfl

private theorem readSix_sameZone : Yields (readSix token found) (SameZone found) := by
  unfold readSix
  split
  · exact yields_bind fun _ => yields_bind fun _ => yields_bind fun _ => yields_ok rfl
  · refine yields_bind fun hour => yields_bind fun minute => ?_
    exact setSecond_sameZone { found with hour := some hour, minute := some minute } _

private theorem readLong_sameZone : Yields (readLong token found) (SameZone found) := by
  unfold readLong
  refine yields_bind fun _ => yields_bind fun _ => yields_bind fun parts => ?_
  dsimp only
  split
  · exact yields_ok rfl
  refine yields_bind fun hour => yields_bind fun minute => ?_
  split
  · exact yields_ok rfl
  · exact yields_bind fun second => yields_ok rfl

private theorem readClock_keepsZone : KeepsZone found (readClock tokens i q found) := by
  unfold readClock
  refine yields_bind fun behind => yields_bind fun minute => ?_
  refine (setMinute_sameZone { found with hour := some q.whole } minute).bind fun timed same => ?_
  split
  · refine yields_bind fun second => ?_
    exact (setSecond_sameZone timed _).bind fun _ again => yields_ok (again.trans same)
  · exact yields_ok same

private theorem readSeparated_keepsZone (separator : String) :
    KeepsZone found (readSeparated tokens i token separator found) := by
  unfold readSeparated
  refine yields_bind fun parts => ?_
  split
  · exact yields_ok rfl
  · split
    · exact yields_ok rfl
    dsimp only
    -- the second part is digits or a month, and what comes behind it is read alike
    split
    all_goals
      refine yields_bind fun parts => ?_
      split
      · exact yields_bind fun third => yields_bind fun parts => yields_ok rfl
      · exact yields_ok rfl

private theorem readNumber_keepsZone : KeepsZone found (readNumber tokens i token found) := by
  unfold readNumber
  refine yields_bind fun q => ?_
  dsimp only
  split
  · exact (readShortTime_sameZone token found).bind fun _ same => yields_ok same
  split
  · exact (readSix_sameZone token found).bind fun _ same => yields_ok same
  split
  · exact (readLong_sameZone token found).bind fun _ same => yields_ok same
  split
  · exact readWithUnit_keepsZone tokens i token found q _
  split
  · exact readClock_keepsZone tokens i found q
  split
  · exact yields_bind fun parts => yields_ok rfl
  split
  · exact readSeparated_keepsZone tokens i token found _
  split
  · split
    · exact yields_ok rfl
    · exact yields_bind fun parts => yields_ok rfl
  split
  · exact yields_ok rfl
  split
  · exact yields_bind fun parts => yields_ok rfl
  · exact yields_error _

private theorem readBehindMonth_keepsZone :
    KeepsZone found (readBehindMonth clock tokens i found) := by
  unfold readBehindMonth
  split
  · exact yields_ok rfl
  split
  · refine yields_bind fun day => yields_bind fun parts => ?_
    split
    · exact yields_bind fun year => yields_bind fun parts => yields_ok rfl
    · exact yields_ok rfl
  split
  · split
    · exact yields_ok rfl
    split
    · exact yields_bind fun year => yields_bind fun parts => yields_ok rfl
    · exact yields_ok rfl
  · exact yields_ok rfl

end Keeps

section Signs

variable {tokens others further : List String} {i : Nat}

/-- The tokens are the same, but that signs may have been turned round. -/
def AlikeButSigns (tokens others : List String) : Prop :=
  ∀ j : Nat, others[j]? = tokens[j]? ∨
    ∃ sign other, tokens[j]? = some sign ∧ others[j]? = some other ∧
      isSign sign = true ∧ isSign other = true

theorem AlikeButSigns.refl (tokens : List String) : AlikeButSigns tokens tokens :=
  fun _ => Or.inl rfl

theorem AlikeButSigns.symm (alike : AlikeButSigns tokens others) : AlikeButSigns others tokens := by
  intro j
  rcases alike j with same | ⟨sign, other, here, there, signs⟩
  · exact Or.inl same.symm
  · exact Or.inr ⟨other, sign, there, here, signs.symm⟩

private theorem AlikeButSigns.of_plain (alike : AlikeButSigns tokens others) {j : Nat}
    {token : String} (found : others[j]? = some token) (plain : isSign token = false) :
    tokens[j]? = some token := by
  rcases alike j with same | ⟨sign, other, -, there, -, isOther⟩
  · rw [← same, found]
  · obtain rfl := Option.some.inj (there.symm.trans found)
    rw [plain] at isOther
    cases isOther

private theorem AlikeButSigns.of_sign (alike : AlikeButSigns tokens others) {j : Nat}
    {token : String} (found : others[j]? = some token) (sign : isSign token = true) :
    ∃ sign, tokens[j]? = some sign ∧ isSign sign = true := by
  rcases alike j with same | ⟨own, other, here, -, isOwn, -⟩
  · exact ⟨token, same.symm.trans found, sign⟩
  · exact ⟨own, here, isOwn⟩

private theorem isSign_iff {token : String} : isSign token = true ↔ token = "+" ∨ token = "-" := by
  simp [isSign]

private theorem isSign_otherSign (sign : String) : isSign (otherSign sign) = true := by
  unfold otherSign
  split <;> rfl

private theorem alikeButSigns_set {next : String} (found : tokens[i]? = some next)
    (sign : isSign next = true) : AlikeButSigns tokens (tokens.set i (otherSign next)) := by
  obtain ⟨bound, -⟩ := List.getElem?_eq_some_iff.mp found
  intro j
  by_cases here : i = j
  · subst here
    exact Or.inr ⟨next, otherSign next, found, List.getElem?_set_self bound, sign,
      isSign_otherSign next⟩
  · exact Or.inl (List.getElem?_set_ne here)

private theorem not_isSign_of_natural {token : String} {n : Nat}
    (number : natural token.toList = .ok n) : isSign token = false := by
  refine Bool.eq_false_iff.mpr fun sign => ?_
  rcases isSign_iff.mp sign with rfl | rfl <;> cases number

private theorem not_isSign_of_length {token : String} (long : token.length = 4) :
    isSign token = false := by
  refine Bool.eq_false_iff.mpr fun sign => ?_
  rcases isSign_iff.mp sign with rfl | rfl <;> cases long

end Signs

section Offset

variable {tokens others : List String} {i : Nat}

/-- Hours and minutes behind the token at a position: four digits together, digits on the two sides
of a colon, or one or two digits of hours alone. -/
inductive OffsetDigits (tokens : List String) (i : Nat) : Nat → Nat → Prop
  | joined {digits : String} {hours minutes : Nat} : tokens[i + 1]? = some digits →
      digits.length = 4 → natural (slice digits 0 2) = .ok hours →
        natural (slice digits 2 4) = .ok minutes → OffsetDigits tokens i hours minutes
  | divided {first second : String} {hours minutes : Nat} : tokens[i + 1]? = some first →
      tokens[i + 2]? = some ":" → tokens[i + 3]? = some second →
        natural first.toList = .ok hours → natural second.toList = .ok minutes →
          OffsetDigits tokens i hours minutes
  | alone {digits : String} {hours : Nat} : tokens[i + 1]? = some digits → digits.length ≤ 2 →
      natural digits.toList = .ok hours → OffsetDigits tokens i hours 0

/-- The offset has the hours and minutes that stand behind a sign. -/
def IsWritten (tokens : List String) (offset : Int) : Prop :=
  ∃ (i : Nat) (sign : String) (hours minutes : Nat), tokens[i]? = some sign ∧
    isSign sign = true ∧ OffsetDigits tokens i hours minutes ∧
      offset.natAbs = 3600 * hours + 60 * minutes

structure IsZoned (tokens : List String) (found : Findings) : Prop where
  offset : ∀ offset, found.zoneOffset = some offset → offset = 0 ∨ IsWritten tokens offset
  name : ∀ name, found.zoneName = some name → name ∈ tokens ∧ isZoneName name = true

theorem need_ok_iff {α : Type} {o : Option α} {a : α} : need o = .ok a ↔ o = some a := by
  cases o <;> simp [need]

private theorem getElem?_of_tokenEq {token : String} (same : tokenEq tokens i token = true) :
    tokens[i]? = some token := by
  unfold tokenEq tokenIs at same
  obtain ⟨own, found, equal⟩ := (Option.any_eq_true _ _).mp same
  rw [found, eq_of_beq equal]

private theorem readOffsetDigits_ok {hours minutes last : Nat}
    (made : readOffsetDigits tokens i = .ok (hours, minutes, last)) :
    OffsetDigits tokens i hours minutes := by
  obtain ⟨digits, behind, made⟩ := bind_ok_iff.mp made
  have first := need_ok_iff.mp behind
  split at made
  · rename_i four
    obtain ⟨h, readHours, made⟩ := bind_ok_iff.mp made
    obtain ⟨m, readMinutes, made⟩ := bind_ok_iff.mp made
    cases made
    exact .joined first four readHours readMinutes
  split at made
  · rename_i colon
    obtain ⟨h, readHours, made⟩ := bind_ok_iff.mp made
    obtain ⟨token, further, made⟩ := bind_ok_iff.mp made
    obtain ⟨m, readMinutes, made⟩ := bind_ok_iff.mp made
    cases made
    exact .divided first (getElem?_of_tokenEq colon) (need_ok_iff.mp further) readHours readMinutes
  split at made
  · rename_i short
    obtain ⟨h, readHours, made⟩ := bind_ok_iff.mp made
    cases made
    exact .alone first short readHours
  · cases made

private theorem OffsetDigits.of_alike {hours minutes : Nat}
    (digits : OffsetDigits others i hours minutes)
    (alike : AlikeButSigns tokens others) : OffsetDigits tokens i hours minutes := by
  cases digits with
  | joined first four readHours readMinutes =>
    exact .joined (alike.of_plain first (not_isSign_of_length four)) four readHours readMinutes
  | divided first colon second readHours readMinutes =>
    exact .divided (alike.of_plain first (not_isSign_of_natural readHours))
      (alike.of_plain colon rfl) (alike.of_plain second (not_isSign_of_natural readMinutes))
      readHours readMinutes
  | alone first short readHours =>
    exact .alone (alike.of_plain first (not_isSign_of_natural readHours)) short readHours

private theorem IsWritten.of_alike {offset : Int} (written : IsWritten others offset)
    (alike : AlikeButSigns tokens others) : IsWritten tokens offset := by
  obtain ⟨i, sign, hours, minutes, found, isSign, digits, size⟩ := written
  obtain ⟨own, there, isOwn⟩ := alike.of_sign found isSign
  exact ⟨i, own, hours, minutes, there, isOwn, digits.of_alike alike, size⟩

private theorem not_isSign_of_isZoneName {token : String} (named : isZoneName token = true) :
    isSign token = false := by
  refine Bool.eq_false_iff.mpr fun sign => ?_
  rcases isSign_iff.mp sign with rfl | rfl <;> revert named <;> decide +kernel

private theorem IsZoned.of_alike {found : Findings} (zoned : IsZoned others found)
    (alike : AlikeButSigns tokens others) : IsZoned tokens found where
  offset offset known := (zoned.offset offset known).imp_right fun written => written.of_alike alike
  name name known := by
    obtain ⟨member, named⟩ := zoned.name name known
    obtain ⟨j, here⟩ := List.mem_iff_getElem?.mp member
    exact ⟨List.mem_of_getElem? (alike.of_plain here (not_isSign_of_isZoneName named)), named⟩

private theorem IsZoned.of_sameZone {found result : Findings} (zoned : IsZoned tokens found)
    (same : SameZone found result) : IsZoned tokens result := by
  obtain ⟨name, offset⟩ := Prod.mk.inj same
  exact ⟨fun own known => zoned.offset own (offset.symm.trans known),
    fun own known => zoned.name own (name.symm.trans known)⟩

end Offset

section Reading

variable {tokens : List String} {i : Nat} {token : String} {found : Findings}

private theorem zoneNameBehind?_eq_some {name : String}
    (behind : zoneNameBehind? tokens i found = some name) :
    name ∈ tokens ∧ isZoneName name = true := by
  unfold zoneNameBehind? at behind
  split at behind
  · rename_i conditions
    obtain ⟨-, -, -, -, -, holds⟩ := conditions
    rw [tokenIs, behind, Option.any_some, Bool.and_eq_true] at holds
    exact ⟨List.mem_of_getElem? behind, holds.2⟩
  · cases behind

private theorem readOffset_isZoned (here : tokens[i]? = some token) (sign : isSign token = true)
    (zoned : IsZoned tokens found) (negative : Bool) :
    Yields (readOffset tokens i negative found) fun result => IsZoned tokens result.1 := by
  rintro ⟨result, last⟩ made
  obtain ⟨⟨hours, minutes, stop⟩, digits, made⟩ := bind_ok_iff.mp made
  have behind := readOffsetDigits_ok digits
  have written (offset : Int) (own : some (if negative then -(3600 * hours + 60 * minutes : Int)
      else 3600 * hours + 60 * minutes) = some offset) : offset = 0 ∨ IsWritten tokens offset := by
    obtain rfl := Option.some.inj own
    refine Or.inr ⟨i, token, hours, minutes, here, sign, behind, ?_⟩
    split <;> omega
  dsimp only at made
  split at made
  · rename_i name named
    cases made
    refine ⟨written, fun own known => ?_⟩
    obtain rfl := Option.some.inj known
    exact zoneNameBehind?_eq_some named
  · cases made
    exact ⟨written, zoned.name⟩

private theorem readZoneName_isZoned (here : tokens[i]? = some token)
    (name : isZoneName token = true) (found : Findings) :
    AlikeButSigns tokens (readZoneName tokens i token found).2 ∧
      IsZoned tokens (readZoneName tokens i token found).1 := by
  have member : token ∈ tokens := List.mem_of_getElem? here
  have named : IsZoned tokens (readZoneName.named token found) := by
    constructor
    · intro offset known
      unfold readZoneName.named at known
      split at known
      · exact Or.inl (Option.some.inj known).symm
      · cases known
    · intro own known
      obtain rfl := Option.some.inj known
      exact ⟨member, name⟩
  unfold readZoneName
  split
  · rename_i next behind
    split
    · rename_i sign
      refine ⟨alikeButSigns_set behind sign, nofun, fun own known => ?_⟩
      dsimp only at known
      split at known
      · cases known
      · obtain rfl := Option.some.inj known
        exact ⟨member, name⟩
    · exact ⟨.refl tokens, named⟩
  · exact ⟨.refl tokens, named⟩

/-- One reading turns no token but signs, and what it finds of a zone stands at its position, or was
found before. -/
theorem readToken_isZoned (here : tokens[i]? = some token) (zoned : IsZoned tokens found) :
    Yields (readToken clock tokens i token found) fun result =>
      AlikeButSigns tokens result.2.1 ∧ IsZoned tokens result.1 := by
  have kept {result : Findings} (same : SameZone found result) :
      AlikeButSigns tokens tokens ∧ IsZoned tokens result :=
    ⟨.refl tokens, zoned.of_sameZone same⟩
  unfold readToken
  split
  · exact (readNumber_keepsZone tokens i token found).bind fun _ same => yields_ok (kept same)
  split
  · exact yields_ok (kept rfl)
  split
  · refine yields_bind fun parts => ?_
    exact (readBehindMonth_keepsZone tokens i { found with parts }).bind
      fun _ same => yields_ok (kept same)
  split
  · refine yields_bind fun hour => ?_
    split
    · exact yields_error _
    · exact yields_ok (kept rfl)
  split
  · rename_i named
    exact yields_ok (readZoneName_isZoned here named.2.2.2 found)
  split
  · rename_i signed
    exact (readOffset_isZoned here signed.2 zoned _).bind fun _ own => yields_ok ⟨.refl tokens, own⟩
  split
  · exact yields_ok (kept rfl)
  · exact yields_error _

/-- The invariant of the run: by induction on the fuel, the tokens staying alike. -/
theorem readFrom_isZoned (fuel : Nat) (zoned : IsZoned tokens found) :
    Yields (readFrom clock fuel tokens i found) (IsZoned tokens) := by
  induction fuel generalizing tokens i found with
  | zero => exact yields_ok zoned
  | succ fuel ih =>
    unfold readFrom
    split
    · exact yields_ok zoned
    · rename_i token here
      refine (readToken_isZoned here zoned).bind ?_
      rintro ⟨next, others, last⟩ ⟨alike, own⟩ result made
      exact (ih (own.of_alike alike.symm) result made).of_alike alike

private theorem findingsOf_isZoned (text : String) :
    Yields (findingsOf clock text) (IsZoned (tokensOf text)) :=
  readFrom_isZoned _ ⟨nofun, nofun⟩

end Reading

section Moment

variable {found : Findings} {m : Moment} {offset : Int}

private theorem moment?_offset {day : DayChoice} (made : found.moment? clock day = some m) :
    found.offset? clock m.date m.time = some m.offset := by
  obtain ⟨date, -, made⟩ := Option.bind_eq_some_iff.mp made
  obtain ⟨time, -, made⟩ := Option.bind_eq_some_iff.mp made
  dsimp only at made
  -- the day moves to a day of the week or stays, and the offset is taken alike
  split at made
  all_goals
    obtain ⟨moved, -, made⟩ := Option.bind_eq_some_iff.mp made
    obtain ⟨zone, own, made⟩ := Option.bind_eq_some_iff.mp made
    cases made
    exact own

/-- The clock knows the zone of a text, by a name in it or by that of universal time, and tells the
offset there. -/
def IsLocal (clock : Clock) (tokens : List String) (m : Moment) (offset : Int) : Prop :=
  ∃ name ∈ clock.zoneNames, (name ∈ tokens ∨ name = "UTC") ∧
    clock.localOffset? name m.date m.time = some offset

private theorem zone?_eq_some {tokens : List String} {name : String} (zoned : IsZoned tokens found)
    (known : found.zone? = some name) : name ∈ tokens ∨ name = "UTC" := by
  unfold Findings.zone? at known
  split at known
  · exact Or.inr (Option.some.inj known).symm
  · exact Or.inl (zoned.name name known).1

private theorem offset?_eq_some {tokens : List String} (zoned : IsZoned tokens found)
    (made : found.offset? clock m.date m.time = some (some offset)) :
    offset = 0 ∨ IsWritten tokens offset ∨ IsLocal clock tokens m offset := by
  unfold Findings.offset? at made
  split at made
  · rename_i name own
    obtain ⟨named, known⟩ := Option.filter_eq_some_iff.mp own
    obtain ⟨counted, told, same⟩ := Option.map_eq_some_iff.mp made
    cases same
    exact Or.inr (Or.inr ⟨name, by simpa using known, zone?_eq_some zoned named, told⟩)
  split at made
  · cases made
    exact Or.inl rfl
  split at made
  · cases made
  · rename_i written
    obtain ⟨counted, limited, same⟩ := Option.map_eq_some_iff.mp made
    unfold countable? at limited
    split at limited
    · cases limited
      cases same
      exact (zoned.offset offset written).imp_right Or.inl
    · cases limited

/-- The offset of the moment that a text means is zero, or it is written in the text, or the clock
tells it. -/
theorem read_offset {text : String} (made : read clock text = .ok m)
    (known : m.offset = some offset) :
    offset = 0 ∨ IsWritten (tokensOf text) offset ∨ IsLocal clock (tokensOf text) m offset := by
  obtain ⟨found, gathered, made⟩ := bind_ok_iff.mp made
  obtain ⟨day, -, made⟩ := bind_ok_iff.mp made
  split at made
  · cases made
  have own := moment?_offset (need_ok_iff.mp made)
  rw [known] at own
  exact offset?_eq_some (findingsOf_isZoned text found gathered) own

end Moment

end TypedRecords.DateText
