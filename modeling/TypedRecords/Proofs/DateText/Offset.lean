import TypedRecords.Proofs.DateText.Zone
import TypedRecords.Proofs.Text.Classes
import TypedRecords.Proofs.Text.Digits
import TypedRecords.Proofs.Text.Runs

/-!
Times of day with an offset in digits behind them.  Each run of digits is one token and each mark
another, and whatever hours and minutes there are, they are taken for the offset.
-/

set_option autoImplicit false

namespace TypedRecords.DateText

open TypedRecords.Calendar (Clock Date monthLength)
open TypedRecords.Text

variable {clock : Clock}

section Tokens

/-- What a run of digits may go on with: a digit, or one of the two marks that may be in a number.
-/
def continues (c : Char) : Bool :=
  isDigit c || c == '.' || c == ','

@[simp] private theorem tokens_of_digits (taken : List Char) (sawLetters : Bool) :
    Run.tokens ⟨.digits, taken, sawLetters⟩ = Run.partOf taken := by
  have whole : Run.isDivided ⟨.digits, taken, sawLetters⟩ = false := rfl
  unfold Run.tokens Run.partOf
  by_cases empty : taken.isEmpty = true
  · simp [whole, empty]
  · simp [whole, empty, Run.withDecimalDot]

@[simp] private theorem kindWith?_of_digits {c : Char} (taken : List Char) :
    Run.kindWith? ⟨.digits, taken, false⟩ c =
      if isDigit c then some .digits
      else if c = '.' ∨ (c = ',' ∧ 2 ≤ taken.length) then some .dottedDigits else none :=
  rfl

private theorem tokensFrom_run {front rest taken : List Char}
    (digits : ∀ c ∈ front, isDigit c = true) (ends : Leaves continues rest) :
    tokensFrom (some ⟨.digits, taken, false⟩) (front ++ rest) =
      Run.partOf (front.reverse ++ taken) ++ tokensFrom none rest := by
  induction front generalizing taken with
  | nil =>
    cases rest with
    | nil => simp [tokensFrom]
    | cons c rest =>
      have outside := ends c rest rfl
      simp only [continues, Bool.or_eq_false_iff, beq_eq_false_iff_ne] at outside
      obtain ⟨⟨digit, point⟩, comma⟩ := outside
      have stops : Run.kindWith? ⟨.digits, taken, false⟩ c = none := by
        simp [digit, point, comma]
      simp [tokensFrom, stops, Run.looked]
  | cons c front ih =>
    obtain ⟨first, others⟩ := List.forall_mem_cons.mp digits
    have goesOn : Run.kindWith? ⟨.digits, taken, false⟩ c = some .digits := by
      simp [first]
    -- no letter has been seen, so that looking at a digit leaves the run as it was
    have looked : Run.looked ⟨.digits, taken, false⟩ = ⟨.digits, taken, false⟩ := rfl
    rw [List.cons_append, tokensFrom, Option.bind_some, goesOn, Option.map_some, looked]
    simpa using ih others

private theorem tokensFrom_digits {front rest : List Char} (nonempty : front ≠ [])
    (digits : ∀ c ∈ front, isDecimalDigit c = true) (ends : Leaves continues rest) :
    tokensFrom none (front ++ rest) = String.ofList front :: tokensFrom none rest := by
  have isDigits (c : Char) (decimal : isDecimalDigit c = true) : isDigit c = true := by
    simp [isDigit, decimal]
  obtain ⟨c, front, rfl⟩ := List.exists_cons_of_ne_nil nonempty
  obtain ⟨first, others⟩ := List.forall_mem_cons.mp digits
  have started : begin c = .ok ⟨.digits, [c], false⟩ := by
    simp [begin, isLetter_of_isDecimalDigit first, isDigits c first]
  rw [List.cons_append, tokensFrom]
  simp only [Option.bind_none, started]
  rw [tokensFrom_run (fun c member => isDigits c (others c member)) ends]
  simp [Run.partOf]

private theorem begin_blank {c : Char} (letter : isLetter c = false) (digit : isDigit c = false)
    (blank : isBlank c = true) : begin c = .error " " := by
  simp [begin, letter, digit, blank]

private theorem begin_mark {c : Char} (letter : isLetter c = false) (digit : isDigit c = false)
    (blank : isBlank c = false) : begin c = .error (String.singleton c) := by
  simp [begin, letter, digit, blank]

private theorem tokensFrom_mark {c : Char} {token : String} (alone : begin c = .error token)
    (rest : List Char) : tokensFrom none (c :: rest) = token :: tokensFrom none rest := by
  rw [tokensFrom]
  simp [alone]

end Tokens

section Ten

def signOf (negative : Bool) : Char :=
  if negative then '-' else '+'

/-- Ten o'clock with an offset behind it: a sign, hours, a colon and minutes. -/
def tenOffset (negative : Bool) (hours minutes : List Char) : String :=
  String.ofList
    (['1', '0', ':', '0', '0', ' '] ++ signOf negative :: (hours ++ ':' :: minutes))

def tenTokens (negative : Bool) (hours minutes : List Char) : List String :=
  ["10", ":", "00", " ", String.singleton (signOf negative), String.ofList hours, ":",
    String.ofList minutes]

def foundTen : Findings :=
  { Findings.empty with hour := some 10, minute := some 0 }

variable {negative : Bool} {hours minutes : List Char}

private theorem isDecimalDigit_of_natural {cs : List Char} {n : Nat} (number : natural cs = .ok n) :
    cs ≠ [] ∧ ∀ c ∈ cs, isDecimalDigit c = true := by
  unfold natural at number
  split at number
  · cases number
  · rename_i some
    refine ⟨?_, isDecimalDigit_of_digitsValue?_go (need_ok_iff.mp number)⟩
    rintro rfl
    exact some (Or.inl rfl)

@[simp] private theorem toList_tenOffset :
    (tenOffset negative hours minutes).toList =
      ['1', '0'] ++ ':' :: (['0', '0'] ++ ' ' :: signOf negative :: (hours ++ ':' :: minutes)) := by
  rw [tenOffset, String.toList_ofList]
  rfl

private theorem toNat_ne_zero_of_isDecimalDigit {c : Char} (digit : isDecimalDigit c = true) :
    c.toNat ≠ 0 := by
  intro null
  rw [isDecimalDigit_eq, null] at digit
  cases digit

private theorem toNat_ne_zero_of_mem_tenOffset (hourDigits : ∀ c ∈ hours, isDecimalDigit c = true)
    (minuteDigits : ∀ c ∈ minutes, isDecimalDigit c = true) :
    ∀ c ∈ (tenOffset negative hours minutes).toList, c.toNat ≠ 0 := by
  have sign : (signOf negative).toNat ≠ 0 := by cases negative <;> decide
  simp only [toList_tenOffset, List.forall_mem_append, List.forall_mem_cons]
  exact ⟨⟨by decide, by decide, nofun⟩, by decide, ⟨by decide, by decide, nofun⟩, by decide, sign,
    fun c member => toNat_ne_zero_of_isDecimalDigit (hourDigits c member), by decide,
    fun c member => toNat_ne_zero_of_isDecimalDigit (minuteDigits c member)⟩

private theorem begin_signOf (negative : Bool) :
    begin (signOf negative) = .error (String.singleton (signOf negative)) := by
  cases negative
  · exact begin_mark (by decide +kernel) (by decide +kernel) (by decide +kernel)
  · exact begin_mark (by decide +kernel) (by decide +kernel) (by decide +kernel)

private theorem tokensOf_tenOffset {h m : Nat} (readHours : natural hours = .ok h)
    (readMinutes : natural minutes = .ok m) :
    tokensOf (tenOffset negative hours minutes) = tenTokens negative hours minutes := by
  obtain ⟨someHours, hourDigits⟩ := isDecimalDigit_of_natural readHours
  obtain ⟨someMinutes, minuteDigits⟩ := isDecimalDigit_of_natural readMinutes
  have plain : ∀ c ∈ (tenOffset negative hours minutes).toList, c.toNat ≠ 0 :=
    toNat_ne_zero_of_mem_tenOffset hourDigits minuteDigits
  have colon : begin ':' = .error ":" :=
    begin_mark (by decide +kernel) (by decide +kernel) (by decide +kernel)
  have space : begin ' ' = .error " " :=
    begin_blank (by decide +kernel) (by decide +kernel) (by decide +kernel)
  have beforeColon (rest : List Char) : Leaves continues (':' :: rest) :=
    leaves_cons (by decide +kernel) rest
  have beforeSpace (rest : List Char) : Leaves continues (' ' :: rest) :=
    leaves_cons (by decide +kernel) rest
  have ten : ∀ c ∈ ['1', '0'], isDecimalDigit c = true := List.all_eq_true.mp rfl
  have zero : ∀ c ∈ ['0', '0'], isDecimalDigit c = true := List.all_eq_true.mp rfl
  have last : tokensFrom none minutes = [String.ofList minutes] := by
    have whole := tokensFrom_digits someMinutes minuteDigits (leaves_nil continues)
    rwa [List.append_nil] at whole
  rw [tokensOf, List.filter_eq_self.mpr (by simpa using plain), toList_tenOffset,
    tokensFrom_digits (by simp) ten (beforeColon _), tokensFrom_mark colon,
    tokensFrom_digits (by simp) zero (beforeSpace _), tokensFrom_mark space,
    tokensFrom_mark (begin_signOf negative), tokensFrom_digits someHours hourDigits (beforeColon _),
    tokensFrom_mark colon, last]
  rfl

structure IsMark (token : String) : Prop where
  numeric : isNumeric token = false
  weekday : weekday? token = none
  month : month? token = none
  afternoon : afternoon? token = none
  zone : isZoneName token = false

private theorem isMark_space : IsMark " " := by
  constructor <;> decide +kernel

private theorem isMark_sign (negative : Bool) : IsMark (String.singleton (signOf negative)) := by
  cases negative <;> (constructor <;> decide +kernel)

@[simp] private theorem isSign_signOf (negative : Bool) :
    isSign (String.singleton (signOf negative)) = true := by
  cases negative <;> decide +kernel

@[simp] private theorem signOf_eq_minus (negative : Bool) :
    (String.singleton (signOf negative) == "-") = negative := by
  cases negative <;> decide +kernel

private theorem readToken_space (tokens : List String) (i : Nat) (found : Findings) :
    readToken clock tokens i " " found = .ok (found, tokens, i) := by
  obtain ⟨numeric, weekday, month, afternoon, zone⟩ := isMark_space
  have sign : isSign " " = false := by decide +kernel
  have filler : isFiller " " = true := by decide +kernel
  simp [readToken, numeric, weekday, month, afternoon, zone, sign, filler, pure, Except.pure]

private theorem readToken_sign (tokens : List String) (i : Nat) {found : Findings}
    (timed : found.hour.isSome = true) :
    readToken clock tokens i (String.singleton (signOf negative)) found =
      (readOffset tokens i negative found).map fun result => (result.1, tokens, result.2) := by
  obtain ⟨numeric, weekday, month, afternoon, zone⟩ := isMark_sign negative
  simp only [readToken, numeric, weekday, month, afternoon, zone, isSign_signOf, signOf_eq_minus,
    timed, Bool.false_eq_true, and_false, and_true, if_false, if_true]
  cases readOffset tokens i negative found <;> rfl

def secondsEast (negative : Bool) (h m : Nat) : Int :=
  if negative then -(3600 * h + 60 * m : Int) else 3600 * h + 60 * m

private theorem readOffset_ten {h m : Nat} (readHours : natural hours = .ok h)
    (readMinutes : natural minutes = .ok m) (apart : hours.length ≠ 4) :
    readOffset (tenTokens negative hours minutes) 4 negative foundTen =
      .ok ({ foundTen with zoneOffset := some (secondsEast negative h m) }, 7) := by
  have digits : readOffsetDigits (tenTokens negative hours minutes) 4 = .ok (h, m, 7) := by
    have first : tokenAt (tenTokens negative hours minutes) 5 = .ok (String.ofList hours) := rfl
    have second : tokenAt (tenTokens negative hours minutes) 7 = .ok (String.ofList minutes) := rfl
    have colon : tokenEq (tenTokens negative hours minutes) 6 ":" = true := rfl
    simp [readOffsetDigits, first, second, colon, apart, readHours, readMinutes, bind, Except.bind,
      pure, Except.pure]
  have last : zoneNameBehind? (tenTokens negative hours minutes) 7 foundTen = none := rfl
  simp [readOffset, digits, last, secondsEast, bind, Except.bind, pure, Except.pure]

private theorem readFrom_next {fuel i last : Nat} {tokens others : List String} {token : String}
    {found result : Findings} (here : tokens[i]? = some token)
    (read : readToken clock tokens i token found = .ok (result, others, last)) :
    readFrom clock (fuel + 1) tokens i found = readFrom clock fuel others (last + 1) result := by
  rw [readFrom, here]
  simp only [read]
  rfl

private theorem findingsOf_tenOffset {h m : Nat} (readHours : natural hours = .ok h)
    (readMinutes : natural minutes = .ok m) (apart : hours.length ≠ 4) :
    findingsOf clock (tenOffset negative hours minutes) =
      .ok { foundTen with zoneOffset := some (secondsEast negative h m) } := by
  have ten : readToken clock (tenTokens negative hours minutes) 0 "10" Findings.empty =
      .ok (foundTen, tenTokens negative hours minutes, 2) := rfl
  have space := @readToken_space clock (tenTokens negative hours minutes) 3 foundTen
  have sign : readToken clock (tenTokens negative hours minutes) 4
      (String.singleton (signOf negative)) foundTen =
        .ok ({ foundTen with zoneOffset := some (secondsEast negative h m) },
          tenTokens negative hours minutes, 7) := by
    rw [readToken_sign _ _ rfl, readOffset_ten readHours readMinutes apart]
    rfl
  rw [findingsOf, tokensOf_tenOffset readHours readMinutes]
  -- three tokens of the time, the blank, and four of the offset
  calc readFrom clock 9 (tenTokens negative hours minutes) 0 Findings.empty
      = readFrom clock 8 (tenTokens negative hours minutes) 3 foundTen := readFrom_next rfl ten
    _ = readFrom clock 7 (tenTokens negative hours minutes) 4 foundTen := readFrom_next rfl space
    _ = readFrom clock 6 (tenTokens negative hours minutes) 8
          { foundTen with zoneOffset := some (secondsEast negative h m) } := readFrom_next rfl sign
    _ = .ok { foundTen with zoneOffset := some (secondsEast negative h m) } := rfl

/-- An offset that is found is the offset of the moment, unless it is zero, which goes by the name
of universal time, or too long to be counted. -/
theorem offset?_foundTen {seconds : Int} (east : seconds ≠ 0)
    (counted : countable? seconds = some seconds) (date : Date) (time : Calendar.TimeOfDay) :
    Findings.offset? clock { foundTen with zoneOffset := some seconds } date time =
      some (some seconds) := by
  simp [Findings.offset?, Findings.localZone?, Findings.zone?, Findings.isUtc, foundTen,
    Findings.empty, east, counted]

private theorem dayOf?_open (clock : Clock) :
    dayOf? clock ⟨none, none, none⟩ = some clock.today := by
  have valid := clock.todayIsValid
  have short : clock.today.day ≤ monthLength clock.today.year clock.today.month := by
    simp only [Date.isValid, Bool.and_eq_true, decide_eq_true_eq] at valid
    exact valid.2
  simp [dayOf?, Date.ofParts?, short, valid]

/-- Ten o'clock with hours and minutes of an offset is that time of today, with the offset as it is
written, however great it may be. -/
theorem read_tenOffset {h m : Nat} (readHours : natural hours = .ok h)
    (readMinutes : natural minutes = .ok m) (apart : hours.length ≠ 4)
    (east : secondsEast negative h m ≠ 0)
    (counted : countable? (secondsEast negative h m) = some (secondsEast negative h m)) :
    read clock (tenOffset negative hours minutes) =
      .ok ⟨clock.today, ⟨10, 0, 0, 0⟩, some (secondsEast negative h m)⟩ := by
  have moment : Findings.moment? clock
      { foundTen with zoneOffset := some (secondsEast negative h m) } ⟨none, none, none⟩ =
        some ⟨clock.today, ⟨10, 0, 0, 0⟩, some (secondsEast negative h m)⟩ := by
    change (dayOf? clock ⟨none, none, none⟩).bind _ = _
    rw [dayOf?_open, Option.bind_some]
    change (Findings.offset? clock _ _ _).bind _ = _
    rw [offset?_foundTen east counted]
    rfl
  unfold read
  rw [findingsOf_tenOffset readHours readMinutes apart]
  change need (Findings.moment? clock _ _) = _
  rw [moment]
  rfl

end Ten

end TypedRecords.DateText
