import TypedRecords.Proofs.Source.Outcomes

/-!
The events of polling, interval by interval: a request, what is told of its reply, and a pause.
Polling goes on as long as the failures of the replies are foreseen ones, and the events of an
interval depend on the outcome of its own reply alone.
-/

set_option autoImplicit false

namespace TypedRecords.Source

open TypedRecords.Numeric (Double)

def LacksToken (source : Source) : Prop :=
  source.signsIn = true ∧ source.token? = none

/-- What is told of a reply: its records, or a warning of a failure that is foreseen. -/
inductive IsReport (function : String) : Outcome → Event → Prop
  | records (records : List Fields) : IsReport function (.ok records) (.records records)
  | warning {failure : FetchFailure} : failure.isForeseen = true →
      IsReport function (.error failure) (.warning (failureWarning function failure))

/-- The events of an interval.  Only the warning of a missing token may come before the request, and
nothing but the report comes between the request and the pause. -/
inductive IsTick (source : Source) (call : Option Fields) (seconds : Double) (outcome : Outcome) :
    List Event → Prop
  | silent {report : Event} : ¬ source.LacksToken →
      IsReport source.signature.name outcome report →
      IsTick source call seconds outcome
        [.request (source.url call) source.requestHeaders, report, .sleep seconds]
  | warned {report : Event} : source.LacksToken →
      IsReport source.signature.name outcome report →
      IsTick source call seconds outcome
        [.warning (missingTokenMessage source.signature.name),
          .request (source.url call) source.requestHeaders, report, .sleep seconds]

section Step

variable (source : Source) (call : Option Fields)

private theorem replyEvent_ok_iff {function : String} {outcome : Outcome} {event : Event} :
    replyEvent function outcome = .ok event ↔ IsReport function outcome event := by
  constructor
  · intro told
    rcases outcome with failure | records
    · unfold replyEvent at told
      cases foreseen : failure.isForeseen with
      | false => simp [foreseen] at told
      | true =>
        obtain rfl : .warning (failureWarning function failure) = event := by
          simpa [foreseen] using told
        exact .warning foreseen
    · obtain rfl := Except.ok.inj told
      exact .records records
  · rintro (_ | foreseen)
    · rfl
    · exact if_pos foreseen

theorem exists_report (function : String) {outcome : Outcome} (foreseen : IsForeseen outcome) :
    ∃ report, IsReport function outcome report := by
  cases outcome with
  | ok records => exact ⟨_, .records records⟩
  | error failure => exact ⟨_, .warning (foreseen failure rfl)⟩

private theorem replyEvent_of_unforeseen (function : String) {failure : FetchFailure}
    (unforeseen : failure.isForeseen = false) :
    replyEvent function (.error failure) = .error (.fetch failure) := by
  simp [replyEvent, unforeseen]

private theorem isTick_of_isReport (seconds : Double) {outcome : Outcome} {report : Event}
    (told : IsReport source.signature.name outcome report) :
    IsTick source call seconds outcome (source.requestEvents call ++ [report, .sleep seconds]) := by
  unfold requestEvents requestWarnings
  cases signs : source.signsIn with
  | false => exact .silent (fun lacks => by simp [lacks.1] at signs) told
  | true =>
    cases token : source.token? with
    | none => exact .warned ⟨signs, token⟩ told
    | some text => exact .silent (fun lacks => by simp [lacks.2] at token) told

variable {cache after : Path.Cache} {reply : Reply} {outcome : Outcome}
  (fetched : source.fetch cache call reply = (outcome, after)) (rest : List Reply)

include fetched

private theorem outcomes_cons :
    source.outcomes call cache (reply :: rest) = outcome :: source.outcomes call after rest := by
  simp only [outcomes, fetched]

private theorem pollFrom_cons_of_isReport (seconds : Double) {report : Event}
    (told : IsReport source.signature.name outcome report) :
    pollFrom source call (some seconds) cache (reply :: rest) =
      ⟨source.requestEvents call ++ [report, .sleep seconds] ++
          (pollFrom source call (some seconds) after rest).events,
        (pollFrom source call (some seconds) after rest).ending⟩ := by
  simp [pollFrom, fetched, replyEvent_ok_iff.mpr told]

theorem pollFrom_none_of_isReport {report : Event}
    (told : IsReport source.signature.name outcome report) :
    pollFrom source call none cache (reply :: rest) =
      ⟨source.requestEvents call ++ [report], .failed .longPause⟩ := by
  simp [pollFrom, fetched, replyEvent_ok_iff.mpr told]

theorem pollFrom_cons_of_unforeseen (pause : Option Double) {failure : FetchFailure}
    (failed : outcome = .error failure) (unforeseen : failure.isForeseen = false) :
    pollFrom source call pause cache (reply :: rest) =
      ⟨source.requestEvents call, .failed (.fetch failure)⟩ := by
  rw [failed] at fetched
  simp [pollFrom, fetched, replyEvent_of_unforeseen _ unforeseen]

end Step

section Run

variable (source : Source) (call : Option Fields) (seconds : Double)

/-- What polling comes to: intervals one after the other, up to the first failure that is not
foreseen. -/
inductive RunsAs : List Outcome → Run → Prop
  | awaiting {outcomes : List Outcome} {ticks : List (List Event)} :
      List.Forall₂ (IsTick source call seconds) outcomes ticks →
      RunsAs outcomes ⟨ticks.flatten, .awaiting⟩
  | failed {before after : List Outcome} {ticks : List (List Event)} {failure : FetchFailure} :
      List.Forall₂ (IsTick source call seconds) before ticks → failure.isForeseen = false →
      RunsAs (before ++ .error failure :: after)
        ⟨ticks.flatten ++ source.requestEvents call, .failed (.fetch failure)⟩

theorem RunsAs.cons {source : Source} {call : Option Fields} {seconds : Double} {outcome : Outcome}
    {tick : List Event} (isTick : IsTick source call seconds outcome tick)
    {outcomes : List Outcome} {run : Run} (runs : RunsAs source call seconds outcomes run) :
    RunsAs source call seconds (outcome :: outcomes) ⟨tick ++ run.events, run.ending⟩ := by
  cases runs with
  | awaiting ticks => exact .awaiting (.cons isTick ticks)
  | failed ticks unforeseen =>
    rw [← List.append_assoc]
    exact .failed (.cons isTick ticks) unforeseen

theorem pollFrom_runsAs (cache : Path.Cache) (replies : List Reply) :
    RunsAs source call seconds (source.outcomes call cache replies)
      (pollFrom source call (some seconds) cache replies) := by
  induction replies generalizing cache with
  | nil => exact .awaiting .nil
  | cons reply rest ih =>
    rcases fetched : source.fetch cache call reply with ⟨outcome, after⟩
    rw [outcomes_cons source call fetched rest]
    by_cases foreseen : IsForeseen outcome
    · obtain ⟨report, told⟩ := exists_report source.signature.name foreseen
      rw [pollFrom_cons_of_isReport source call fetched rest seconds told]
      exact .cons (isTick_of_isReport source call seconds told) (ih after)
    · obtain ⟨failure, failed, unforeseen⟩ := not_isForeseen_iff.mp foreseen
      rw [pollFrom_cons_of_unforeseen source call fetched rest _ failed unforeseen, failed]
      have noTicks : List.Forall₂ (IsTick source call seconds) [] [] := .nil
      exact .failed noTicks unforeseen

variable {source call seconds}

theorem IsTick.isForeseen {outcome : Outcome} {tick : List Event}
    (isTick : IsTick source call seconds outcome tick) : IsForeseen outcome := by
  have ofReport {report : Event} (told : IsReport source.signature.name outcome report) :
      IsForeseen outcome := by
    rintro failure rfl
    cases told with
    | warning foreseen => exact foreseen
  cases isTick with
  | silent _ told => exact ofReport told
  | warned _ told => exact ofReport told

theorem isForeseen_of_ticks {outcomes : List Outcome} {ticks : List (List Event)}
    (isTicks : List.Forall₂ (IsTick source call seconds) outcomes ticks) :
    ∀ outcome ∈ outcomes, IsForeseen outcome := by
  intro outcome member
  obtain ⟨tick, -, isTick⟩ := Traversal.exists_mem_of_forall₂ isTicks member
  exact isTick.isForeseen

theorem RunsAs.awaiting_iff {outcomes : List Outcome} {run : Run}
    (runs : RunsAs source call seconds outcomes run) :
    run.ending = .awaiting ↔ ∀ outcome ∈ outcomes, IsForeseen outcome := by
  cases runs with
  | awaiting ticks => exact iff_of_true rfl (isForeseen_of_ticks ticks)
  | @failed before after ticks failure _ unforeseen =>
    refine iff_of_false (by simp) fun all => ?_
    have foreseen : IsForeseen (.error failure) := all (.error failure) (by simp)
    exact not_isForeseen_iff.mpr ⟨failure, rfl, unforeseen⟩ foreseen

theorem RunsAs.ticks {outcomes : List Outcome} {run : Run}
    (runs : RunsAs source call seconds outcomes run)
    (foreseen : ∀ outcome ∈ outcomes, IsForeseen outcome) :
    ∃ ticks, List.Forall₂ (IsTick source call seconds) outcomes ticks ∧
      run = ⟨ticks.flatten, .awaiting⟩ := by
  have goesOn := runs.awaiting_iff.mpr foreseen
  cases runs with
  | awaiting ticks => exact ⟨_, ticks, rfl⟩
  | failed ticks unforeseen => cases goesOn

end Run

section Poll

variable (source : Source) (cache : Path.Cache) (call : Option Fields) (given : Option Int)

theorem poll_of_nonneg (nonneg : 0 ≤ source.interval given) (replies : List Reply) :
    source.poll cache call given replies =
      pollFrom source call (pause? (source.interval given)) cache replies :=
  if_neg (Int.not_lt.mpr nonneg)

theorem exists_pause {interval : Int} (nonneg : 0 ≤ interval) (short : interval < intervalLimit) :
    ∃ seconds, pause? interval = some seconds := by
  refine Option.ne_none_iff_exists'.mp fun missing => ?_
  have long := (pause?_eq_none_iff nonneg).mp missing
  omega

/-- Polling with an interval that is not negative tells of its replies one by one, each behind a
request of its own and in front of a pause, as long as failures are foreseen and the pause is in
range; and the outcomes are those that the replies have by themselves.  Where the pause is out of
range polling ends behind the first report.  Without an interval no request is made. -/
theorem poll_by_ticks (replies : List Reply) :
    (0 ≤ source.interval given → source.interval given < intervalLimit →
      (∀ outcome ∈ source.outcomes call cache replies, IsForeseen outcome) →
      ∃ seconds ticks, pause? (source.interval given) = some seconds ∧
        List.Forall₂ (IsTick source call seconds) (source.outcomes call cache replies) ticks ∧
        source.poll cache call given replies = ⟨ticks.flatten, .awaiting⟩) ∧
    (cache.Faithful → ∀ size : Int, 0 ≤ size →
      source.outcomes call cache replies =
        replies.map ((source.withCacheSize size).fetchOnce call)) ∧
    (intervalLimit ≤ source.interval given → ∀ outcome rest,
      source.outcomes call cache replies = outcome :: rest → IsForeseen outcome →
      ∃ report, IsReport source.signature.name outcome report ∧
        source.poll cache call given replies =
          ⟨source.requestEvents call ++ [report], .failed .longPause⟩) ∧
    (source.interval given < 0 ∨ given = none ∧ source.signature.pollInterval = none →
      source.poll cache call given replies =
        ⟨[], .failed (.notPolled source.signature.name)⟩) := by
  refine ⟨?_, ?_, ?_, ?_⟩
  · intro nonneg short foreseen
    obtain ⟨seconds, pause⟩ := exists_pause nonneg short
    have runs := pollFrom_runsAs source call seconds cache replies
    obtain ⟨ticks, isTicks, run⟩ := runs.ticks foreseen
    refine ⟨seconds, ticks, pause, isTicks, ?_⟩
    rw [poll_of_nonneg source cache call given nonneg, pause, run]
  · intro faithful size nonneg
    rw [source.outcomes_eq_map call faithful]
    exact List.map_congr_left fun reply _ => (source.fetchOnce_withCacheSize call nonneg reply).symm
  · intro long outcome rest first foreseen
    have nonneg : 0 ≤ source.interval given := (Int.natCast_nonneg _).trans long
    rw [poll_of_nonneg source cache call given nonneg, (pause?_eq_none_iff nonneg).mpr long]
    cases replies with
    | nil => cases first
    | cons reply more =>
      rcases fetched : source.fetch cache call reply with ⟨own, after⟩
      rw [outcomes_cons source call fetched more] at first
      obtain ⟨rfl, -⟩ := List.cons.inj first
      obtain ⟨report, told⟩ := exists_report source.signature.name foreseen
      exact ⟨report, told, pollFrom_none_of_isReport source call fetched more told⟩
  · intro unpolled
    have negative : source.interval given < 0 := by
      rcases unpolled with negative | ⟨rfl, none⟩
      · exact negative
      · simp [interval, Signature.effectivePollInterval, none]
    exact if_pos negative

/-- A connection that is not made, a reply with a record and one without success: each is told of in
an interval of its own, and polling goes on. -/
theorem poll_by_ticks_mixed :
    let source : Source :=
      { template := "https://h/$x"
        signature := ⟨"f", [⟨"n", .output, .plain .number, none⟩], none, some 1500⟩
        device := [("x", .int 7)]
        settings := Settings.default
        agent := none
        signsIn := true
        headers := [] }
    let cache := Path.Cache.empty 1
    let replies : List Reply :=
      [⟨.epoch, .unreachable "down"⟩, ⟨.epoch, .response 200 [0x5b, 0x31, 0x5d]⟩,
        ⟨.epoch, .response 404 []⟩]
    let outcomes : List Outcome :=
      [.error (.unreachable "down"), .ok [[("n", .null)]],
        .error (.badStatus (source.url none) 404 [])]
    (0 ≤ source.interval none ∧ source.interval none < intervalLimit ∧
      ∀ outcome ∈ source.outcomes none cache replies, IsForeseen outcome) ∧
    ∃ seconds ticks, pause? 1500 = some seconds ∧
      List.Forall₂ (IsTick source none seconds) outcomes ticks ∧
      source.poll cache none none replies = ⟨ticks.flatten, .awaiting⟩ := by
  intro source cache replies outcomes
  have found : source.outcomes none cache replies = outcomes := rfl
  have nonneg : 0 ≤ source.interval none := by decide
  have short : source.interval none < intervalLimit := by decide +kernel
  have foreseen : ∀ outcome ∈ source.outcomes none cache replies, IsForeseen outcome := by
    rw [found]
    simp [outcomes, IsForeseen, FetchFailure.isForeseen]
  obtain ⟨goesOn, -⟩ := poll_by_ticks source cache none none replies
  obtain ⟨seconds, ticks, pause, isTicks, run⟩ := goesOn nonneg short foreseen
  rw [found] at isTicks
  exact ⟨⟨nonneg, short, foreseen⟩, seconds, ticks, pause, isTicks, run⟩

/-- With an interval of `10 ^ 400` milliseconds there is no pause, and polling ends behind its first
records. -/
theorem poll_ends_of_huge_interval :
    let source : Source :=
      { template := "https://h/x"
        signature := ⟨"f", [], none, some (Nat.pow 10 400)⟩
        device := []
        settings := Settings.default
        agent := none
        signsIn := false
        headers := [] }
    let cache := Path.Cache.empty 256
    let replies : List Reply := [⟨.epoch, .response 200 [0x5b, 0x5d]⟩]
    0 ≤ source.interval none ∧
      (∀ outcome ∈ source.outcomes none cache replies, IsForeseen outcome) ∧
      source.poll cache none none replies =
        ⟨[.request (source.url none) source.requestHeaders, .records []], .failed .longPause⟩ := by
  intro source cache replies
  have nonneg : 0 ≤ source.interval none := by decide +kernel
  have long : (intervalLimit : Int) ≤ source.interval none := by decide +kernel
  have fetched : source.fetch cache none ⟨.epoch, .response 200 [0x5b, 0x5d]⟩ = (.ok [], cache) :=
    rfl
  refine ⟨nonneg, ?_, ?_⟩
  · rw [outcomes_cons source none fetched []]
    simp [outcomes, IsForeseen]
  · rw [poll_of_nonneg source cache none none nonneg, (pause?_eq_none_iff nonneg).mpr long]
    exact pollFrom_none_of_isReport source none fetched [] (.records [])

end Poll

end TypedRecords.Source
