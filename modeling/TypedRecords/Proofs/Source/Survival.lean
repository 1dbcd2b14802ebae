import TypedRecords.Proofs.Extraction.Limits
import TypedRecords.Proofs.Json.Reading
import TypedRecords.Proofs.Source.Ticks

/-!
Which replies polling survives.  Every reply has an interval of its own behind which the next one is
asked for, unless the pause is out of range or extraction comes to a limit of the program; then
polling ends.
-/

set_option autoImplicit false

namespace TypedRecords.Source

open TypedRecords.Numeric (Double)
open TypedRecords.Extraction (ResponseOverruns)

/-- A reply of success with JSON that overruns a limit in extraction. -/
inductive ReplyOverruns (source : Source) : Reply → Prop
  | response {clock : Calendar.Clock} {status : Int} {body : List UInt8} {value : Value} :
      isSuccess status = true → Json.readBytes body = .ok value →
      ResponseOverruns clock source.settings source.signature value →
      ReplyOverruns source ⟨clock, .response status body⟩

section Reply

variable (source : Source) (call : Option Fields)

private theorem payload_ok_iff (url : String) {answer : Answer} {value : Value} :
    payload url answer = .ok value ↔
      ∃ status body, answer = .response status body ∧ isSuccess status = true ∧
        Json.readBytes body = .ok value := by
  cases answer with
  | unreachable message => simp [payload]
  | response status body =>
    cases success : isSuccess status <;> simp [payload, success]

private theorem payload_isForeseen {url : String} {answer : Answer} {failure : FetchFailure}
    (failed : payload url answer = .error failure) : failure.isForeseen = true := by
  cases answer with
  | unreachable message =>
    cases failed
    rfl
  | response status body =>
    cases success : isSuccess status with
    | true =>
      simp only [payload, success, if_true] at failed
      obtain ⟨cause, -, rfl⟩ := Traversal.mapError_error_iff.mp failed
      rfl
    | false =>
      obtain rfl : FetchFailure.badStatus url status body = failure := by
        simpa [payload, success] using failed
      rfl

private theorem directFetch_isForeseen_iff (valid : source.signature.IsValid) (reply : Reply) :
    IsForeseen (source.directFetch call reply) ↔ ¬ ReplyOverruns source reply := by
  obtain ⟨clock, answer⟩ := reply
  have overruns_iff (value : Value) :=
    @Extraction.direct_unforeseen_iff clock source.settings _ valid value
  rw [iff_not_comm]
  constructor
  · rintro ⟨success, read, overruns⟩
    obtain ⟨failure, failed, limit⟩ := (overruns_iff _).mpr overruns
    have loaded := (payload_ok_iff (source.url call)).mpr ⟨_, _, rfl, success, read⟩
    refine not_isForeseen_iff.mpr ⟨.extraction failure, ?_, limit⟩
    rw [directFetch, loaded]
    exact Traversal.mapError_error_iff.mpr ⟨failure, failed, rfl⟩
  · intro unforeseen
    obtain ⟨failure, failed, limit⟩ := not_isForeseen_iff.mp unforeseen
    unfold directFetch at failed
    cases loaded : payload (source.url call) answer with
    | error cause =>
      rw [loaded] at failed
      cases failed
      rw [payload_isForeseen loaded] at limit
      cases limit
    | ok value =>
      rw [loaded] at failed
      obtain ⟨cause, refused, rfl⟩ := Traversal.mapError_error_iff.mp failed
      obtain ⟨status, body, rfl, success, read⟩ := (payload_ok_iff _).mp loaded
      exact .response success read ((overruns_iff value).mp ⟨cause, refused, limit⟩)

end Reply

section Run

variable {source : Source} {call : Option Fields} {seconds : Double}

private theorem RunsAs.of_unforeseen {before after : List Outcome} {outcome : Outcome} {run : Run}
    (runs : RunsAs source call seconds (before ++ outcome :: after) run)
    (foreseen : ∀ earlier ∈ before, IsForeseen earlier) (limit : ¬ IsForeseen outcome) :
    ∃ ticks failure, List.Forall₂ (IsTick source call seconds) before ticks ∧
      outcome = .error failure ∧ failure.isForeseen = false ∧
      run = ⟨ticks.flatten ++ source.requestEvents call, .failed (.fetch failure)⟩ := by
  generalize whole : before ++ outcome :: after = outcomes at runs
  cases runs with
  | awaiting ticks =>
    subst whole
    exact absurd (isForeseen_of_ticks ticks outcome (by simp)) limit
  | @failed first later ticks failure isTicks unforeseen =>
    have unseen : ¬ IsForeseen (.error failure) :=
      not_isForeseen_iff.mpr ⟨failure, rfl, unforeseen⟩
    obtain ⟨rfl, rfl⟩ :=
      Traversal.first_unique whole foreseen limit (isForeseen_of_ticks isTicks) unseen
    exact ⟨ticks, failure, isTicks, rfl, unforeseen, rfl⟩

end Run

section Poll

variable (source : Source) {cache : Path.Cache} (call : Option Fields) (given : Option Int)

private theorem pollFrom_none_awaiting_iff (replies : List Reply) :
    (pollFrom source call none cache replies).ending = .awaiting ↔ replies = [] := by
  cases replies with
  | nil => exact iff_of_true rfl rfl
  | cons reply rest =>
    refine iff_of_false ?_ (List.cons_ne_nil reply rest)
    rcases fetched : source.fetch cache call reply with ⟨outcome, after⟩
    by_cases foreseen : IsForeseen outcome
    · obtain ⟨report, told⟩ := exists_report source.signature.name foreseen
      simp [pollFrom_none_of_isReport source call fetched rest told]
    · obtain ⟨failure, failed, limit⟩ := not_isForeseen_iff.mp foreseen
      simp [pollFrom_cons_of_unforeseen source call fetched rest none failed limit]

private theorem exists_poll_runsAs (faithful : cache.Faithful) (nonneg : 0 ≤ source.interval given)
    (short : source.interval given < intervalLimit) (replies : List Reply) :
    ∃ seconds, pause? (source.interval given) = some seconds ∧
      RunsAs source call seconds (replies.map (source.directFetch call))
        (source.poll cache call given replies) := by
  obtain ⟨seconds, pause⟩ := exists_pause nonneg short
  refine ⟨seconds, pause, ?_⟩
  rw [poll_of_nonneg source cache call given nonneg, pause,
    ← source.outcomes_eq_map call faithful replies]
  exact pollFrom_runsAs source call seconds cache replies

private theorem poll_awaiting_iff (valid : source.signature.IsValid) (faithful : cache.Faithful)
    (nonneg : 0 ≤ source.interval given) (replies : List Reply) :
    (source.poll cache call given replies).ending = .awaiting ↔
      ∀ reply ∈ replies, source.interval given < intervalLimit ∧
        ¬ ReplyOverruns source reply := by
  by_cases short : source.interval given < intervalLimit
  · obtain ⟨seconds, -, runs⟩ :=
      exists_poll_runsAs source call given faithful nonneg short replies
    rw [runs.awaiting_iff, List.forall_mem_map]
    simp only [directFetch_isForeseen_iff source call valid, short, true_and]
  · have missing : pause? (source.interval given) = none :=
      (pause?_eq_none_iff nonneg).mpr (Int.not_lt.mp short)
    rw [poll_of_nonneg source cache call given nonneg, missing, pollFrom_none_awaiting_iff]
    simp only [short, false_and]
    exact List.eq_nil_iff_forall_not_mem

/-- Polling of a signature that loading admits goes on exactly as long as its pause is in range and
no reply overruns a limit: each reply then has an interval of its own, in which it is told of or
warned of, behind a request and in front of a pause.  The first reply that overruns a limit ends the
polling behind its request. -/
theorem poll_survives_iff (valid : source.signature.IsValid) (faithful : cache.Faithful)
    (nonneg : 0 ≤ source.interval given) (replies : List Reply) :
    ((source.poll cache call given replies).ending = .awaiting ↔
      ∀ reply ∈ replies, source.interval given < intervalLimit ∧
        ¬ ReplyOverruns source reply) ∧
    ((source.poll cache call given replies).ending = .awaiting →
      ∃ ticks, (source.poll cache call given replies).events = ticks.flatten ∧
        List.Forall₂ (fun reply tick => ∃ seconds, pause? (source.interval given) = some seconds ∧
          IsTick source call seconds (source.directFetch call reply) tick) replies ticks) ∧
    (source.interval given < intervalLimit → ∀ before reply after,
      replies = before ++ reply :: after →
      (∀ earlier ∈ before, ¬ ReplyOverruns source earlier) → ReplyOverruns source reply →
      ∃ seconds ticks failure, pause? (source.interval given) = some seconds ∧
        List.Forall₂ (fun reply => IsTick source call seconds (source.directFetch call reply))
          before ticks ∧
        source.directFetch call reply = .error failure ∧ failure.isForeseen = false ∧
        source.poll cache call given replies =
          ⟨ticks.flatten ++ source.requestEvents call, .failed (.fetch failure)⟩) := by
  have goesOn := poll_awaiting_iff source call given valid faithful nonneg replies
  have foreseen_iff := source.directFetch_isForeseen_iff call valid
  refine ⟨goesOn, ?_, ?_⟩
  · intro awaiting
    rcases List.eq_nil_or_concat replies with rfl | nonempty
    · refine ⟨[], ?_, .nil⟩
      rw [poll_of_nonneg source cache call given nonneg]
      rfl
    · have held := goesOn.mp awaiting
      have short : source.interval given < intervalLimit := by
        obtain ⟨front, last, rfl⟩ := nonempty
        exact (held last (by simp)).1
      obtain ⟨seconds, pause, runs⟩ :=
        exists_poll_runsAs source call given faithful nonneg short replies
      obtain ⟨ticks, isTicks, run⟩ := runs.ticks (runs.awaiting_iff.mp awaiting)
      refine ⟨ticks, by rw [run], ?_⟩
      exact (List.forall₂_map_left_iff.mp isTicks).imp fun reply tick isTick =>
        ⟨seconds, pause, isTick⟩
  · rintro short before reply after rfl clean overruns
    obtain ⟨seconds, pause, runs⟩ :=
      exists_poll_runsAs source call given faithful nonneg short (before ++ reply :: after)
    rw [List.map_append, List.map_cons] at runs
    have foreseen : ∀ outcome ∈ before.map (source.directFetch call), IsForeseen outcome :=
      List.forall_mem_map.mpr fun earlier member =>
        (foreseen_iff earlier).mpr (clean earlier member)
    have limit : ¬ IsForeseen (source.directFetch call reply) := fun told =>
      (foreseen_iff reply).mp told overruns
    obtain ⟨ticks, failure, isTicks, failed, unforeseen, run⟩ := runs.of_unforeseen foreseen limit
    exact ⟨seconds, ticks, failure, pause, List.forall₂_map_left_iff.mp isTicks, failed, unforeseen,
      run⟩

/-- The bytes of a list in a list with an integer of 401 digits. -/
def hugeBody : List UInt8 :=
  0x5b :: 0x5b :: 0x31 :: (List.replicate 400 0x30 ++ [0x5d, 0x5d])

def hugeText : List Char :=
  '[' :: '[' :: '1' :: (List.replicate 400 '0' ++ [']', ']'])

set_option maxRecDepth 100000 in
private theorem readDocument_hugeText :
    Json.readDocument hugeText = .ok (.list [.list [.int (Nat.pow 10 400)]]) := by rfl

private theorem readBytes_hugeBody :
    ∃ n : Int, Json.readBytes hugeBody = .ok (.list [.list [.int n]]) ∧
      Nat.pow 2 1024 ≤ n.natAbs + Nat.pow 2 970 := by
  have narrow : Json.encodingOf hugeBody = .narrow 0 := by decide +kernel
  have decoded :
      Text.Utf8.decodeFrom Text.Utf8.pieceWithSurrogates 0 0 hugeBody = .ok hugeText := by
    decide +kernel
  exact ⟨_, Json.readBytes_of_narrow narrow decoded readDocument_hugeText, by decide +kernel⟩

/-- A source of prices, each at the first position of an element. -/
def prices : Source :=
  { template := "https://h/x"
    signature := ⟨"f", [⟨"price", .output, .plain .currency, some "0"⟩], none, some 0⟩
    device := []
    settings := Settings.default
    agent := none
    signsIn := false
    headers := [] }

private theorem prices_fails {n : Int} (huge : Nat.pow 2 1024 ≤ n.natAbs + Nat.pow 2 970) :
    Extraction.direct .epoch prices.settings (.list [.list [.int n]]) prices.signature =
      .error .hugeAmount := by
  have unheld : Double.ofInt? n = none := (Double.ofInt?_eq_none_iff n).mpr huge
  have refused : coerce .epoch prices.settings (.plain .currency) (.int n) =
      .error .hugeAmount := by
    simp only [SemanticType.plain, coerce, Coercion.toLeaf, Coercion.toCurrency, unheld]
  have place : Extraction.PlaceFails .epoch prices.settings prices.signature (.list [.int n]) 0
      ⟨"price", .output, .plain .currency, some "0"⟩
      (Extraction.ofCoercion prices.signature.contextName "price" 0 .hugeAmount) :=
    .coercion rfl refused
  have first {α : Type} (item : α) (rest : List α) : item :: rest = [] ++ item :: rest := rfl
  exact Extraction.direct_error_iff.mpr (.element rfl (by simp) (first _ _) (by simp)
    (.place (by simp) (first _ _) (by simp) place))

/-- Of three replies the second has an amount of 401 digits: polling is not there any more for the
third. -/
theorem poll_survives_iff_huge :
    let cache := Path.Cache.empty 256
    let replies : List Reply :=
      [⟨.epoch, .unreachable "down"⟩, ⟨.epoch, .response 200 hugeBody⟩, ⟨.epoch, .response 404 []⟩]
    (prices.signature.IsValid ∧ cache.Faithful ∧ 0 ≤ prices.interval none) ∧
      ReplyOverruns prices ⟨.epoch, .response 200 hugeBody⟩ ∧
      (prices.poll cache none none replies).ending ≠ .awaiting := by
  intro cache replies
  have valid : prices.signature.IsValid := ⟨by decide, by decide⟩
  have faithful : cache.Faithful := Path.Cache.faithful_empty 256
  have nonneg : 0 ≤ prices.interval none := by decide
  obtain ⟨n, read, huge⟩ := readBytes_hugeBody
  have overruns : ReplyOverruns prices ⟨.epoch, .response 200 hugeBody⟩ :=
    .response rfl read
      ((Extraction.direct_unforeseen_iff _ valid _).mp ⟨_, prices_fails huge, rfl⟩)
  refine ⟨⟨valid, faithful, nonneg⟩, overruns, fun awaiting => ?_⟩
  have held := (poll_survives_iff prices none none valid faithful nonneg replies).1.mp awaiting
  exact (held ⟨.epoch, .response 200 hugeBody⟩ (by simp [replies])).2 overruns

/-- An amount of 401 digits ends the polling behind the first request, although the signature and
the interval are as they should be. -/
theorem poll_ends_of_huge_amount :
    let replies : List Reply :=
      [⟨.epoch, .response 200 hugeBody⟩, ⟨.epoch, .response 200 [0x5b, 0x5d]⟩]
    prices.signature.IsValid ∧ 0 ≤ prices.interval none ∧
      prices.poll (Path.Cache.empty 256) none none replies =
        ⟨[.request (prices.url none) prices.requestHeaders],
          .failed (.fetch (.extraction .hugeAmount))⟩ := by
  intro replies
  have nonneg : 0 ≤ prices.interval none := by decide
  obtain ⟨n, read, huge⟩ := readBytes_hugeBody
  have loaded := (payload_ok_iff (prices.url none)).mpr ⟨200, hugeBody, rfl, rfl, read⟩
  have whole : prices.directFetch none ⟨.epoch, .response 200 hugeBody⟩ =
      .error (.extraction .hugeAmount) := by
    rw [directFetch, loaded]
    exact Traversal.mapError_error_iff.mpr ⟨_, prices_fails huge, rfl⟩
  have same := (prices.fetch_agrees none (Path.Cache.faithful_empty 256) _).same.trans whole
  rcases fetched : prices.fetch (Path.Cache.empty 256) none ⟨.epoch, .response 200 hugeBody⟩ with
    ⟨outcome, after⟩
  rw [fetched] at same
  refine ⟨⟨by decide, by decide⟩, nonneg, ?_⟩
  rw [poll_of_nonneg prices _ none none nonneg]
  exact pollFrom_cons_of_unforeseen prices none fetched _ _ same rfl

end Poll

end TypedRecords.Source
