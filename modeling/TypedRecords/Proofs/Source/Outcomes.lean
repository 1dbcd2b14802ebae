import TypedRecords.Proofs.Extraction.History
import TypedRecords.Proofs.Numeric.IntegerRange
import TypedRecords.Source.Poll

/-!
Polling as a matter of what comes of the replies.  Through a faithful store each reply has the
outcome that it has by itself, and the run is told by the outcomes alone.
-/

set_option autoImplicit false

namespace TypedRecords

def Source.withCacheSize (source : Source) (size : Int) : Source :=
  { source with settings := { source.settings with cacheSize := size } }

namespace Source

abbrev Outcome := Except FetchFailure (List Fields)

/-- What comes of replies in their order, each with the store that the one before it leaves. -/
def outcomes (source : Source) (call : Option Fields) : Path.Cache → List Reply → List Outcome
  | _, [] => []
  | cache, reply :: rest =>
    let (outcome, after) := source.fetch cache call reply
    outcome :: outcomes source call after rest

/-- The outcome is records, or a failure that is a fault of the reply. -/
def IsForeseen (outcome : Outcome) : Prop :=
  ∀ failure, outcome = .error failure → failure.isForeseen = true

theorem not_isForeseen_iff {outcome : Outcome} :
    ¬ IsForeseen outcome ↔ ∃ failure, outcome = .error failure ∧ failure.isForeseen = false := by
  simp [IsForeseen]

def directFetch (source : Source) (call : Option Fields) (reply : Reply) : Outcome :=
  (payload (source.url call) reply.answer).bind fun value =>
    (Extraction.direct reply.clock source.settings value source.signature).mapError
      FetchFailure.extraction

section Store

variable (source : Source) (call : Option Fields)

theorem fetch_agrees {cache : Path.Cache} (faithful : cache.Faithful) (reply : Reply) :
    Extraction.Agrees (source.fetch cache call reply) (source.directFetch call reply) := by
  unfold fetch directFetch
  cases payload (source.url call) reply.answer with
  | error failure => exact ⟨rfl, faithful⟩
  | ok value =>
    obtain ⟨same, kept⟩ :=
      Extraction.run_agrees reply.clock source.settings faithful value source.signature
    exact ⟨congrArg (Except.mapError FetchFailure.extraction) same, kept⟩

/-- A store of its own, of whatever size it is, makes no difference for a reply. -/
theorem fetchOnce_withCacheSize {size : Int} (nonneg : 0 ≤ size) (reply : Reply) :
    (source.withCacheSize size).fetchOnce call reply = source.directFetch call reply := by
  have fresh : 0 ≤ ({ source.settings with cacheSize := size } : Settings).cacheSize := nonneg
  have once (value : Value) :
      Extraction.once reply.clock (source.withCacheSize size).settings value source.signature =
        Extraction.direct reply.clock source.settings value source.signature := by
    rw [← Extraction.direct_cacheSize source.settings size]
    exact Extraction.once_eq_direct fresh value source.signature
  change (payload (source.url call) reply.answer).bind (fun value =>
    (Extraction.once reply.clock (source.withCacheSize size).settings value
      source.signature).mapError _) = _
  simp only [once]
  rfl

theorem outcomes_eq_map {cache : Path.Cache} (faithful : cache.Faithful) (replies : List Reply) :
    source.outcomes call cache replies = replies.map (source.directFetch call) := by
  induction replies generalizing cache with
  | nil => rfl
  | cons reply rest ih =>
    obtain ⟨same, kept⟩ := source.fetch_agrees call faithful reply
    rw [List.map_cons, ← same, ← ih kept]
    rfl

end Store

section Pause

def intervalLimit : Nat :=
  millisecondsPerSecond * (Nat.pow 2 1024 - Nat.pow 2 970)

theorem pause?_eq_none_iff {interval : Int} (nonneg : 0 ≤ interval) :
    pause? interval = none ↔ (intervalLimit : Int) ≤ interval := by
  have scale : millisecondsPerSecond ≠ 0 := by decide
  unfold pause? intervalLimit
  rw [Numeric.Double.ofIntRatio?_eq_none_iff interval scale, Nat.mul_sub,
    Nat.mul_comm millisecondsPerSecond, Nat.mul_comm millisecondsPerSecond]
  generalize Nat.pow 2 1024 * millisecondsPerSecond = high
  generalize Nat.pow 2 970 * millisecondsPerSecond = half
  omega

end Pause

end Source

end TypedRecords
