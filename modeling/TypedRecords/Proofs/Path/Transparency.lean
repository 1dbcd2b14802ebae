import TypedRecords.Proofs.Path.Calls
import TypedRecords.Proofs.Path.Faithful

/-!
A store makes no difference to what its clients find.  As long as they store no path with other
segments than its own, every step has the answer that it has without a store, and whatever the step
comes to, the store behind it is faithful again.
-/

set_option autoImplicit false

namespace TypedRecords.Path.Cache

/-- A call that stores no path with other segments than its own. -/
def Call.IsHonest : Call → Prop
  | .put path parts => parts = segments path
  | _ => True

/-- What a client does: it makes an honest call, or it follows segments that it has already, for
which no store is asked. -/
inductive Step where
  | call (call : Call) (honest : call.IsHonest)
  | follow (value : Value) (parts : List String)

inductive Answer where
  | parts (parts : List String)
  | target (outcome : Except LongIndex Value)
  | stored (parts? : Option (List String))
  | held (known : Bool)
  | nothing

def answer (cache : Cache) : Call → Answer
  | .parse path => .parts (cache.parse path).1
  | .lookup value path => .target (cache.lookup value path).1
  | .get path => .stored (cache.get path).1
  | .put _ _ => .nothing
  | .holds path => .held (cache.holds path)
  | .clear => .nothing

def run (cache : Cache) : Step → Answer × Cache
  | .call call _ => (cache.answer call, cache.after call)
  | .follow value parts => (.target (Path.follow value parts), cache)

/-- Steps in a row: the answer of each with the store that it leaves to the next. -/
def trace (cache : Cache) : List Step → List (Answer × Cache)
  | [] => []
  | step :: rest => cache.run step :: trace (cache.run step).2 rest

/-- An answer to which the store made no difference: the segments of the very path, and the part of
the value to which these lead, or the failure of the way there.  A client that asks for what is
stored may also be told that nothing is, and what is told of the store itself is left open. -/
inductive Admits : Step → Answer → Prop
  | parse (path : String) (honest : (Call.parse path).IsHonest) :
      Admits (.call (.parse path) honest) (.parts (segments path))
  | lookup (value : Value) (path : String) (honest : (Call.lookup value path).IsHonest) :
      Admits (.call (.lookup value path) honest) (.target (Path.lookup value path))
  | follow (value : Value) (parts : List String) :
      Admits (.follow value parts) (.target (Path.follow value parts))
  | missing (path : String) (honest : (Call.get path).IsHonest) :
      Admits (.call (.get path) honest) (.stored none)
  | stored (path : String) (honest : (Call.get path).IsHonest) :
      Admits (.call (.get path) honest) (.stored (some (segments path)))
  | put (path : String) (parts : List String) (honest : (Call.put path parts).IsHonest) :
      Admits (.call (.put path parts) honest) .nothing
  | holds (path : String) (known : Bool) (honest : (Call.holds path).IsHonest) :
      Admits (.call (.holds path) honest) (.held known)
  | clear (honest : Call.clear.IsHonest) : Admits (.call .clear honest) .nothing

theorem Faithful.after {cache : Cache} (faithful : cache.Faithful) {call : Call}
    (honest : call.IsHonest) : (cache.after call).Faithful := by
  cases call with
  | parse path => exact (faithful.parse path).2
  | lookup value path => exact (faithful.lookup value path).2
  | get path => exact faithful.get_snd path
  | put path parts =>
    obtain rfl : parts = segments path := honest
    exact faithful.put path
  | holds path => exact faithful
  | clear => exact faithful_empty _

theorem Faithful.answer {cache : Cache} (faithful : cache.Faithful) {call : Call}
    (honest : call.IsHonest) : Admits (.call call honest) (cache.answer call) := by
  cases call with
  | parse path =>
    rw [Cache.answer, (faithful.parse path).1]
    exact .parse path honest
  | lookup value path =>
    rw [Cache.answer, (faithful.lookup value path).1]
    exact .lookup value path honest
  | get path =>
    rw [Cache.answer]
    rcases faithful.get_fst path with missing | stored
    · rw [missing]
      exact .missing path honest
    · rw [stored]
      exact .stored path honest
  | put path parts => exact .put path parts honest
  | holds path => exact .holds path _ honest
  | clear => exact .clear honest

theorem Faithful.run {cache : Cache} (faithful : cache.Faithful) (step : Step) :
    Admits step (cache.run step).1 ∧ (cache.run step).2.Faithful := by
  cases step with
  | call call honest => exact ⟨faithful.answer honest, faithful.after honest⟩
  | follow value parts => exact ⟨.follow value parts, faithful⟩

/-- Whatever steps come one after the other in a new store of whatever capacity, each has an answer
to which the store made no difference, and behind each, also behind a way that fails, every stored
path has its own segments. -/
theorem trace_transparent (capacity : Nat) (steps : List Step) :
    (empty capacity).Faithful ∧
      List.Forall₂ (fun step result => Admits step result.1 ∧ result.2.Faithful) steps
        ((empty capacity).trace steps) := by
  have transparent : ∀ cache : Cache, cache.Faithful →
      List.Forall₂ (fun step result => Admits step result.1 ∧ result.2.Faithful) steps
        (cache.trace steps) := by
    induction steps with
    | nil => exact fun _ _ => .nil
    | cons step rest ih =>
      intro cache faithful
      have passed := faithful.run step
      exact .cons passed (ih _ passed.2)
  exact ⟨faithful_empty capacity, transparent _ (faithful_empty capacity)⟩

/-- Honesty matters: a path that is stored with other segments is read as these. -/
example : (((empty 1).put "a" ["b"]).parse "a").1 = ["b"] := by decide

end TypedRecords.Path.Cache
