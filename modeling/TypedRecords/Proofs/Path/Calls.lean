import Mathlib.Data.List.DropRight
import TypedRecords.Path.Cache

/-!
Calls of a store in a row, and what they leave behind: the store, and a log of what each call found.
-/

set_option autoImplicit false

namespace TypedRecords.Path.Cache

inductive Call where
  | parse (path : String)
  | lookup (value : Value) (path : String)
  | get (path : String)
  | put (path : String) (segments : List String)
  | holds (path : String)
  | clear

def Call.query? : Call → Option String
  | .parse path => some path
  | .lookup _ path => some path
  | .get path => some path
  | _ => none

def Call.stores? : Call → Option String
  | .parse path => some path
  | .lookup _ path => some path
  | .put path _ => some path
  | _ => none

def Call.isClear : Call → Bool
  | .clear => true
  | _ => false

def after (cache : Cache) : Call → Cache
  | .parse path => (cache.parse path).2
  | .lookup value path => (cache.lookup value path).2
  | .get path => (cache.get path).2
  | .put path segments => cache.put path segments
  | .holds _ => cache
  | .clear => cache.clear

def afterAll (cache : Cache) (calls : List Call) : Cache :=
  calls.foldl after cache

/-- A call as it was made: whether the store held the path that the call looks for. -/
structure Visit where
  call : Call
  found : Bool

def visit (cache : Cache) (call : Call) : Visit :=
  ⟨call, call.query?.any cache.holds⟩

def visits (cache : Cache) : List Call → List Visit
  | [] => []
  | call :: rest => cache.visit call :: visits (cache.after call) rest

namespace Visit

def isQuery (visit : Visit) : Bool :=
  visit.call.query?.isSome

/-- The path that a call touches: the one that it finds, or else the one that it stores in a store
that has room. -/
def touched? (capacity : Nat) (visit : Visit) : Option String :=
  if visit.found then visit.call.query?
  else if 0 < capacity then visit.call.stores?
  else none

theorem touched?_of_found {visit : Visit} (found : visit.found = true) (capacity : Nat) :
    visit.touched? capacity = visit.call.query? := by
  simp [touched?, found]

theorem touched?_of_not_found {visit : Visit} (missed : visit.found = false) (capacity : Nat) :
    visit.touched? capacity = if 0 < capacity then visit.call.stores? else none := by
  simp [touched?, missed]

/-- The part of a log behind the last call that makes the store forget. -/
def sinceClear (log : List Visit) : List Visit :=
  log.rtakeWhile fun visit => !visit.call.isClear

/-- The paths that were touched since the store last forgot, in the order of the touches. -/
def touches (capacity : Nat) (log : List Visit) : List String :=
  (sinceClear log).filterMap (touched? capacity)

theorem sinceClear_concat (log : List Visit) (visit : Visit) :
    sinceClear (log ++ [visit]) =
      if visit.call.isClear then [] else sinceClear log ++ [visit] := by
  unfold sinceClear
  rw [List.rtakeWhile_concat]
  cases visit.call.isClear <;> rfl

end Visit

theorem afterAll_concat (cache : Cache) (calls : List Call) (call : Call) :
    cache.afterAll (calls ++ [call]) = (cache.afterAll calls).after call := by
  simp [afterAll]

theorem visits_concat (cache : Cache) (calls : List Call) (call : Call) :
    cache.visits (calls ++ [call]) =
      cache.visits calls ++ [(cache.afterAll calls).visit call] := by
  induction calls generalizing cache with
  | nil => rfl
  | cons first rest ih => exact congrArg (cache.visit first :: ·) (ih (cache.after first))

end TypedRecords.Path.Cache
