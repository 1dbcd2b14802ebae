import TypedRecords.Proofs.Coercion.Basic
import TypedRecords.Proofs.Extraction.Direct

/-!
Calls of one extractor in a row.  The store of paths is handed on from call to call, also by a call
that fails in the middle of a record, and yet no call depends on those before it.
-/

set_option autoImplicit false

namespace TypedRecords.Extraction

variable {clock : Calendar.Clock}

/-- A call of an extractor: a response, the signature by which it is read, and the clock at the time
of the call. -/
structure Call where
  clock : Calendar.Clock
  raw : Value
  signature : Signature

/-- What comes of calls in their order, each with the store that the one before it leaves. -/
def outcomes (settings : Settings) : Path.Cache → List Call → List (Except Failure (List Fields))
  | _, [] => []
  | cache, call :: rest =>
    let (outcome, after) := run call.clock settings cache call.raw call.signature
    outcome :: outcomes settings after rest

section Size

variable (settings : Settings) (size : Int)

@[simp] private theorem directField_cacheSize (function : Option String) (element : Value)
    (index : Nat) (arg : Argument) :
    directField clock { settings with cacheSize := size } function element index arg =
      directField clock settings function element index arg := by
  unfold directField
  simp only [coerce_cacheSize]

@[simp] private theorem directRecord_cacheSize (function : Option String) (outputs : List Argument)
    (index : Nat) (element : Value) :
    directRecord clock { settings with cacheSize := size } function outputs index element =
      directRecord clock settings function outputs index element := by
  cases element with
  | null => rfl
  | _ => simp only [directRecord, directFields, directField_cacheSize]

/-- The size of the store that an extraction would have makes no difference without a store. -/
theorem direct_cacheSize (raw : Value) (signature : Signature) :
    direct clock { settings with cacheSize := size } raw signature =
      direct clock settings raw signature := by
  unfold direct
  cases directBody raw signature with
  | error cause => rfl
  | ok value =>
    cases value with
    | null => rfl
    | _ => simp only [directOfBody, directRecords, directRecord_cacheSize]

end Size

private theorem outcomes_eq_direct (settings : Settings) {cache : Path.Cache}
    (faithful : cache.Faithful) (calls : List Call) :
    outcomes settings cache calls =
      calls.map fun call => direct call.clock settings call.raw call.signature := by
  induction calls generalizing cache with
  | nil => rfl
  | cons call rest ih =>
    obtain ⟨same, kept⟩ := run_agrees call.clock settings faithful call.raw call.signature
    rw [List.map_cons, ← same, ← ih kept]
    rfl

/-- Whatever was called before, a call gives what it gives with a new store of its own, of whatever
size the store is.  Where the settings ask for a negative size there is no such store. -/
theorem outcomes_independent (settings : Settings) {cache : Path.Cache}
    (filled : cache.IsFilledByParsing) (calls : List Call) :
    (∀ size : Int, 0 ≤ size →
      outcomes settings cache calls =
        calls.map fun call =>
          once call.clock { settings with cacheSize := size } call.raw call.signature) ∧
    (settings.cacheSize < 0 →
      ∀ call ∈ calls,
        once call.clock settings call.raw call.signature = .error .negativeCacheSize) := by
  constructor
  · intro size nonneg
    rw [outcomes_eq_direct settings filled.faithful]
    refine List.map_congr_left fun call _ => ?_
    have fresh : 0 ≤ ({ settings with cacheSize := size } : Settings).cacheSize := nonneg
    rw [once_eq_direct fresh]
    exact (direct_cacheSize settings size call.raw call.signature).symm
  · intro negative call _
    exact once_of_negative negative call.raw call.signature

/-- Two calls with different paths and room for one, the first of which fails: under settings that
ask for a negative size they give what they give with a store without room. -/
theorem outcomes_independent_crowded :
    let settings : Settings := { Settings.default with strict := true, cacheSize := -1 }
    let signature (path : String) : Signature :=
      ⟨"find", [⟨"count", .output, .plain .number, some path⟩], none, none⟩
    let calls : List Call :=
      [⟨.epoch, .object [("a", .text "few")], signature "a"⟩,
        ⟨.epoch, .object [("b", .int 2)], signature "b"⟩]
    (Path.Cache.empty 1).IsFilledByParsing ∧
      outcomes settings (Path.Cache.empty 1) calls =
        calls.map (fun call =>
          once call.clock { settings with cacheSize := 0 } call.raw call.signature) ∧
      ∀ call ∈ calls,
        once call.clock settings call.raw call.signature = .error .negativeCacheSize := by
  intro settings signature calls
  have filled : (Path.Cache.empty 1).IsFilledByParsing := .empty 1
  obtain ⟨same, refused⟩ := outcomes_independent settings filled calls
  exact ⟨filled, same 0 (by decide), refused (by decide)⟩

/-- With a store that is there already the size in the settings is not asked for; without one, a
negative size ends the extraction before it begins. -/
theorem outcomes_ne_once_of_negative :
    let settings : Settings := { Settings.default with cacheSize := -1 }
    let calls : List Call := [⟨.epoch, .object [], ⟨"f", [], none, none⟩⟩]
    (Path.Cache.empty 4).IsFilledByParsing ∧
      outcomes settings (Path.Cache.empty 4) calls ≠
        calls.map fun call => once call.clock settings call.raw call.signature := by
  intro settings calls
  refine ⟨.empty 4, fun same => ?_⟩
  have parts : [Except.ok [[]]] = [(Except.error .negativeCacheSize : Except Failure _)] := same
  cases parts

end TypedRecords.Extraction
