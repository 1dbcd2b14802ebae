import TypedRecords.Proofs.Extraction.History
import TypedRecords.Proofs.Path.Room

/-!
The paths that an extraction looks up: one for the way to the elements, and one for every place of
the grid of elements and output arguments that has a path of its own, up to and with the first place
that fails.  The store of paths is touched by these lookups and by nothing else.
-/

set_option autoImplicit false

namespace TypedRecords.Extraction

open TypedRecords.Traversal (reached flatMap_reached_cons)
open TypedRecords.Path (Cache)

section Lookups

variable (clock : Calendar.Clock) (settings : Settings) (function : Option String)
  (outputs : List Argument)

/-- The paths that are looked up within an element: those of the output arguments that have one, as
far as the element is gone through. -/
def elementLookups (element : Value) (index : Nat) : List String :=
  (reached (directField clock settings function element index) outputs).flatMap fun arg =>
    (usable arg.sourcePath).toList

/-- The paths that are looked up for the record of an element; in null nothing is looked up. -/
def recordLookups (index : Nat) : Value → List String
  | .null => []
  | element => elementLookups clock settings function outputs element index

/-- The paths that are looked up for the records of elements from a position on, as far as these are
gone through. -/
def recordsLookups (index : Nat) (elements : List Value) : List String :=
  (reached (fun (element, index) => directRecord clock settings function outputs index element)
    (elements.zipIdx index)).flatMap fun (element, index) =>
    recordLookups clock settings function outputs index element

/-- The paths that are looked up in the part of a response that holds the elements. -/
def bodyLookups : Value → List String
  | .null => []
  | value => recordsLookups clock settings function outputs 0 (elements value)

end Lookups

def Call.lookups (settings : Settings) (call : Call) : List String :=
  (usable call.signature.sourcePath).toList ++
    match directBody call.raw call.signature with
    | .error _ => []
    | .ok value =>
      bodyLookups call.clock settings call.signature.contextName call.signature.outputs value

def storeAfter (settings : Settings) (cache : Cache) (calls : List Call) : Cache :=
  calls.foldl (fun cache call => (run call.clock settings cache call.raw call.signature).2) cache

section Store

variable (clock : Calendar.Clock) (settings : Settings) (function : Option String) {cache : Cache}

private theorem rawValue_store (cache : Cache) (element : Value) (arg : Argument) :
    (rawValue cache element arg).2 = cache.parseAll (usable arg.sourcePath).toList := by
  unfold rawValue
  cases usable arg.sourcePath <;> rfl

private theorem field_store (cache : Cache) (element : Value) (index : Nat) (arg : Argument) :
    (field clock settings function cache element index arg).2 =
      cache.parseAll (usable arg.sourcePath).toList := by
  rw [← rawValue_store cache element arg]
  unfold field
  rcases rawValue cache element arg with ⟨_ | _, _⟩ <;> rfl

private theorem fields_store (faithful : cache.Faithful) (element : Value) (index : Nat)
    (outputs : List Argument) :
    (fields clock settings function element index cache outputs).2 =
      cache.parseAll (elementLookups clock settings function outputs element index) := by
  induction outputs generalizing cache with
  | nil => rfl
  | cons arg rest ih =>
    obtain ⟨same, kept⟩ := field_agrees clock settings function faithful element index arg
    have store := field_store clock settings function cache element index arg
    unfold fields elementLookups
    rw [flatMap_reached_cons, ← same, Cache.parseAll_append, ← store]
    rcases head : field clock settings function cache element index arg with
      ⟨failure | value, after⟩
    · rfl
    · rw [head] at kept
      refine Eq.trans ?_ (ih kept)
      dsimp only
      rcases fields clock settings function element index after rest with ⟨_ | _, _⟩ <;> rfl

private theorem record_store (faithful : cache.Faithful) (outputs : List Argument) (index : Nat)
    (element : Value) :
    (record clock settings function outputs cache index element).2 =
      cache.parseAll (recordLookups clock settings function outputs index element) := by
  cases element with
  | null => rfl
  | _ => exact fields_store clock settings function faithful _ index outputs

private theorem records_store (faithful : cache.Faithful) (outputs : List Argument) (index : Nat)
    (elements : List Value) :
    (records clock settings function outputs cache index elements).2 =
      cache.parseAll (recordsLookups clock settings function outputs index elements) := by
  induction elements generalizing cache index with
  | nil => rfl
  | cons element rest ih =>
    obtain ⟨same, kept⟩ := record_agrees clock settings function faithful outputs index element
    have store := record_store clock settings function faithful outputs index element
    unfold records recordsLookups
    rw [List.zipIdx_cons, flatMap_reached_cons, Cache.parseAll_append]
    dsimp only
    rw [← same, ← store]
    rcases head : record clock settings function outputs cache index element with
      ⟨failure | first, after⟩
    · rfl
    · rw [head] at kept
      refine Eq.trans ?_ (ih kept (index + 1))
      dsimp only
      rcases records clock settings function outputs after (index + 1) rest with ⟨_ | _, _⟩ <;> rfl

private theorem body_store (cache : Cache) (raw : Value) (signature : Signature) :
    (body cache raw signature).2 = cache.parseAll (usable signature.sourcePath).toList := by
  unfold body
  cases usable signature.sourcePath <;> rfl

private theorem ofBody_store (faithful : cache.Faithful) (signature : Signature) (value : Value) :
    (ofBody clock settings cache signature value).2 =
      cache.parseAll
        (bodyLookups clock settings signature.contextName signature.outputs value) := by
  cases value with
  | null => rfl
  | _ => exact records_store clock settings signature.contextName faithful signature.outputs 0 _

private theorem run_store (faithful : cache.Faithful) (call : Call) :
    (run call.clock settings cache call.raw call.signature).2 =
      cache.parseAll (call.lookups settings) := by
  obtain ⟨same, kept⟩ := body_agrees faithful call.raw call.signature
  have store := body_store cache call.raw call.signature
  unfold run Call.lookups
  rw [← same]
  rcases found : body cache call.raw call.signature with ⟨cause | value, after⟩
  · rw [found] at store
    exact store.trans (by rw [List.append_nil])
  · rw [found] at kept store
    rw [Cache.parseAll_append, ← store]
    exact ofBody_store call.clock settings kept call.signature value

private theorem storeAfter_eq (faithful : cache.Faithful) (calls : List Call) :
    storeAfter settings cache calls = cache.parseAll (calls.flatMap (Call.lookups settings)) := by
  induction calls generalizing cache with
  | nil => rfl
  | cons call rest ih =>
    have kept := (run_agrees call.clock settings faithful call.raw call.signature).faithful
    rw [List.flatMap_cons, Cache.parseAll_append, ← run_store settings faithful call]
    exact ih kept

end Store

theorem newCache_ok_iff {settings : Settings} {cache : Cache} :
    newCache settings = .ok cache ↔
      0 ≤ settings.cacheSize ∧ cache = .empty settings.cacheSize.toNat := by
  unfold newCache Cache.capacity?
  split <;> simp_all [eq_comm]

private theorem ne_empty_of_usable {path : Option String} {text : String}
    (member : text ∈ (usable path).toList) : text ≠ "" := by
  have found : usable path = some text := by simpa using member
  obtain ⟨-, filled⟩ := Option.filter_eq_some_iff.mp found
  simpa using filled

private theorem ne_empty_of_mem_recordsLookups {clock : Calendar.Clock} {settings : Settings}
    {function : Option String} {outputs : List Argument} {index : Nat} {elements : List Value}
    {path : String}
    (member : path ∈ recordsLookups clock settings function outputs index elements) :
    path ≠ "" := by
  obtain ⟨⟨element, index⟩, -, within⟩ := List.mem_flatMap.mp member
  cases element with
  | null => cases within
  | _ =>
    obtain ⟨arg, -, asked⟩ := List.mem_flatMap.mp within
    exact ne_empty_of_usable asked

private theorem ne_empty_of_mem_lookups {settings : Settings} {call : Call} {path : String}
    (member : path ∈ call.lookups settings) : path ≠ "" := by
  rcases List.mem_append.mp member with own | inner
  · exact ne_empty_of_usable own
  · split at inner
    · cases inner
    · rename_i value _
      cases value with
      | null => cases inner
      | _ => exact ne_empty_of_mem_recordsLookups inner

/-- Calls of a new extractor touch its store by looking up paths, and by nothing else.  When there
is room for all of these paths, each of them has been missed once in the end, and is stored, and all
other lookups have found theirs. -/
theorem lookups_counted (settings : Settings) {size : Int} {cache : Cache}
    (fresh : newCache { settings with cacheSize := size } = .ok cache) (calls : List Call) :
    let looked := calls.flatMap (Call.lookups settings)
    let after := storeAfter settings cache calls
    after = cache.parseAll looked ∧ (∀ path ∈ looked, path ≠ "") ∧
      ((looked.toFinset.card : Int) ≤ size →
        after.misses = looked.toFinset.card ∧ after.size = looked.toFinset.card ∧
          after.hits + looked.toFinset.card = looked.length) := by
  intro looked after
  obtain ⟨nonneg, rfl⟩ := newCache_ok_iff.mp fresh
  have store : after = (Cache.empty size.toNat).parseAll looked :=
    storeAfter_eq settings (Cache.faithful_empty _) calls
  refine ⟨store, fun path member => ?_, fun few => ?_⟩
  · obtain ⟨call, -, asked⟩ := List.mem_flatMap.mp member
    exact ne_empty_of_mem_lookups asked
  · have roomy : after.HasRoom looked := by
      rw [store]
      exact Cache.hasRoom_parseAll (by omega)
    have stored : after.size = looked.toFinset.card := by
      rw [← Cache.length_dedup, ← roomy.stored, Cache.paths, List.length_map]
      rfl
    have queries := roomy.queries
    rw [roomy.misses] at queries
    exact ⟨roomy.misses, stored, queries⟩

/-- Two calls that fail at the second element, before its last path is looked up: the one name that
has no path leaves no trace, and of eight lookups five find what the other three have stored. -/
theorem lookups_counted_failing :
    let settings : Settings := { Settings.default with strict := true }
    let signature : Signature :=
      ⟨"find",
        [⟨"first", .output, .plain .string, some "b"⟩, ⟨"c", .output, .plain .string, none⟩,
          ⟨"last", .output, .plain .string, some "d"⟩],
        some "a", none⟩
    let raw : Value :=
      .object [("a", .list [.object [("b", .text "x"), ("c", .text "y")],
        .object [("b", .bool true)], .null])]
    let calls : List Call := [⟨.epoch, raw, signature⟩, ⟨.epoch, raw, signature⟩]
    let looked := calls.flatMap (Call.lookups settings)
    let cache := Cache.empty 3
    let after := storeAfter settings cache calls
    newCache { settings with cacheSize := 3 } = .ok cache ∧ (looked.toFinset.card : Int) ≤ 3 ∧
      looked = ["a", "b", "d", "b", "a", "b", "d", "b"] ∧
      after.misses = 3 ∧ after.size = 3 ∧ after.hits = 5 := by
  intro settings signature raw calls looked cache after
  have fresh : newCache { settings with cacheSize := 3 } = .ok cache := rfl
  have looked_eq : looked = ["a", "b", "d", "b", "a", "b", "d", "b"] := rfl
  have card : looked.toFinset.card = 3 := by rw [looked_eq]; rfl
  have length : looked.length = 8 := by rw [looked_eq]; rfl
  have few : (looked.toFinset.card : Int) ≤ 3 := by omega
  obtain ⟨-, -, counts⟩ := lookups_counted settings fresh calls
  obtain ⟨misses, stored, hits⟩ := counts few
  have found : after.hits + looked.toFinset.card = looked.length := hits
  rw [card, length] at found
  exact ⟨fresh, few, looked_eq, misses.trans card, stored.trans card, Nat.add_right_cancel found⟩

end TypedRecords.Extraction
