import TypedRecords.Extraction.Basic
import TypedRecords.Proofs.Path.Faithful
import TypedRecords.Proofs.Traversal

/-!
Extraction without a store of paths: every path is parsed where it is followed.  With any faithful
store the records, or the failure, are the same, and the store stays faithful, also when the
extraction ends in the middle of a record.
-/

set_option autoImplicit false

namespace TypedRecords.Extraction

variable {clock : Calendar.Clock}

/-- The segments that lead to the value of an argument within an element. -/
def place (arg : Argument) : List String :=
  match usable arg.sourcePath with
  | some path => Path.segments path
  | none => [arg.name]

/-- The part of the response that holds the elements, reached without a store. -/
def directBody (raw : Value) (signature : Signature) : Except Path.LongIndex Value :=
  match usable signature.sourcePath with
  | some path => Path.lookup raw path
  | none => .ok raw

/-- The value of an argument in an element, reached without a store. -/
def directField (clock : Calendar.Clock) (settings : Settings) (function : Option String)
    (element : Value) (index : Nat) (arg : Argument) : Except Failure Value :=
  match Path.follow element (place arg) with
  | .error cause => .error (.longIndex cause)
  | .ok raw => (coerce clock settings arg.type raw).mapError (ofCoercion function arg.name index)

/-- The fields of the record of an element, reached without a store. -/
def directFields (clock : Calendar.Clock) (settings : Settings) (function : Option String)
    (outputs : List Argument) (element : Value) (index : Nat) : Except Failure Fields :=
  outputs.mapM fun arg =>
    (directField clock settings function element index arg).map fun value => (arg.name, value)

def directRecord (clock : Calendar.Clock) (settings : Settings) (function : Option String)
    (outputs : List Argument) (index : Nat) : Value → Except Failure Fields
  | .null => .error (.nullElement function index)
  | element => directFields clock settings function outputs element index

/-- The records of elements from a position on, made without a store. -/
def directRecords (clock : Calendar.Clock) (settings : Settings) (function : Option String)
    (outputs : List Argument) (index : Nat) (elements : List Value) :
    Except Failure (List Fields) :=
  (elements.zipIdx index).mapM fun (element, index) =>
    directRecord clock settings function outputs index element

/-- The records of the part of a response that holds the elements, made without a store. -/
def directOfBody (clock : Calendar.Clock) (settings : Settings) (signature : Signature) :
    Value → Except Failure (List Fields)
  | .null => .error (.nullResponse (usable signature.sourcePath) signature.contextName)
  | value => directRecords clock settings signature.contextName signature.outputs 0 (elements value)

def direct (clock : Calendar.Clock) (settings : Settings) (raw : Value) (signature : Signature) :
    Except Failure (List Fields) :=
  match directBody raw signature with
  | .error cause => .error (.longIndex cause)
  | .ok value => directOfBody clock settings signature value

/-- What comes of an operation with a store is what comes of it without one, and the store that is
handed on is faithful. -/
structure Agrees {α ε : Type} (outcome : Except ε α × Path.Cache) (result : Except ε α) : Prop where
  same : outcome.1 = result
  faithful : outcome.2.Faithful

theorem rawValue_agrees {cache : Path.Cache} (faithful : cache.Faithful) (element : Value)
    (arg : Argument) :
    Agrees (rawValue cache element arg) (Path.follow element (place arg)) := by
  unfold rawValue place
  cases usable arg.sourcePath with
  | none => exact ⟨rfl, faithful⟩
  | some path =>
    obtain ⟨same, kept⟩ := faithful.lookup element path
    exact ⟨same, kept⟩

theorem body_agrees {cache : Path.Cache} (faithful : cache.Faithful) (raw : Value)
    (signature : Signature) : Agrees (body cache raw signature) (directBody raw signature) := by
  unfold body directBody
  cases usable signature.sourcePath with
  | none => exact ⟨rfl, faithful⟩
  | some path =>
    obtain ⟨same, kept⟩ := faithful.lookup raw path
    exact ⟨same, kept⟩

section Grid

variable (clock : Calendar.Clock) (settings : Settings) (function : Option String)

theorem field_agrees {cache : Path.Cache} (faithful : cache.Faithful) (element : Value)
    (index : Nat) (arg : Argument) :
    Agrees (field clock settings function cache element index arg)
      (directField clock settings function element index arg) := by
  obtain ⟨same, kept⟩ := rawValue_agrees faithful element arg
  unfold field directField
  rw [← same]
  rcases found : rawValue cache element arg with ⟨cause | raw, after⟩
  · rw [found] at kept
    exact ⟨rfl, kept⟩
  · rw [found] at kept
    exact ⟨rfl, kept⟩

private theorem directFields_cons (element : Value) (index : Nat) (arg : Argument)
    (rest : List Argument) :
    directFields clock settings function (arg :: rest) element index =
      match directField clock settings function element index arg with
      | .error failure => .error failure
      | .ok value =>
        match directFields clock settings function rest element index with
        | .error failure => .error failure
        | .ok more => .ok ((arg.name, value) :: more) := by
  unfold directFields
  rw [Traversal.mapM_cons_eq]
  cases directField clock settings function element index arg with
  | error failure => rfl
  | ok value => cases (rest.mapM _ : Except Failure Fields) <;> rfl

private theorem directRecords_cons (outputs : List Argument) (index : Nat) (element : Value)
    (rest : List Value) :
    directRecords clock settings function outputs index (element :: rest) =
      match directRecord clock settings function outputs index element with
      | .error failure => .error failure
      | .ok first =>
        match directRecords clock settings function outputs (index + 1) rest with
        | .error failure => .error failure
        | .ok more => .ok (first :: more) := by
  unfold directRecords
  rw [List.zipIdx_cons, Traversal.mapM_cons_eq]
  dsimp only
  cases directRecord clock settings function outputs index element with
  | error failure => rfl
  | ok first => cases ((rest.zipIdx (index + 1)).mapM _ : Except Failure (List Fields)) <;> rfl

private theorem fields_agrees {cache : Path.Cache} (faithful : cache.Faithful) (element : Value)
    (index : Nat) (outputs : List Argument) :
    Agrees (fields clock settings function element index cache outputs)
      (directFields clock settings function outputs element index) := by
  induction outputs generalizing cache with
  | nil => exact ⟨rfl, faithful⟩
  | cons arg rest ih =>
    obtain ⟨same, kept⟩ := field_agrees clock settings function faithful element index arg
    unfold fields
    rw [directFields_cons, ← same]
    rcases head : field clock settings function cache element index arg with
      ⟨failure | value, after⟩
    · rw [head] at kept
      exact ⟨rfl, kept⟩
    · rw [head] at kept
      dsimp only at kept ⊢
      obtain ⟨sameRest, keptRest⟩ := ih kept
      rw [← sameRest]
      rcases tail : fields clock settings function element index after rest with
        ⟨failure | more, last⟩
      · rw [tail] at keptRest
        exact ⟨rfl, keptRest⟩
      · rw [tail] at keptRest
        exact ⟨rfl, keptRest⟩

theorem record_agrees {cache : Path.Cache} (faithful : cache.Faithful)
    (outputs : List Argument) (index : Nat) (element : Value) :
    Agrees (record clock settings function outputs cache index element)
      (directRecord clock settings function outputs index element) := by
  cases element with
  | null => exact ⟨rfl, faithful⟩
  | _ => exact fields_agrees clock settings function faithful _ index outputs

private theorem records_agrees {cache : Path.Cache} (faithful : cache.Faithful)
    (outputs : List Argument) (index : Nat) (elements : List Value) :
    Agrees (records clock settings function outputs cache index elements)
      (directRecords clock settings function outputs index elements) := by
  induction elements generalizing cache index with
  | nil => exact ⟨rfl, faithful⟩
  | cons element rest ih =>
    obtain ⟨same, kept⟩ := record_agrees clock settings function faithful outputs index element
    unfold records
    rw [directRecords_cons, ← same]
    rcases head : record clock settings function outputs cache index element with
      ⟨failure | first, after⟩
    · rw [head] at kept
      exact ⟨rfl, kept⟩
    · rw [head] at kept
      dsimp only at kept ⊢
      obtain ⟨sameRest, keptRest⟩ := ih kept (index + 1)
      rw [← sameRest]
      rcases tail : records clock settings function outputs after (index + 1) rest with
        ⟨failure | more, last⟩
      · rw [tail] at keptRest
        exact ⟨rfl, keptRest⟩
      · rw [tail] at keptRest
        exact ⟨rfl, keptRest⟩

end Grid

theorem run_agrees (clock : Calendar.Clock) (settings : Settings) {cache : Path.Cache}
    (faithful : cache.Faithful) (raw : Value) (signature : Signature) :
    Agrees (run clock settings cache raw signature) (direct clock settings raw signature) := by
  obtain ⟨same, kept⟩ := body_agrees faithful raw signature
  unfold run direct
  rw [← same]
  rcases found : body cache raw signature with ⟨cause | value, after⟩
  · rw [found] at kept
    exact ⟨rfl, kept⟩
  · rw [found] at kept
    cases value with
    | null => exact ⟨rfl, kept⟩
    | _ => exact records_agrees clock settings signature.contextName kept signature.outputs 0 _

theorem once_eq_direct {settings : Settings} (nonneg : 0 ≤ settings.cacheSize) (raw : Value)
    (signature : Signature) :
    once clock settings raw signature = direct clock settings raw signature := by
  unfold once newCache Path.Cache.capacity?
  rw [if_pos nonneg]
  exact (run_agrees clock settings (Path.Cache.faithful_empty _) raw signature).same

theorem once_of_negative {settings : Settings} (negative : settings.cacheSize < 0) (raw : Value)
    (signature : Signature) : once clock settings raw signature = .error .negativeCacheSize := by
  unfold once newCache Path.Cache.capacity?
  rw [if_neg (by omega)]
  rfl

end TypedRecords.Extraction
