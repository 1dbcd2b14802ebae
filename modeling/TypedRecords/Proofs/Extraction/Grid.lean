import TypedRecords.Proofs.Extraction.Direct
import TypedRecords.Proofs.Signature.Valid
import TypedRecords.Proofs.Value.Fields

/-!
What an extraction gives, said of the grid of elements and output arguments: records when every
place of the grid has a value, and else the failure of the first place that has none, element by
element and within an element argument by argument.
-/

set_option autoImplicit false

namespace TypedRecords.Extraction

open TypedRecords.Traversal

variable {clock : Calendar.Clock}

/-- The value is what coercion makes of the part of an element to which an argument leads. -/
def Yields (clock : Calendar.Clock) (settings : Settings) (element : Value) (arg : Argument)
    (value : Value) : Prop :=
  ∃ raw, Path.follow element (place arg) = .ok raw ∧ coerce clock settings arg.type raw = .ok value

/-- The element is there, and every output argument has a value in it. -/
def Recordable (clock : Calendar.Clock) (settings : Settings) (signature : Signature)
    (element : Value) : Prop :=
  element ≠ .null ∧ ∀ arg ∈ signature.outputs, ∃ value, Yields clock settings element arg value

/-- The record of an element: the output arguments by name, in their order, with their values. -/
structure IsRecord (clock : Calendar.Clock) (settings : Settings) (signature : Signature)
    (element : Value) (record : Fields) : Prop where
  present : element ≠ .null
  names : record.map Prod.fst = signature.outputs.map Argument.name
  values : ∀ arg ∈ signature.outputs, ∃ value,
    Yields clock settings element arg value ∧ Fields.get? record arg.name = some value

/-- How a single place of the grid fails: where its argument leads, or in coercion. -/
inductive PlaceFails (clock : Calendar.Clock) (settings : Settings) (signature : Signature)
    (element : Value) (index : Nat) (arg : Argument) : Failure → Prop
  | lookup {cause : Path.LongIndex} :
      Path.follow element (place arg) = .error cause →
      PlaceFails clock settings signature element index arg (.longIndex cause)
  | coercion {raw : Value} {cause : Coercion.Failure} :
      Path.follow element (place arg) = .ok raw →
        coerce clock settings arg.type raw = .error cause →
      PlaceFails clock settings signature element index arg
        (ofCoercion signature.contextName arg.name index cause)

/-- How an element fails: it is null, or else as the first of its places that fails. -/
inductive ElementFails (clock : Calendar.Clock) (settings : Settings) (signature : Signature)
    (element : Value) (index : Nat) : Failure → Prop
  | null : element = .null →
      ElementFails clock settings signature element index (.nullElement signature.contextName index)
  | place {before after : List Argument} {arg : Argument} {failure : Failure} :
      element ≠ .null → signature.outputs = before ++ arg :: after →
      (∀ earlier ∈ before, ∃ value, Yields clock settings element earlier value) →
      PlaceFails clock settings signature element index arg failure →
      ElementFails clock settings signature element index failure

/-- How a response fails: on the way to its elements, as null, or as its first element that
fails. -/
inductive ResponseFails (clock : Calendar.Clock) (settings : Settings) (signature : Signature)
    (raw : Value) :
    Failure → Prop
  | lookup {cause : Path.LongIndex} : directBody raw signature = .error cause →
      ResponseFails clock settings signature raw (.longIndex cause)
  | null : directBody raw signature = .ok .null →
      ResponseFails clock settings signature raw
        (.nullResponse (usable signature.sourcePath) signature.contextName)
  | element {value element : Value} {before after : List Value} {failure : Failure} :
      directBody raw signature = .ok value → value ≠ .null →
      elements value = before ++ element :: after →
      (∀ earlier ∈ before, Recordable clock settings signature earlier) →
      ElementFails clock settings signature element before.length failure →
      ResponseFails clock settings signature raw failure

section Place

variable {settings : Settings} {signature : Signature} {element : Value} {index : Nat}

private theorem directField_ok_iff {function : Option String} {arg : Argument} {value : Value} :
    directField clock settings function element index arg = .ok value ↔
      Yields clock settings element arg value := by
  unfold directField Yields
  cases Path.follow element (place arg) with
  | error cause => simp
  | ok raw => simp

private theorem directField_error_iff {arg : Argument} {failure : Failure} :
    directField clock settings signature.contextName element index arg = .error failure ↔
      PlaceFails clock settings signature element index arg failure := by
  unfold directField
  cases found : Path.follow element (place arg) with
  | error cause =>
    constructor
    · rintro ⟨⟩
      exact .lookup found
    · rintro (same | same)
      · obtain rfl := Except.error.inj (found.symm.trans same)
        rfl
      · cases found.symm.trans same
  | ok raw =>
    dsimp only
    rw [mapError_error_iff]
    constructor
    · rintro ⟨cause, refused, rfl⟩
      exact .coercion found refused
    · rintro (same | ⟨same, refused⟩)
      · cases found.symm.trans same
      · obtain rfl := Except.ok.inj (found.symm.trans same)
        exact ⟨_, refused, rfl⟩

end Place

section Element

variable {settings : Settings} {signature : Signature} {element : Value} {index : Nat}

theorem directRecord_of_ne_null {function : Option String} {outputs : List Argument}
    (present : element ≠ .null) :
    directRecord clock settings function outputs index element =
      directFields clock settings function outputs element index := by
  cases element with
  | null => exact absurd rfl present
  | _ => rfl

theorem directFields_ok_iff {function : Option String} {outputs : List Argument}
    {record : Fields} :
    directFields clock settings function outputs element index = .ok record ↔
      List.Forall₂ (fun arg field => ∃ value,
        Yields clock settings element arg value ∧ field = (arg.name, value)) outputs record := by
  unfold directFields
  simp only [mapM_ok_iff, map_ok_iff, directField_ok_iff]

private theorem directFields_names {function : Option String} {outputs : List Argument}
    {record : Fields}
    (made : directFields clock settings function outputs element index = .ok record) :
    record.map Prod.fst = outputs.map Argument.name := by
  rw [directFields_ok_iff] at made
  induction made with
  | nil => rfl
  | cons head _ ih =>
    obtain ⟨value, -, rfl⟩ := head
    simp only [List.map_cons, ih]

private theorem directFields_succeeds_iff {function : Option String} {outputs : List Argument} :
    (∃ record, directFields clock settings function outputs element index = .ok record) ↔
      ∀ arg ∈ outputs, ∃ value, Yields clock settings element arg value := by
  unfold directFields
  rw [exists_mapM_ok_iff]
  refine forall₂_congr fun arg _ => ?_
  simp only [map_ok_iff, directField_ok_iff]
  constructor
  · rintro ⟨field, value, yields, -⟩
    exact ⟨value, yields⟩
  · rintro ⟨value, yields⟩
    exact ⟨(arg.name, value), value, yields, rfl⟩

private theorem directFields_error_iff {failure : Failure} :
    directFields clock settings signature.contextName signature.outputs element index =
      .error failure ↔
      ∃ before arg after, signature.outputs = before ++ arg :: after ∧
        (∀ earlier ∈ before, ∃ value, Yields clock settings element earlier value) ∧
        PlaceFails clock settings signature element index arg failure := by
  have earlier_iff (before : List Argument) :
      AllSucceed (fun arg =>
          (directField clock settings signature.contextName element index arg).map
            fun value => (arg.name, value)) before ↔
        ∀ earlier ∈ before, ∃ value, Yields clock settings element earlier value := by
    rw [← exists_mapM_ok_iff]
    exact directFields_succeeds_iff
  unfold directFields
  rw [mapM_error_iff]
  refine exists_congr fun before => exists_congr fun arg => exists_congr fun after => ?_
  rw [map_error_iff, directField_error_iff]
  exact and_congr_right fun _ => and_congr_left fun _ => earlier_iff before

private theorem directRecord_succeeds_iff :
    (∃ record, directRecord clock settings signature.contextName signature.outputs index element =
        .ok record) ↔ Recordable clock settings signature element := by
  by_cases absent : element = .null
  · subst absent
    simp [directRecord, Recordable]
  · rw [directRecord_of_ne_null absent, directFields_succeeds_iff]
    exact ⟨fun values => ⟨absent, values⟩, fun recordable => recordable.2⟩

private theorem directRecord_error_iff {failure : Failure} :
    directRecord clock settings signature.contextName signature.outputs index element =
        .error failure ↔ ElementFails clock settings signature element index failure := by
  by_cases absent : element = .null
  · subst absent
    constructor
    · rintro ⟨⟩
      exact .null rfl
    · rintro (_ | ⟨present, -, -, -⟩)
      · rfl
      · exact absurd rfl present
  · rw [directRecord_of_ne_null absent, directFields_error_iff]
    constructor
    · rintro ⟨before, arg, after, split, clean, fails⟩
      exact .place absent split clean fails
    · rintro (null | ⟨-, split, clean, fails⟩)
      · exact absurd null absent
      · exact ⟨_, _, _, split, clean, fails⟩

private theorem isRecord_of_directRecord (valid : signature.IsValid) {record : Fields}
    (made : directRecord clock settings signature.contextName signature.outputs index element =
      .ok record) : IsRecord clock settings signature element record := by
  have present : element ≠ .null := (directRecord_succeeds_iff.mp ⟨record, made⟩).1
  rw [directRecord_of_ne_null present] at made
  have names := directFields_names made
  refine ⟨present, names, fun arg member => ?_⟩
  obtain ⟨field, found, value, yields, rfl⟩ :=
    exists_mem_of_forall₂ (directFields_ok_iff.mp made) member
  have distinct : (record.map Prod.fst).Nodup := names ▸ valid.outputs_distinct
  exact ⟨value, yields, Fields.get?_of_mem distinct found⟩

end Element

section Response

variable {settings : Settings} {signature : Signature}

private theorem directRecords_succeeds_iff {index : Nat} {elements : List Value} :
    (∃ records,
        directRecords clock settings signature.contextName signature.outputs index elements =
          .ok records) ↔
      ∀ element ∈ elements, Recordable clock settings signature element := by
  unfold directRecords
  rw [exists_mapM_ok_iff]
  exact allSucceed_zipIdx (fun element index => directRecord_succeeds_iff) elements index

private theorem directRecords_error_iff {index : Nat} {elements : List Value} {failure : Failure} :
    directRecords clock settings signature.contextName signature.outputs index elements =
        .error failure ↔
      ∃ before element after, elements = before ++ element :: after ∧
        (∀ earlier ∈ before, Recordable clock settings signature earlier) ∧
        ElementFails clock settings signature element (index + before.length) failure := by
  unfold directRecords
  rw [mapM_error_iff, firstFails_zipIdx]
  refine exists_congr fun before => exists_congr fun element => exists_congr fun after => ?_
  rw [allSucceed_zipIdx (fun element index => directRecord_succeeds_iff), directRecord_error_iff]

private theorem isRecord_of_directRecords (valid : signature.IsValid) {index : Nat}
    {elements : List Value} {records : List Fields}
    (made : directRecords clock settings signature.contextName signature.outputs index elements =
      .ok records) : List.Forall₂ (IsRecord clock settings signature) elements records := by
  unfold directRecords at made
  rw [mapM_ok_iff] at made
  rw [← List.zipIdx_map_fst index elements, List.forall₂_map_left_iff]
  exact made.imp fun _ _ head => isRecord_of_directRecord valid head

theorem directOfBody_of_ne_null {value : Value} (present : value ≠ .null) :
    directOfBody clock settings signature value =
      directRecords clock settings signature.contextName signature.outputs 0 (elements value) := by
  cases value with
  | null => exact absurd rfl present
  | _ => rfl

private theorem direct_succeeds_iff {raw : Value} :
    (∃ records, direct clock settings raw signature = .ok records) ↔
      ∃ value, directBody raw signature = .ok value ∧ value ≠ .null ∧
        ∀ element ∈ elements value, Recordable clock settings signature element := by
  unfold direct
  cases directBody raw signature with
  | error cause => simp
  | ok value =>
    dsimp only
    by_cases absent : value = .null
    · subst absent
      simp [directOfBody]
    · rw [directOfBody_of_ne_null absent, directRecords_succeeds_iff]
      constructor
      · intro all
        exact ⟨value, rfl, absent, all⟩
      · rintro ⟨other, same, -, all⟩
        obtain rfl := Except.ok.inj same
        exact all

theorem direct_error_iff {raw : Value} {failure : Failure} :
    direct clock settings raw signature = .error failure ↔
      ResponseFails clock settings signature raw failure := by
  unfold direct
  cases found : directBody raw signature with
  | error cause =>
    constructor
    · rintro ⟨⟩
      exact .lookup found
    · rintro (same | same | ⟨same, -, -, -, -⟩)
      · obtain rfl := Except.error.inj (found.symm.trans same)
        rfl
      · cases found.symm.trans same
      · cases found.symm.trans same
  | ok value =>
    dsimp only
    by_cases absent : value = .null
    · subst absent
      constructor
      · rintro ⟨⟩
        exact .null found
      · rintro (same | _ | ⟨same, present, -, -, -⟩)
        · cases found.symm.trans same
        · rfl
        · exact absurd (Except.ok.inj (found.symm.trans same)).symm present
    · rw [directOfBody_of_ne_null absent, directRecords_error_iff]
      simp only [Nat.zero_add]
      constructor
      · rintro ⟨before, element, after, split, clean, fails⟩
        exact .element found absent split clean fails
      · rintro (same | same | ⟨same, -, split, clean, fails⟩)
        · cases found.symm.trans same
        · exact absurd (Except.ok.inj (found.symm.trans same)) absent
        · obtain rfl := Except.ok.inj (found.symm.trans same)
          exact ⟨_, _, _, split, clean, fails⟩

private theorem isRecord_of_direct (valid : signature.IsValid) {raw : Value} {records : List Fields}
    (made : direct clock settings raw signature = .ok records) :
    ∃ value, directBody raw signature = .ok value ∧
      List.Forall₂ (IsRecord clock settings signature) (elements value) records := by
  obtain ⟨value, found, present, -⟩ := direct_succeeds_iff.mp ⟨records, made⟩
  refine ⟨value, found, ?_⟩
  unfold direct at made
  rw [found] at made
  dsimp only at made
  rw [directOfBody_of_ne_null present] at made
  exact isRecord_of_directRecords valid made

end Response

section Context

variable {settings : Settings} {signature : Signature} {element : Value} {index : Nat}

private theorem context_of_element (function argument : Option String) (index : Nat) :
    Context.of? function argument (some (index : Int)) =
      some ⟨function, argument, some (index : Int)⟩ := by
  simp [Context.of?, Context.parts]

theorem PlaceFails.context {arg : Argument} {failure : Failure}
    (fails : PlaceFails clock settings signature element index arg failure)
    (foreseen : failure.isForeseen = true) :
    failure.context = some ⟨signature.contextName, some arg.name, some (index : Int)⟩ := by
  cases fails with
  | lookup found => cases foreseen
  | @coercion raw cause _ _ =>
    cases cause with
    | rejected rejection => exact context_of_element _ _ _
    | hugeAmount => cases foreseen
    | indivisibleDate => cases foreseen

end Context

/-- An extraction gives records exactly when the response is there and every element of it can be
recorded; these are then the records of the elements, in their order.  Else it fails as the first
place of the grid that fails, and tells where that is. -/
theorem run_by_grid (settings : Settings) {cache : Path.Cache} (faithful : cache.Faithful)
    (raw : Value) {signature : Signature} (valid : signature.IsValid) :
    ((∃ records, (run clock settings cache raw signature).1 = .ok records) ↔
      ∃ value, directBody raw signature = .ok value ∧ value ≠ .null ∧
        ∀ element ∈ elements value, Recordable clock settings signature element) ∧
    (∀ records, (run clock settings cache raw signature).1 = .ok records →
      ∃ value, directBody raw signature = .ok value ∧
        List.Forall₂ (IsRecord clock settings signature) (elements value) records) ∧
    (∀ failure, (run clock settings cache raw signature).1 = .error failure ↔
      ResponseFails clock settings signature raw failure) ∧
    (∀ index : Nat, (Failure.nullElement signature.contextName index).context =
      some ⟨signature.contextName, none, some (index : Int)⟩) ∧
    ∀ element (index : Nat) arg failure,
      PlaceFails clock settings signature element index arg failure → failure.isForeseen = true →
      failure.context = some ⟨signature.contextName, some arg.name, some (index : Int)⟩ := by
  obtain ⟨same, -⟩ := run_agrees clock settings faithful raw signature
  rw [same]
  refine ⟨direct_succeeds_iff, ?_, fun failure => direct_error_iff, ?_, ?_⟩
  · intro records made
    exact isRecord_of_direct valid made
  · intro index
    exact context_of_element signature.contextName none index
  · intro element index arg failure fails foreseen
    exact fails.context foreseen

/-- In strict mode a text that is no number fails the second argument of the second element. -/
theorem run_by_grid_second_element :
    let settings : Settings := { Settings.default with strict := true }
    let signature : Signature :=
      ⟨"find",
        [⟨"query", .input, .plain .string, none⟩, ⟨"id", .output, .plain .string, none⟩,
          ⟨"count", .output, .plain .number, some "stock.count"⟩],
        some "items", none⟩
    let element (id : String) (count : Value) : Value :=
      .object [("id", .text id), ("stock", .object [("count", count)])]
    let raw : Value :=
      .object [("items", .list [element "a" (.text "3"), element "b" (.text "few"), .null])]
    (Path.Cache.empty 1).Faithful ∧ signature.IsValid ∧
      ResponseFails .epoch settings signature raw
        (.rejected (.notNumber "few") (some "find") "count" 1) := by
  intro settings signature element raw
  have faithful : (Path.Cache.empty 1).Faithful := Path.Cache.faithful_empty 1
  have valid : signature.IsValid := ⟨by decide, by decide⟩
  refine ⟨faithful, valid, ?_⟩
  exact ((run_by_grid settings faithful raw valid).2.2.1 _).mp rfl

end TypedRecords.Extraction
