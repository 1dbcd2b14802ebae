import TypedRecords.Proofs.Coercion.Strictness
import TypedRecords.Proofs.Extraction.Direct

/-!
Extraction in the two modes.  The elements and the places of their values are the same in both, so
that strict mode differs by the rejections of coercion alone.
-/

set_option autoImplicit false

namespace TypedRecords.Extraction

open TypedRecords.Coercion (coerce_filters)

variable {clock : Calendar.Clock}

/-- Whether a failure of an extraction is the rejection of a value. -/
def IsRejection (failure : Failure) : Prop :=
  ∃ rejection function argument element,
    failure = .rejected rejection function argument element

section Direct

variable (settings : Settings) (function : Option String)

private theorem directField_filters (element : Value) (index : Nat) (arg : Argument) :
    Filters IsRejection
      (directField clock (settings.withStrict true) function element index arg)
      (directField clock (settings.withStrict false) function element index arg) := by
  unfold directField
  cases Path.follow element (place arg) with
  | error cause => exact Filters.refl _
  | ok raw =>
    refine (coerce_filters settings arg.type raw).mapError ?_
    rintro failure ⟨rejection, rfl⟩
    exact ⟨rejection, function, arg.name, index, rfl⟩

private theorem directRecord_filters (outputs : List Argument) (index : Nat) (element : Value) :
    Filters IsRejection
      (directRecord clock (settings.withStrict true) function outputs index element)
      (directRecord clock (settings.withStrict false) function outputs index element) := by
  cases element with
  | null => exact Filters.refl _
  | _ => exact Filters.mapM (fun arg => (directField_filters settings function _ index arg).map _) _

private theorem directRecords_filters (outputs : List Argument) (index : Nat)
    (elements : List Value) :
    Filters IsRejection
      (directRecords clock (settings.withStrict true) function outputs index elements)
      (directRecords clock (settings.withStrict false) function outputs index elements) := by
  unfold directRecords
  refine Filters.mapM (fun item => ?_) _
  exact directRecord_filters settings function outputs item.2 item.1

private theorem direct_filters (raw : Value) (signature : Signature) :
    Filters IsRejection (direct clock (settings.withStrict true) raw signature)
      (direct clock (settings.withStrict false) raw signature) := by
  unfold direct
  cases directBody raw signature with
  | error cause => exact Filters.refl _
  | ok value =>
    cases value with
    | null => exact Filters.refl _
    | _ => exact directRecords_filters settings _ _ 0 _

end Direct

private theorem run_filters (settings : Settings) {cache other : Path.Cache}
    (faithful : cache.Faithful)
    (otherFaithful : other.Faithful) (raw : Value) (signature : Signature) :
    Filters IsRejection (run clock (settings.withStrict true) cache raw signature).1
      (run clock (settings.withStrict false) other raw signature).1 := by
  rw [(run_agrees _ _ faithful raw signature).same,
    (run_agrees _ _ otherFaithful raw signature).same]
  exact direct_filters settings raw signature

private theorem once_filters (settings : Settings) (raw : Value) (signature : Signature) :
    Filters IsRejection (once clock (settings.withStrict true) raw signature)
      (once clock (settings.withStrict false) raw signature) := by
  by_cases nonneg : 0 ≤ settings.cacheSize
  · have strict : 0 ≤ (settings.withStrict true).cacheSize := nonneg
    have permissive : 0 ≤ (settings.withStrict false).cacheSize := nonneg
    rw [once_eq_direct strict, once_eq_direct permissive]
    exact direct_filters settings raw signature
  · have strict : (settings.withStrict true).cacheSize < 0 := Int.not_le.mp nonneg
    have permissive : (settings.withStrict false).cacheSize < 0 := Int.not_le.mp nonneg
    rw [once_of_negative strict, once_of_negative permissive]
    exact Filters.refl _

/-- What strict mode lets pass is the same in permissive mode, be it a value, records of an
extractor or of an extraction by itself; and where strict mode gives something else, it rejects a
value. -/
theorem strict_only_rejects (settings : Settings) {cache other : Path.Cache}
    (faithful : cache.Faithful) (otherFaithful : other.Faithful) :
    (∀ type value,
      (∀ result, coerce clock (settings.withStrict true) type value = .ok result →
        coerce clock (settings.withStrict false) type value = .ok result) ∧
      Filters Coercion.IsRejection (coerce clock (settings.withStrict true) type value)
        (coerce clock (settings.withStrict false) type value)) ∧
    (∀ raw signature,
      (∀ records, (run clock (settings.withStrict true) cache raw signature).1 = .ok records →
        (run clock (settings.withStrict false) other raw signature).1 = .ok records) ∧
      Filters IsRejection (run clock (settings.withStrict true) cache raw signature).1
        (run clock (settings.withStrict false) other raw signature).1) ∧
    ∀ raw signature,
      (∀ records, once clock (settings.withStrict true) raw signature = .ok records →
        once clock (settings.withStrict false) raw signature = .ok records) ∧
      Filters IsRejection (once clock (settings.withStrict true) raw signature)
        (once clock (settings.withStrict false) raw signature) := by
  refine ⟨fun type value => ?_, fun raw signature => ?_, fun raw signature => ?_⟩
  · have filters := @coerce_filters clock settings type value
    exact ⟨fun _ passed => filters.ok passed, filters⟩
  · have filters := @run_filters clock settings _ _ faithful otherFaithful raw signature
    exact ⟨fun _ passed => filters.ok passed, filters⟩
  · have filters := @once_filters clock settings raw signature
    exact ⟨fun _ passed => filters.ok passed, filters⟩

/-- The records that strict mode gives through a store without room are those that permissive mode
gives through the default one. -/
theorem strict_only_rejects_passing :
    let signature : Signature :=
      ⟨"price", [⟨"cost", .output, .plain .currency, some "offer.cost"⟩], some "data", none⟩
    let cost : Value := .object [("value", .text " 12.50"), ("unit", .text "EUR")]
    let raw : Value := .object [("data", .object [("offer", .object [("cost", cost)])])]
    let records : List Fields :=
      [[("cost", .currency ⟨.finite false 7036874417766400 (-49), "eur"⟩)]]
    (Path.Cache.empty 0).Faithful ∧ (Path.Cache.empty 256).Faithful ∧
      (run .epoch (Settings.default.withStrict true) (Path.Cache.empty 0) raw signature).1 =
        .ok records ∧
      (run .epoch (Settings.default.withStrict false) (Path.Cache.empty 256) raw signature).1 =
        .ok records := by
  intro signature cost raw records
  have faithful : (Path.Cache.empty 0).Faithful := Path.Cache.faithful_empty 0
  have otherFaithful : (Path.Cache.empty 256).Faithful := Path.Cache.faithful_empty 256
  have passed :
      (run .epoch (Settings.default.withStrict true) (Path.Cache.empty 0) raw signature).1 =
        .ok records := rfl
  obtain ⟨-, runs, -⟩ := strict_only_rejects Settings.default faithful otherFaithful
  exact ⟨faithful, otherFaithful, passed, (runs raw signature).1 records passed⟩

end TypedRecords.Extraction
