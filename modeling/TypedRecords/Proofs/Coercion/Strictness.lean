import TypedRecords.Proofs.Coercion.Modes
import TypedRecords.Proofs.Traversal

/-!
Coercion in the two modes.  Whatever strict mode lets pass comes out as in permissive mode; all that
it adds are rejections.
-/

set_option autoImplicit false

namespace TypedRecords

variable {clock : Calendar.Clock}

/-- What an operation gives in strict mode is what it gives in permissive mode, or a refusal. -/
def Filters {α ε : Type} (refusal : ε → Prop) (strict permissive : Except ε α) : Prop :=
  strict = permissive ∨ ∃ failure, refusal failure ∧ strict = .error failure

namespace Filters

variable {α β ε : Type} {refusal : ε → Prop}

theorem refl (outcome : Except ε α) : Filters refusal outcome outcome :=
  Or.inl rfl

theorem refused {failure : ε} (refuses : refusal failure) (permissive : Except ε α) :
    Filters refusal (.error failure) permissive :=
  Or.inr ⟨failure, refuses, rfl⟩

theorem ok {strict permissive : Except ε α} (filters : Filters refusal strict permissive)
    {result : α} (passed : strict = .ok result) : permissive = .ok result := by
  rcases filters with same | ⟨failure, -, refuses⟩
  · exact same ▸ passed
  · cases refuses.symm.trans passed

theorem map {strict permissive : Except ε α} (filters : Filters refusal strict permissive)
    (f : α → β) : Filters refusal (strict.map f) (permissive.map f) := by
  rcases filters with rfl | ⟨failure, refuses, rfl⟩
  · exact refl _
  · exact refused refuses _

theorem mapError {φ : Type} {wider : φ → Prop} {strict permissive : Except ε α}
    (filters : Filters refusal strict permissive) {f : ε → φ}
    (widens : ∀ failure, refusal failure → wider (f failure)) :
    Filters wider (strict.mapError f) (permissive.mapError f) := by
  rcases filters with rfl | ⟨failure, refuses, rfl⟩
  · exact refl _
  · exact refused (widens failure refuses) _

theorem mapM {f g : α → Except ε β} (filters : ∀ item, Filters refusal (f item) (g item))
    (items : List α) : Filters refusal (items.mapM f) (items.mapM g) := by
  induction items with
  | nil => exact refl _
  | cons item rest ih =>
    rw [Traversal.mapM_cons_eq, Traversal.mapM_cons_eq]
    rcases filters item with same | ⟨failure, refuses, refused⟩
    · rw [same]
      cases g item with
      | error failure => exact refl _
      | ok result =>
        rcases ih with sameRest | ⟨failure, refuses, refused⟩
        · rw [sameRest]
          exact refl _
        · rw [refused]
          exact Filters.refused refuses _
    · rw [refused]
      exact Filters.refused refuses _

end Filters

namespace Coercion

def IsRejection (failure : Failure) : Prop :=
  ∃ rejection, failure = .rejected rejection

theorem Judged.filters {α : Type} {strict permissive : Except Failure α}
    (judged : Judged strict permissive) : Filters IsRejection strict permissive := by
  cases judged with
  | agreed result => exact Filters.refl _
  | rejected rejection result => exact Filters.refused ⟨rejection, rfl⟩ _

theorem coerce_filters (settings : Settings) (type : SemanticType) (value : Value) :
    Filters IsRejection (coerce clock (settings.withStrict true) type value)
      (coerce clock (settings.withStrict false) type value) := by
  by_cases absent : value = .null
  · rw [absent, coerce_null, coerce_null]
    exact Filters.refl _
  induction type generalizing value with
  | leaf kind labels =>
    by_cases overruns : Overruns clock (.leaf kind labels) value
    · obtain ⟨failure, -, fails⟩ := coerce_of_overruns overruns
      rw [fails, fails]
      exact Filters.refl _
    · rw [coerce_leaf _ labels absent, coerce_leaf _ labels absent]
      exact (toLeaf_judged settings overruns _).filters
  | array element labels ih =>
    rw [coerce_array _ labels absent, coerce_array _ labels absent]
    cases itemsOf? value with
    | none => exact (mismatch_judged settings value _).filters
    | some items =>
      refine (Filters.mapM (fun item => ?_) items).map Value.list
      by_cases missing : item = .null
      · rw [missing, coerce_null, coerce_null]
        exact Filters.refl _
      · exact ih item missing
  | bareArray labels =>
    rw [coerce_bareArray _ labels absent, coerce_bareArray _ labels absent]
    exact Filters.refl _

end Coercion

end TypedRecords
