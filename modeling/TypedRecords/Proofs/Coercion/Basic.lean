import TypedRecords.Coercion.Basic

/-!
How coercion takes a value apart.  Null is decided before the type is looked at; of the settings
only the currency and the strictness matter.
-/

set_option autoImplicit false

namespace TypedRecords

open TypedRecords.Coercion

variable {clock : Calendar.Clock}

section Present

variable (settings : Settings) (labels : TypeLabels) {value : Value} (present : value ≠ .null)

@[simp] theorem coerce_null (type : SemanticType) :
    coerce clock settings type .null = .ok .null := by
  cases type <;> rfl

include present

theorem coerce_leaf (kind : LeafKind) :
    coerce clock settings (.leaf kind labels) value =
      toLeaf clock settings kind (SemanticType.leaf kind labels).text value := by
  cases value with
  | null => exact absurd rfl present
  | _ => rfl

theorem coerce_array (element : SemanticType) :
    coerce clock settings (.array element labels) value =
      match itemsOf? value with
      | some items => (items.mapM (coerce clock settings element)).map Value.list
      | none => mismatch settings value (SemanticType.array element labels).text := by
  cases value with
  | null => exact absurd rfl present
  | _ => rfl

theorem coerce_bareArray :
    coerce clock settings (.bareArray labels) value = .error (.rejected .noElementType) := by
  cases value with
  | null => exact absurd rfl present
  | _ => rfl

end Present

@[simp] theorem coerce_cacheSize (settings : Settings) (size : Int) (type : SemanticType)
    (value : Value) :
    coerce clock { settings with cacheSize := size } type value =
      coerce clock settings type value := by
  induction type generalizing value with
  | leaf kind labels =>
    by_cases absent : value = .null
    · rw [absent, coerce_null, coerce_null]
    · rw [coerce_leaf _ labels absent, coerce_leaf _ labels absent]
      cases kind <;> rfl
  | array element labels ih =>
    by_cases absent : value = .null
    · rw [absent, coerce_null, coerce_null]
    · have items : coerce clock { settings with cacheSize := size } element =
          coerce clock settings element :=
        funext ih
      rw [coerce_array _ labels absent, coerce_array _ labels absent, items]
      rfl
  | bareArray labels => cases value <;> rfl

end TypedRecords
