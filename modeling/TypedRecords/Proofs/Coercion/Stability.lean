import TypedRecords.Proofs.Coercion.Conformance

/-!
Coercing again.  In permissive mode a value that has been coerced stays as it is: what was made of
it fits the type, and what did not fit the type before does not fit it now.
-/

set_option autoImplicit false

namespace TypedRecords.Coercion

open TypedRecords.Traversal

variable {clock : Calendar.Clock}

variable {settings : Settings}

section Leaf

variable {value : Value} {typeName : String}

private theorem mismatch_of_permissive (permissive : settings.strict = false) :
    mismatch settings value typeName = .ok value := by
  simp [mismatch, permissive]

private theorem expect_of_permissive (permissive : settings.strict = false) (fits : Bool) :
    expect settings value fits typeName = .ok value := by
  simp [expect, permissive]

private theorem toLeaf_of_describes (permissive : settings.strict = false) {kind : LeafKind}
    (described : kind.Describes value) : toLeaf clock settings kind typeName value = .ok value := by
  have numeric : LeafKind.number.Describes value →
      toNumeric settings typeName value = .ok value := by
    rintro (⟨n, rfl⟩ | ⟨x, rfl⟩)
    · exact expect_of_permissive permissive _
    · exact expect_of_permissive permissive _
  cases kind with
  | string => exact expect_of_permissive permissive _
  | boolean => exact expect_of_permissive permissive _
  | number => exact numeric described
  | measure => exact numeric described
  | date =>
    obtain ⟨⟨date, time, offset⟩, zone, rfl, known⟩ := described
    obtain rfl : offset = some zone := known
    rfl
  | currency =>
    obtain ⟨amount, unit, rfl⟩ := described
    exact mismatch_of_permissive permissive
  | entity =>
    obtain ⟨entity, rfl⟩ := described
    exact mismatch_of_permissive permissive
  | location =>
    obtain ⟨location, rfl⟩ := described
    exact mismatch_of_permissive permissive
  | other => rfl

private theorem toLeaf_again (permissive : settings.strict = false) {kind : LeafKind}
    {result : Value} (made : toLeaf clock settings kind typeName value = .ok result) :
    toLeaf clock settings kind typeName result = .ok result := by
  rcases toLeaf_ok made with described | ⟨-, rfl⟩
  · exact toLeaf_of_describes permissive described
  · exact made

end Leaf

private theorem coerce_list_of_items {element : SemanticType} {labels : TypeLabels}
    {items : List Value} (stay : ∀ item ∈ items, coerce clock settings element item = .ok item) :
    coerce clock settings (.array element labels) (.list items) = .ok (.list items) := by
  have traversed : items.mapM (coerce clock settings element) = .ok items :=
    mapM_ok_iff.mpr (List.forall₂_same.mpr stay)
  rw [coerce_array settings labels Value.noConfusion]
  exact map_ok_iff.mpr ⟨items, traversed, rfl⟩

/-- What permissive mode makes of a value, it makes of it again: numbers, amounts and moments that
are made, the lists of them at every depth, and the values that are passed through. -/
theorem coerce_again (permissive : settings.strict = false) {type : SemanticType}
    {value result : Value} (made : coerce clock settings type value = .ok result) :
    coerce clock settings type result = .ok result := by
  induction type generalizing value result with
  | leaf kind labels =>
    rcases coerce_leaf_ok made with ⟨-, rfl⟩ | ⟨present, passed⟩
    · exact coerce_null settings _
    · rw [coerce_leaf settings labels (ne_null_of_toLeaf present passed)]
      exact toLeaf_again permissive passed
  | array element labels ih =>
    rcases coerce_array_ok made with ⟨-, rfl⟩ | ⟨items, results, -, rfl, pairs⟩ |
      ⟨-, -, -, rfl⟩
    · exact coerce_null settings _
    · refine coerce_list_of_items fun outcome member => ?_
      obtain ⟨item, -, passed⟩ := exists_mem_of_forall₂ pairs.flip member
      exact ih passed
    · exact made
  | bareArray labels =>
    obtain ⟨-, rfl⟩ := coerce_bareArray_ok made
    exact coerce_null settings _

/-- A text of numbers, one of which is none, beside a number that is passed through where an array
is asked for. -/
theorem coerce_again_mixed :
    let series := SemanticType.arrayOf (.arrayOf (.plain .number))
    let given : Value := .list [.text "1.5, few", .int 3, .null, .list [.text "1", .bool true]]
    let taken : Value :=
      .list [.list [.float (.finite false 6755399441055744 (-52)), .float .nan], .int 3, .null,
        .list [.float (.finite false 4503599627370496 (-52)), .bool true]]
    Settings.default.strict = false ∧ coerce .epoch Settings.default series given = .ok taken ∧
      coerce .epoch Settings.default series taken = .ok taken := by
  intro series given taken
  have permissive : Settings.default.strict = false := rfl
  have made : coerce .epoch Settings.default series given = .ok taken := rfl
  exact ⟨permissive, made, coerce_again permissive made⟩

end TypedRecords.Coercion
