import TypedRecords.Proofs.Coercion.Basic
import TypedRecords.Proofs.Traversal

/-!
What comes out of a coercion.  In strict mode a result conforms to the type; in permissive mode it
conforms or is the value itself, and an array is taken item by item.  Only null becomes null.
-/

set_option autoImplicit false

namespace TypedRecords

variable {clock : Calendar.Clock}

/-- The values of a leaf type.  Moments must know their zone, and codes of currencies are in small
letters. -/
def LeafKind.Describes : LeafKind → Value → Prop
  | .string, value => ∃ s, value = .text s
  | .boolean, value => ∃ b, value = .bool b
  | .number, value => (∃ n, value = .int n) ∨ ∃ x, value = .float x
  | .measure, value => (∃ n, value = .int n) ∨ ∃ x, value = .float x
  | .date, value => ∃ moment offset, value = .moment moment ∧ moment.offset = some offset
  | .currency, value => ∃ amount unit, value = .currency ⟨amount, Text.Case.lower unit⟩
  | .entity, value => ∃ entity, value = .entity entity
  | .location, value => ∃ location, value = .location location
  | .other, _ => True

/-- A value conforms to a type when it is null or one of the values of the type. -/
def Conforms : SemanticType → Value → Prop
  | .leaf kind _, value => value = .null ∨ kind.Describes value
  | .array element _, value =>
    value = .null ∨ ∃ items, value = .list items ∧ ∀ item ∈ items, Conforms element item
  | .bareArray _, value => value = .null

/-- How a result of permissive mode stands to the value: at a leaf it conforms or is the value, and
what is taken for an array gives one such result for each piece or item, in their order. -/
def Settles : SemanticType → Value → Value → Prop
  | .leaf kind labels, value, result => Conforms (.leaf kind labels) result ∨ result = value
  | .array element _, .text s, result =>
    ∃ results, result = .list results ∧
      List.Forall₂ (fun piece => Settles element (.text piece)) (Coercion.pieces s) results
  | .array element _, .list items, result =>
    ∃ results, result = .list results ∧ List.Forall₂ (Settles element) items results
  | .array _ _, value, result => result = value
  | .bareArray _, value, result => value = .null ∧ result = .null

namespace Coercion

open TypedRecords.Traversal

/-- What does not fit stays as it is, which only permissive mode allows. -/
def Stays (settings : Settings) (value result : Value) : Prop :=
  settings.strict = false ∧ result = value

section Leaf

variable {settings : Settings} {value result : Value} {typeName : String}

theorem mismatch_ok (made : mismatch settings value typeName = .ok result) :
    Stays settings value result := by
  unfold mismatch at made
  split at made
  · cases made
  · rename_i permissive
    cases made
    exact ⟨by simpa using permissive, rfl⟩

theorem orMismatch_ok {found : Option Value}
    (made : orMismatch settings value typeName found = .ok result) :
    found = some result ∨ Stays settings value result := by
  cases found with
  | none => exact Or.inr (mismatch_ok made)
  | some own =>
    cases made
    exact Or.inl rfl

theorem expect_ok {fits : Bool} (made : expect settings value fits typeName = .ok result) :
    result = value ∧ (fits = true ∨ settings.strict = false) := by
  unfold expect at made
  split at made
  · cases made
  · rename_i passes
    cases made
    refine ⟨rfl, ?_⟩
    cases fits <;> simp_all

private theorem describes_of_expect {kind : LeafKind} {fits : Bool}
    (described : fits = true → kind.Describes value)
    (made : expect settings value fits typeName = .ok result) :
    kind.Describes result ∨ Stays settings value result := by
  obtain ⟨rfl, fit | permissive⟩ := expect_ok made
  · exact Or.inl (described fit)
  · exact Or.inr ⟨permissive, rfl⟩

private theorem describes_of_isNumber (number : value.isNumber = true) :
    LeafKind.number.Describes value := by
  cases value with
  | int n => exact Or.inl ⟨n, rfl⟩
  | float x => exact Or.inr ⟨x, rfl⟩
  | _ => cases number

private theorem toNumeric_ok (made : toNumeric settings typeName value = .ok result) :
    LeafKind.number.Describes result ∨ Stays settings value result := by
  cases value with
  | text s =>
    obtain ⟨x, -, rfl⟩ := map_ok_iff.mp made
    exact Or.inl (Or.inr ⟨x, rfl⟩)
  | _ => exact describes_of_expect describes_of_isNumber made

private theorem describes_orUtc (moment : Calendar.Moment) :
    LeafKind.date.Describes (.moment moment.orUtc) :=
  ⟨moment.orUtc, moment.offset.getD 0, rfl, rfl⟩

private theorem ofEpoch?_offset {seconds : Int} {microsecond : Nat} {moment : Calendar.Moment}
    (found : Calendar.Moment.ofEpoch? seconds microsecond = some moment) :
    moment.offset = some 0 := by
  obtain ⟨date, -, rfl⟩ := Option.map_eq_some_iff.mp found
  rfl

theorem ofSeconds?_offset {x : Numeric.Double} {moment : Calendar.Moment}
    (found : ofSeconds? x = some moment) : moment.offset = some 0 := by
  unfold ofSeconds? at found
  simp only [Option.bind_eq_bind, Option.bind_eq_some_iff] at found
  obtain ⟨seconds, -, microseconds, -, counted⟩ := found
  split_ifs at counted <;> exact ofEpoch?_offset counted

theorem toDate_ok (made : toDate clock settings value = .ok result) :
    LeafKind.date.Describes result ∨ Stays settings value result := by
  cases value with
  | moment m =>
    cases made
    exact Or.inl (describes_orUtc m)
  | date d =>
    cases made
    exact Or.inl ⟨_, 0, rfl, rfl⟩
  | int n =>
    refine (orMismatch_ok made).imp_left fun found => ?_
    obtain ⟨m, counted, rfl⟩ := Option.map_eq_some_iff.mp found
    obtain ⟨x, -, seconds⟩ := Option.bind_eq_some_iff.mp counted
    exact ⟨m, 0, rfl, ofSeconds?_offset seconds⟩
  | float x =>
    refine (orMismatch_ok made).imp_left fun found => ?_
    obtain ⟨m, counted, rfl⟩ := Option.map_eq_some_iff.mp found
    exact ⟨m, 0, rfl, ofSeconds?_offset counted⟩
  | text s =>
    simp only [toDate, textToDate] at made
    split at made
    · cases made
      exact Or.inl (describes_orUtc _)
    · exact Or.inr (mismatch_ok made)
    · cases made
  | _ => exact Or.inr (mismatch_ok made)

private theorem describes_amountOf (amount : Numeric.Double) (code : String) :
    LeafKind.currency.Describes (amountOf amount code) :=
  ⟨amount, code, rfl⟩

private theorem objectToCurrency_ok {fields : Fields} {amount : Value}
    (made : objectToCurrency settings fields amount = .ok result) :
    LeafKind.currency.Describes result ∨ Stays settings (.object fields) result := by
  unfold objectToCurrency at made
  cases read : fieldAmount settings amount with
  | error failure =>
    rw [read] at made
    cases made
  | ok amount? =>
    rw [read] at made
    refine (orMismatch_ok made).imp_left fun found => ?_
    obtain ⟨size, -, coded⟩ := Option.bind_eq_some_iff.mp found
    obtain ⟨code, -, rfl⟩ := Option.map_eq_some_iff.mp coded
    exact describes_amountOf size code

private theorem toCurrency_ok (made : toCurrency settings value = .ok result) :
    LeafKind.currency.Describes result ∨ Stays settings value result := by
  cases value with
  | int n =>
    simp only [toCurrency] at made
    split at made
    · cases made
      exact Or.inl (describes_amountOf _ _)
    · cases made
  | float x =>
    cases made
    exact Or.inl (describes_amountOf _ _)
  | text s =>
    obtain ⟨x, -, rfl⟩ := map_ok_iff.mp made
    exact Or.inl (describes_amountOf _ _)
  | object fields =>
    simp only [toCurrency] at made
    split at made
    · exact objectToCurrency_ok made
    · exact Or.inr (mismatch_ok made)
  | _ => exact Or.inr (mismatch_ok made)

theorem toEntity_ok (made : toEntity settings value = .ok result) :
    LeafKind.entity.Describes result ∨ Stays settings value result := by
  cases value with
  | text s =>
    cases made
    exact Or.inl ⟨_, rfl⟩
  | object fields =>
    refine (orMismatch_ok made).imp_left fun found => ?_
    obtain ⟨own, -, named⟩ := Option.bind_eq_some_iff.mp found
    obtain ⟨id, -, rfl⟩ := Option.map_eq_some_iff.mp named
    exact ⟨_, rfl⟩
  | _ => exact Or.inr (mismatch_ok made)

private theorem toLocation_ok (made : toLocation settings value = .ok result) :
    LeafKind.location.Describes result ∨ Stays settings value result := by
  cases value with
  | object fields =>
    refine (orMismatch_ok made).imp_left fun found => ?_
    obtain ⟨⟨north, east⟩, -, placed⟩ := Option.bind_eq_some_iff.mp found
    obtain ⟨latitude, -, placed⟩ := Option.bind_eq_some_iff.mp placed
    obtain ⟨longitude, -, rfl⟩ := Option.map_eq_some_iff.mp placed
    exact ⟨_, rfl⟩
  | _ => exact Or.inr (mismatch_ok made)

/-- A result at a leaf is a value of the leaf type, or the value itself that permissive mode lets
pass. -/
theorem toLeaf_ok {kind : LeafKind}
    (made : toLeaf clock settings kind typeName value = .ok result) :
    kind.Describes result ∨ Stays settings value result := by
  cases kind with
  | string =>
    refine describes_of_expect (fun fit => ?_) made
    cases value with
    | text s => exact ⟨s, rfl⟩
    | _ => cases fit
  | boolean =>
    refine describes_of_expect (fun fit => ?_) made
    cases value with
    | bool b => exact ⟨b, rfl⟩
    | _ => cases fit
  | number => exact toNumeric_ok made
  | measure => exact toNumeric_ok made
  | date => exact toDate_ok made
  | currency => exact toCurrency_ok made
  | entity => exact toEntity_ok made
  | location => exact toLocation_ok made
  | other => exact Or.inl trivial

/-- No leaf type has null as one of its values, other than the one that has all values; and what is
of that type stays as it is. -/
theorem ne_null_of_toLeaf {kind : LeafKind} (present : value ≠ .null)
    (made : toLeaf clock settings kind typeName value = .ok result) : result ≠ .null := by
  rintro rfl
  rcases toLeaf_ok made with described | ⟨-, same⟩
  · cases kind with
    | other =>
      cases made
      exact present rfl
    | _ => simp [LeafKind.Describes] at described
  · exact present same.symm

end Leaf

section Whole

variable {settings : Settings} {type element : SemanticType} {value result : Value}

theorem coerce_leaf_ok {kind : LeafKind} {labels : TypeLabels}
    (made : coerce clock settings (.leaf kind labels) value = .ok result) :
    value = .null ∧ result = .null ∨
      value ≠ .null ∧
        toLeaf clock settings kind (SemanticType.leaf kind labels).text value = .ok result := by
  by_cases absent : value = .null
  · rw [absent, coerce_null] at made
    cases made
    exact Or.inl ⟨absent, rfl⟩
  · rw [coerce_leaf settings labels absent] at made
    exact Or.inr ⟨absent, made⟩

theorem coerce_array_ok {labels : TypeLabels}
    (made : coerce clock settings (.array element labels) value = .ok result) :
    value = .null ∧ result = .null ∨
      (∃ items results, itemsOf? value = some items ∧ result = .list results ∧
        List.Forall₂ (fun item outcome => coerce clock settings element item = .ok outcome)
          items results) ∨
      value ≠ .null ∧ itemsOf? value = none ∧ Stays settings value result := by
  by_cases absent : value = .null
  · rw [absent, coerce_null] at made
    cases made
    exact Or.inl ⟨absent, rfl⟩
  rw [coerce_array settings labels absent] at made
  cases found : itemsOf? value with
  | none =>
    rw [found] at made
    exact Or.inr (Or.inr ⟨absent, rfl, mismatch_ok made⟩)
  | some items =>
    rw [found] at made
    obtain ⟨results, traversed, rfl⟩ := map_ok_iff.mp made
    exact Or.inr (Or.inl ⟨items, results, rfl, rfl, mapM_ok_iff.mp traversed⟩)

theorem coerce_bareArray_ok {labels : TypeLabels}
    (made : coerce clock settings (.bareArray labels) value = .ok result) :
    value = .null ∧ result = .null := by
  by_cases absent : value = .null
  · rw [absent, coerce_null] at made
    cases made
    exact ⟨absent, rfl⟩
  · rw [coerce_bareArray settings labels absent] at made
    cases made

private theorem conforms_null (type : SemanticType) : Conforms type .null := by
  cases type with
  | leaf kind labels => exact Or.inl rfl
  | array element labels => exact Or.inl rfl
  | bareArray labels => rfl

private theorem settles_null (type : SemanticType) : Settles type .null .null := by
  cases type with
  | leaf kind labels => exact Or.inl (conforms_null _)
  | array element labels => rfl
  | bareArray labels => exact ⟨rfl, rfl⟩

private theorem settles_array_of_items {items results : List Value} (labels : TypeLabels)
    (found : itemsOf? value = some items) (pairs : List.Forall₂ (Settles element) items results) :
    Settles (.array element labels) value (.list results) := by
  cases value with
  | text s =>
    cases found
    exact ⟨results, rfl, List.forall₂_map_left_iff.mp pairs⟩
  | list own =>
    cases found
    exact ⟨results, rfl, pairs⟩
  | _ => cases found

private theorem settles_array_unchanged (labels : TypeLabels) (missing : itemsOf? value = none) :
    Settles (.array element labels) value value := by
  cases value with
  | text s => cases missing
  | list own => cases missing
  | _ => rfl

private theorem settles_of_coerce (made : coerce clock settings type value = .ok result) :
    Settles type value result := by
  induction type generalizing value result with
  | leaf kind labels =>
    rcases coerce_leaf_ok made with ⟨rfl, rfl⟩ | ⟨-, passed⟩
    · exact settles_null _
    · exact (toLeaf_ok passed).imp Or.inr And.right
  | array element labels ih =>
    rcases coerce_array_ok made with ⟨rfl, rfl⟩ | ⟨items, results, found, rfl, pairs⟩ |
      ⟨-, missing, -, rfl⟩
    · exact settles_null _
    · exact settles_array_of_items labels found (pairs.imp fun _ _ passed => ih passed)
    · exact settles_array_unchanged labels missing
  | bareArray labels =>
    obtain ⟨rfl, rfl⟩ := coerce_bareArray_ok made
    exact settles_null _

private theorem conforms_of_strict (strict : settings.strict = true)
    (made : coerce clock settings type value = .ok result) : Conforms type result := by
  have refuses : ∀ value result, ¬ Stays settings value result := by
    rintro value result ⟨permissive, -⟩
    rw [strict] at permissive
    cases permissive
  induction type generalizing value result with
  | leaf kind labels =>
    rcases coerce_leaf_ok made with ⟨-, rfl⟩ | ⟨-, passed⟩
    · exact conforms_null _
    · exact Or.inr ((toLeaf_ok passed).resolve_right (refuses _ _))
  | array element labels ih =>
    rcases coerce_array_ok made with ⟨-, rfl⟩ | ⟨items, results, -, rfl, pairs⟩ | ⟨-, -, stays⟩
    · exact conforms_null _
    · refine Or.inr ⟨results, rfl, fun outcome member => ?_⟩
      obtain ⟨item, -, passed⟩ := exists_mem_of_forall₂ pairs.flip member
      exact ih passed
    · exact absurd stays (refuses _ _)
  | bareArray labels =>
    obtain ⟨-, rfl⟩ := coerce_bareArray_ok made
    exact conforms_null _

private theorem null_iff_of_coerce (made : coerce clock settings type value = .ok result) :
    result = .null ↔ value = .null := by
  cases type with
  | leaf kind labels =>
    rcases coerce_leaf_ok made with ⟨rfl, rfl⟩ | ⟨present, passed⟩
    · rfl
    · exact iff_of_false (ne_null_of_toLeaf present passed) present
  | array element labels =>
    rcases coerce_array_ok made with ⟨rfl, rfl⟩ | ⟨items, results, found, rfl, -⟩ |
      ⟨-, -, -, rfl⟩
    · rfl
    · have present : value ≠ .null := by
        rintro rfl
        cases found
      exact iff_of_false (by simp) present
    · rfl
  | bareArray labels =>
    obtain ⟨rfl, rfl⟩ := coerce_bareArray_ok made
    rfl

end Whole

/-- A result conforms to its type in strict mode.  In either mode it settles for the value: at a
leaf it conforms or is the value itself, and in an array every piece or item has such a result in
its place.  A type beyond the vocabulary leaves the value as it is, and null comes of null alone. -/
theorem coerce_conforms {settings : Settings} {type : SemanticType} {value result : Value}
    (made : coerce clock settings type value = .ok result) :
    (settings.strict = true → Conforms type result) ∧ Settles type value result ∧
      (∀ labels, type = .leaf .other labels → result = value) ∧
      (result = .null ↔ value = .null) := by
  refine ⟨fun strict => conforms_of_strict strict made, settles_of_coerce made, ?_,
    null_iff_of_coerce made⟩
  rintro labels rfl
  rcases coerce_leaf_ok made with ⟨rfl, rfl⟩ | ⟨-, passed⟩
  · rfl
  · cases passed
    rfl

/-- An amount with its unit in capitals in strict mode, and truth values in permissive mode, among
which texts stay texts. -/
theorem coerce_conforms_mixed :
    let amounts := SemanticType.arrayOf (.plain .currency)
    let offers : Value := .list [.object [("value", .text " 1.0"), ("unit", .text "EUR")], .null]
    let amount : Value := .currency ⟨.finite false 4503599627370496 (-52), "eur"⟩
    let truths := SemanticType.arrayOf (.arrayOf (.plain .boolean))
    let answers : Value := .list [.list [.bool true, .text "no"], .null, .text "yes"]
    let taken : Value := .list [.list [.bool true, .text "no"], .null, .list [.text "yes"]]
    coerce .epoch { Settings.default with strict := true } amounts offers =
      .ok (.list [amount, .null]) ∧
      Conforms amounts (.list [amount, .null]) ∧
      coerce .epoch Settings.default truths answers = .ok taken ∧ Settles truths answers taken := by
  intro amounts offers amount truths answers taken
  have passed : coerce .epoch { Settings.default with strict := true } amounts offers =
      .ok (.list [amount, .null]) := rfl
  have settled : coerce .epoch Settings.default truths answers = .ok taken := rfl
  exact ⟨passed, (coerce_conforms passed).1 rfl, settled, (coerce_conforms settled).2.1⟩

end Coercion

end TypedRecords
