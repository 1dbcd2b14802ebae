import TypedRecords.Proofs.Coercion.Conformance
import TypedRecords.Proofs.Coercion.Numerals
import TypedRecords.Proofs.Value.Fields
import TypedRecords.Proofs.Value.Within

/-!
What is no number among the results of strict mode.  Texts of numbers and of amounts must be
numerals, and no numeral writes it; but the coordinates of a place are read as fields are, and there
its word is accepted.
-/

set_option autoImplicit false

namespace TypedRecords

open TypedRecords.Numeric (Double)
open TypedRecords.Numeric.FieldNumber (NanText number?_eq_nan_iff)

variable {clock : Calendar.Clock}

/-- The value is no number, or an amount or a place with what is no number in it. -/
inductive Value.HoldsNan : Value → Prop
  | float : HoldsNan (.float .nan)
  | amount (code : String) : HoldsNan (.currency ⟨.nan, code⟩)
  | latitude (longitude : Double) (display : Option String) :
      HoldsNan (.location ⟨.nan, longitude, display⟩)
  | longitude (latitude : Double) (display : Option String) :
      HoldsNan (.location ⟨latitude, .nan, display⟩)

def Value.IsClean (value : Value) : Prop :=
  value.Throughout fun part => ¬ part.HoldsNan

/-- Whether a type is that of places, or of arrays of them at some depth. -/
def SemanticType.isOfPlaces : SemanticType → Bool
  | .leaf kind _ => kind == .location
  | .array element _ => element.isOfPlaces
  | .bareArray _ => false

namespace Coercion

open TypedRecords.Traversal
open TypedRecords.Value (throughout_leaf_iff throughout_list_iff throughout_object_iff)

/-- A coordinate of a place is a text for what is no number, at the value or at an item of it. -/
inductive MakesNan : SemanticType → Value → Prop
  | latitude {labels : TypeLabels} {fields : Fields} {s : String} {east : Value} :
      position? fields = some (.text s, east) → NanText s →
        MakesNan (.leaf .location labels) (.object fields)
  | longitude {labels : TypeLabels} {fields : Fields} {north : Value} {s : String} :
      position? fields = some (north, .text s) → NanText s →
        MakesNan (.leaf .location labels) (.object fields)
  | item {element : SemanticType} {labels : TypeLabels} {value item : Value} {items : List Value} :
      itemsOf? value = some items → item ∈ items → MakesNan element item →
        MakesNan (.array element labels) value

private theorem MakesNan.isOfPlaces {type : SemanticType} {value : Value}
    (makes : MakesNan type value) :
    type.isOfPlaces = true := by
  induction makes with
  | latitude => rfl
  | longitude => rfl
  | item _ _ _ ih => exact ih

section Clean

private theorem isClean_float_iff {x : Double} : (Value.float x).IsClean ↔ x ≠ .nan := by
  rw [Value.IsClean, throughout_leaf_iff (.float x)]
  refine not_congr ⟨fun holds => ?_, ?_⟩
  · cases holds
    rfl
  · rintro rfl
    exact .float

private theorem isClean_currency_iff {c : Currency} :
    (Value.currency c).IsClean ↔ c.amount ≠ .nan := by
  rw [Value.IsClean, throughout_leaf_iff (.currency c)]
  refine not_congr ⟨fun holds => ?_, fun none => ?_⟩
  · cases holds
    rfl
  · obtain ⟨amount, code⟩ := c
    obtain rfl : amount = .nan := none
    exact .amount code

@[simp] private theorem isClean_location_iff {l : Location} :
    (Value.location l).IsClean ↔ l.latitude ≠ .nan ∧ l.longitude ≠ .nan := by
  rw [Value.IsClean, throughout_leaf_iff (.location l), ← not_or]
  refine not_congr ⟨fun holds => ?_, fun none => ?_⟩
  · cases holds
    · exact Or.inl rfl
    · exact Or.inr rfl
  · obtain ⟨latitude, longitude, display⟩ := l
    rcases none with north | east
    · obtain rfl : latitude = .nan := north
      exact .latitude longitude display
    · obtain rfl : longitude = .nan := east
      exact .longitude latitude display

private theorem isClean_of_isLeaf {value : Value} (leaf : value.IsLeaf)
    (without : ¬ value.HoldsNan) :
    value.IsClean :=
  (throughout_leaf_iff leaf).mpr without

@[simp] private theorem isClean_list_iff {items : List Value} :
    (Value.list items).IsClean ↔ ∀ item ∈ items, item.IsClean := by
  rw [Value.IsClean, throughout_list_iff]
  exact and_iff_right nofun

@[simp] private theorem isClean_object_iff {fields : Fields} :
    (Value.object fields).IsClean ↔ ∀ field ∈ fields, field.2.IsClean := by
  rw [Value.IsClean, throughout_object_iff]
  exact and_iff_right nofun

private theorem isClean_of_get? {fields : Fields} {name : String} {value : Value}
    (clean : (Value.object fields).IsClean) (found : Fields.get? fields name = some value) :
    value.IsClean := by
  obtain ⟨field, member, rfl⟩ := Fields.mem_of_get? found
  exact isClean_object_iff.mp clean field member

private theorem isClean_of_itemsOf? {value : Value} {items : List Value} (clean : value.IsClean)
    (found : itemsOf? value = some items) : ∀ item ∈ items, item.IsClean := by
  cases value with
  | text s =>
    cases found
    intro item member
    obtain ⟨piece, -, rfl⟩ := List.mem_map.mp member
    exact isClean_of_isLeaf (.text piece) nofun
  | list own =>
    cases found
    exact isClean_list_iff.mp clean
  | _ => cases found

private theorem isClean_of_position? {fields : Fields} {north east : Value}
    (clean : (Value.object fields).IsClean) (found : position? fields = some (north, east)) :
    north.IsClean ∧ east.IsClean := by
  obtain ⟨⟨vertical, horizontal⟩, -, pair⟩ := List.exists_of_findSome?_eq_some found
  obtain ⟨latitude, foundNorth, rest⟩ := Option.bind_eq_some_iff.mp pair
  obtain ⟨longitude, foundEast, same⟩ := Option.map_eq_some_iff.mp rest
  cases same
  exact ⟨isClean_of_get? clean foundNorth, isClean_of_get? clean foundEast⟩

end Clean

private theorem fieldNumber?_eq_nan_iff {value : Value} (clean : value.IsClean) :
    fieldNumber? value = some .nan ↔ ∃ s, value = .text s ∧ NanText s := by
  cases value with
  | text s => simp [fieldNumber?, number?_eq_nan_iff]
  | bool b =>
    refine iff_of_false (fun none => ?_) (by simp)
    exact Double.ne_nan_of_ofInt? none rfl
  | int n =>
    refine iff_of_false (fun none => ?_) (by simp)
    exact Double.ne_nan_of_ofInt? none rfl
  | float x => simpa [fieldNumber?] using isClean_float_iff.mp clean
  | _ => simp [fieldNumber?]

section Strict

variable {settings : Settings} (strict : settings.strict = true)
include strict

private theorem not_stays {value result : Value} : ¬ Stays settings value result := by
  rintro ⟨permissive, -⟩
  rw [strict] at permissive
  cases permissive

private theorem number_ne_nan {text : String} {x : Double} (made : number settings text = .ok x) :
    x ≠ .nan := by
  have read := mapError_ok_iff.mp made
  rw [strict] at read
  exact (readNumber_strict_iff.mp read).ne_nan

private theorem fieldAmount_ne_nan {value : Value} {x : Double} (clean : value.IsClean)
    (made : fieldAmount settings value = .ok (some x)) : x ≠ .nan := by
  have field (other : ∀ s, value ≠ .text s) (read : fieldNumber? value = some x) : x ≠ .nan := by
    rintro rfl
    obtain ⟨s, same, -⟩ := (fieldNumber?_eq_nan_iff clean).mp read
    exact other s same
  cases value with
  | text s =>
    obtain ⟨y, read, same⟩ := map_ok_iff.mp made
    cases same
    exact number_ne_nan strict read
  | _ => exact field (by simp) (Except.ok.inj made)

section Leaf

variable {value result : Value} {typeName : String} (clean : value.IsClean)
include clean

private theorem isClean_of_toNumeric (made : toNumeric settings typeName value = .ok result) :
    result.IsClean := by
  cases value with
  | text s =>
    obtain ⟨x, read, rfl⟩ := map_ok_iff.mp made
    exact isClean_float_iff.mpr (number_ne_nan strict read)
  | _ =>
    obtain ⟨rfl, -⟩ := expect_ok made
    exact clean

omit clean in
private theorem isClean_of_toDate (made : toDate clock settings value = .ok result) :
    result.IsClean := by
  obtain ⟨moment, -, rfl, -⟩ := (toDate_ok made).resolve_right (not_stays strict)
  exact isClean_of_isLeaf (.moment moment) nofun

private theorem isClean_of_toCurrency (made : toCurrency settings value = .ok result) :
    result.IsClean := by
  cases value with
  | int n =>
    simp only [toCurrency] at made
    split at made
    · rename_i amount held
      cases made
      exact isClean_currency_iff.mpr (Double.ne_nan_of_ofInt? held)
    · cases made
  | float x =>
    cases made
    exact isClean_currency_iff.mpr (isClean_float_iff.mp clean)
  | text s =>
    obtain ⟨x, read, rfl⟩ := map_ok_iff.mp made
    exact isClean_currency_iff.mpr (number_ne_nan strict read)
  | object fields =>
    simp only [toCurrency] at made
    split at made
    · rename_i amount field
      obtain ⟨size?, read, rest⟩ := bind_ok_iff.mp made
      have found := (orMismatch_ok rest).resolve_right (not_stays strict)
      obtain ⟨size, rfl, coded⟩ := Option.bind_eq_some_iff.mp found
      obtain ⟨code, -, rfl⟩ := Option.map_eq_some_iff.mp coded
      exact isClean_currency_iff.mpr
        (fieldAmount_ne_nan strict (isClean_of_get? clean field) read)
    · exact absurd (mismatch_ok made) (not_stays strict)
  | _ => exact absurd (mismatch_ok made) (not_stays strict)

omit clean in
private theorem isClean_of_toEntity (made : toEntity settings value = .ok result) :
    result.IsClean := by
  obtain ⟨entity, rfl⟩ := (toEntity_ok made).resolve_right (not_stays strict)
  exact isClean_of_isLeaf (.entity entity) nofun

private theorem isClean_of_toLeaf {kind : LeafKind} (other : kind ≠ .location)
    (made : toLeaf clock settings kind typeName value = .ok result) : result.IsClean := by
  cases kind with
  | string =>
    obtain ⟨rfl, -⟩ := expect_ok made
    exact clean
  | boolean =>
    obtain ⟨rfl, -⟩ := expect_ok made
    exact clean
  | number => exact isClean_of_toNumeric strict clean made
  | measure => exact isClean_of_toNumeric strict clean made
  | date => exact isClean_of_toDate strict made
  | currency => exact isClean_of_toCurrency strict clean made
  | entity => exact isClean_of_toEntity strict made
  | location => exact absurd rfl other
  | other =>
    cases made
    exact clean

private theorem isClean_of_toLocation (labels : TypeLabels)
    (made : toLocation settings value = .ok result) :
    result.IsClean ↔ ¬ MakesNan (.leaf .location labels) value := by
  cases value with
  | object fields =>
    have found := (orMismatch_ok made).resolve_right (not_stays strict)
    obtain ⟨⟨north, east⟩, position, placed⟩ := Option.bind_eq_some_iff.mp found
    obtain ⟨latitude, readNorth, placed⟩ := Option.bind_eq_some_iff.mp placed
    obtain ⟨longitude, readEast, rfl⟩ := Option.map_eq_some_iff.mp placed
    obtain ⟨cleanNorth, cleanEast⟩ := isClean_of_position? clean position
    rw [isClean_location_iff, ← not_or, not_iff_not]
    constructor
    · rintro (rfl | rfl)
      · obtain ⟨s, rfl, word⟩ := (fieldNumber?_eq_nan_iff cleanNorth).mp readNorth
        exact .latitude position word
      · obtain ⟨s, rfl, word⟩ := (fieldNumber?_eq_nan_iff cleanEast).mp readEast
        exact .longitude position word
    · rintro (⟨again, word⟩ | ⟨again, word⟩)
      · cases position.symm.trans again
        have none := (fieldNumber?_eq_nan_iff cleanNorth).mpr ⟨_, rfl, word⟩
        exact Or.inl (Option.some.inj (readNorth.symm.trans none))
      · cases position.symm.trans again
        have none := (fieldNumber?_eq_nan_iff cleanEast).mpr ⟨_, rfl, word⟩
        exact Or.inr (Option.some.inj (readEast.symm.trans none))
  | _ => exact absurd (mismatch_ok made) (not_stays strict)

end Leaf

private theorem isClean_iff_of_coerce {type : SemanticType} {value result : Value}
    (clean : value.IsClean) (made : coerce clock settings type value = .ok result) :
    result.IsClean ↔ ¬ MakesNan type value := by
  have null : Value.null.IsClean := isClean_of_isLeaf .null nofun
  induction type generalizing value result with
  | leaf kind labels =>
    rcases coerce_leaf_ok made with ⟨rfl, rfl⟩ | ⟨-, passed⟩
    · exact iff_of_true null nofun
    by_cases place : kind = .location
    · subst place
      exact isClean_of_toLocation strict clean labels passed
    · refine iff_of_true (isClean_of_toLeaf strict clean place passed) fun makes => place ?_
      exact eq_of_beq makes.isOfPlaces
  | array element labels ih =>
    rcases coerce_array_ok made with ⟨rfl, rfl⟩ | ⟨items, results, found, rfl, pairs⟩ |
      ⟨-, -, stays⟩
    · refine iff_of_true null fun makes => ?_
      cases makes with
      | item found _ _ => cases found
    -- each result among the items has the item that it was made of, and the other way round
    · have cleanItems := isClean_of_itemsOf? clean found
      rw [isClean_list_iff]
      constructor
      · intro all makes
        cases makes with
        | item again member makes =>
          cases found.symm.trans again
          obtain ⟨outcome, among, passed⟩ := exists_mem_of_forall₂ pairs member
          exact (ih (cleanItems _ member) passed).mp (all outcome among) makes
      · intro without outcome among
        obtain ⟨item, member, passed⟩ := exists_mem_of_forall₂ pairs.flip among
        exact (ih (cleanItems item member) passed).mpr fun makes =>
          without (.item found member makes)
    · exact absurd stays (not_stays strict)
  | bareArray labels =>
    obtain ⟨rfl, rfl⟩ := coerce_bareArray_ok made
    exact iff_of_true null nofun

end Strict

/-- In strict mode what is no number comes of a value without it exactly where a coordinate of a
place is a text for it; so no type but that of places, and of arrays of them, brings it about. -/
theorem coerce_strict_clean {settings : Settings} (strict : settings.strict = true)
    {type : SemanticType} {value result : Value} (clean : value.IsClean)
    (made : coerce clock settings type value = .ok result) :
    (result.IsClean ↔ ¬ MakesNan type value) ∧ (type.isOfPlaces = false → result.IsClean) := by
  have exactly := isClean_iff_of_coerce strict clean made
  refine ⟨exactly, fun other => exactly.mpr fun makes => ?_⟩
  rw [makes.isOfPlaces] at other
  cases other

/-- Two places in a list, the longitude of one of which is the word with a sign and white space, and
numbers in lists of lists. -/
theorem coerce_strict_clean_mixed :
    let settings := { Settings.default with strict := true }
    let one := Double.finite false 4503599627370496 (-52)
    let places := SemanticType.arrayOf (.plain .location)
    let sights : Value := .list [.object [("lat", .text "1_0"), ("lon", .bool true)], .null,
      .object [("x", .text " -nAN "), ("y", .int 1)]]
    let found : Value := .list [.location ⟨.finite false 5629499534213120 (-49), one, none⟩, .null,
      .location ⟨one, .nan, none⟩]
    let series := SemanticType.arrayOf (.arrayOf (.plain .number))
    let given : Value := .list [.text "1, 1e0", .list [.int 7, .null]]
    let taken : Value := .list [.list [.float one, .float one], .list [.int 7, .null]]
    settings.strict = true ∧ sights.IsClean ∧ coerce .epoch settings places sights = .ok found ∧
      MakesNan places sights ∧ ¬ found.IsClean ∧
      coerce .epoch settings series given = .ok taken ∧ taken.IsClean := by
  intro settings one places sights found series given taken
  have strict : settings.strict = true := rfl
  have text (s : String) : (Value.text s).IsClean := isClean_of_isLeaf (.text s) nofun
  have null : Value.null.IsClean := isClean_of_isLeaf .null nofun
  have whole (n : Int) : (Value.int n).IsClean := isClean_of_isLeaf (.int n) nofun
  have truth : (Value.bool true).IsClean := isClean_of_isLeaf (.bool true) nofun
  have clean : sights.IsClean := by
    simp [sights, text, null, whole, truth]
  have cleanGiven : given.IsClean := by simp [given, text, whole, null]
  have made : coerce .epoch settings places sights = .ok found := rfl
  have dirty : ¬ found.IsClean := by simp [found]
  have makes : MakesNan places sights := by
    by_contra without
    exact dirty ((coerce_strict_clean strict clean made).1.mpr without)
  have passed : coerce .epoch settings series given = .ok taken := rfl
  exact ⟨strict, clean, made, makes, dirty, passed,
    (coerce_strict_clean strict cleanGiven passed).2 rfl⟩

/-- The word for what is no number makes a place of strict mode. -/
theorem coerce_strict_nan_place :
    let settings := { Settings.default with strict := true }
    let given : Value := .object [("x", .text "nan"), ("y", .int 1)]
    let place : Value := .location ⟨.finite false 4503599627370496 (-52), .nan, none⟩
    (SemanticType.plain .location).isComplete = true ∧ settings.strict = true ∧ given.IsClean ∧
      coerce .epoch settings (.plain .location) given = .ok place ∧ ¬ place.IsClean := by
  intro settings given place
  have clean : given.IsClean := by
    refine isClean_object_iff.mpr (List.forall_mem_cons.mpr
      ⟨?_, List.forall_mem_singleton.mpr ?_⟩)
    · exact isClean_of_isLeaf (.text "nan") nofun
    · exact isClean_of_isLeaf (.int 1) nofun
  exact ⟨rfl, rfl, clean, rfl, fun held => (isClean_location_iff.mp held).2 rfl⟩

end Coercion

end TypedRecords
