import TypedRecords.Proofs.Coercion.Conformance
import TypedRecords.Proofs.Extraction.Grid
import TypedRecords.Proofs.Json.LongIntegers
import TypedRecords.Proofs.Json.Strict
import TypedRecords.Proofs.Path.Reach
import TypedRecords.Proofs.Value.Fields

/-!
What the records of a response consist of, if coercion carries the kinds of value in the response
into those in the records: for a path leads to a value within the value it starts from, and coercion
adds nothing but leaves.  So the records of decoded JSON have the kinds of value that reading gives
and those that coercion makes, and no integer that is too long to be written out.
-/

set_option autoImplicit false

namespace TypedRecords

open TypedRecords.Json (IsDecoded IsRecorded IsShort)
open TypedRecords.Value (Within Throughout)

namespace Path

private theorem step_within {value part : Value} {segment : String}
    (found : step value segment = .ok part) : part = .null ∨ Within part value := by
  cases value with
  | object fields =>
    obtain rfl := Except.ok.inj found
    cases held : Fields.get? fields segment with
    | none => exact Or.inl rfl
    | some own =>
      obtain ⟨field, member, rfl⟩ := Fields.mem_of_get? held
      exact Or.inr (.field member .here)
  | list items =>
    simp only [step, item] at found
    split at found
    · exact Or.inl (Except.ok.inj found).symm
    · rename_i position _
      split at found
      · cases found
      · obtain rfl := Except.ok.inj found
        cases held : items[position]? with
        | none => exact Or.inl rfl
        | some own => exact Or.inr (.item (List.mem_of_getElem? held) .here)
  | _ => exact Or.inl (Except.ok.inj found).symm

private theorem follow_within {value part : Value} {segments : List String}
    (found : follow value segments = .ok part) : part = .null ∨ Within part value := by
  induction segments generalizing value with
  | nil =>
    obtain rfl := Except.ok.inj found
    exact Or.inr .here
  | cons segment rest ih =>
    obtain ⟨next, stepped, followed⟩ := Traversal.bind_ok_iff.mp found
    rcases step_within stepped with rfl | outer
    · rw [follow_null] at followed
      exact Or.inl (Except.ok.inj followed).symm
    · exact (ih followed).imp_right fun inner => inner.trans outer

private theorem follow_throughout {kind : Value → Prop} (null : kind .null) {value part : Value}
    {segments : List String} (all : value.Throughout kind)
    (found : follow value segments = .ok part) : part.Throughout kind := by
  rcases follow_within found with rfl | inner
  · exact (Value.throughout_leaf_iff .null).mpr null
  · exact all.within inner

end Path

namespace Coercion

variable {clock : Calendar.Clock}

private theorem isLeaf_of_describes {kind : LeafKind} (known : kind ≠ .other) {value : Value}
    (described : kind.Describes value) : value.IsLeaf ∧ IsRecorded value := by
  have number (described : LeafKind.number.Describes value) :
      value.IsLeaf ∧ IsRecorded value := by
    rcases described with ⟨n, rfl⟩ | ⟨x, rfl⟩
    · exact ⟨.int n, .decoded (.int n)⟩
    · exact ⟨.float x, .decoded (.float x)⟩
  cases kind with
  | string =>
    obtain ⟨s, rfl⟩ := described
    exact ⟨.text s, .decoded (.text s)⟩
  | boolean =>
    obtain ⟨b, rfl⟩ := described
    exact ⟨.bool b, .decoded (.bool b)⟩
  | number => exact number described
  | measure => exact number described
  | date =>
    obtain ⟨moment, -, rfl, -⟩ := described
    exact ⟨.moment moment, .moment moment⟩
  | currency =>
    obtain ⟨amount, unit, rfl⟩ := described
    exact ⟨.currency _, .currency _⟩
  | entity =>
    obtain ⟨entity, rfl⟩ := described
    exact ⟨.entity entity, .entity entity⟩
  | location =>
    obtain ⟨location, rfl⟩ := described
    exact ⟨.location location, .location location⟩
  | other => exact absurd rfl known

section Leaf

variable {settings : Settings} {kind : LeafKind} {typeName : String} {value result : Value}

private theorem toLeaf_cases (made : toLeaf clock settings kind typeName value = .ok result) :
    result = value ∨ result.IsLeaf ∧ IsRecorded result := by
  rcases toLeaf_ok made with described | ⟨-, same⟩
  · by_cases known : kind = .other
    · subst known
      exact Or.inl (Except.ok.inj made).symm
    · exact Or.inr (isLeaf_of_describes known described)
  · exact Or.inl same

private theorem toLeaf_int {n : Int}
    (made : toLeaf clock settings kind typeName value = .ok (.int n)) :
    value = .int n := by
  have numeric (made : toNumeric settings typeName value = .ok (.int n)) : value = .int n := by
    cases value with
    | text s =>
      obtain ⟨x, -, same⟩ := Traversal.map_ok_iff.mp made
      cases same
    | _ => exact (expect_ok made).1.symm
  cases kind with
  | number => exact numeric made
  | measure => exact numeric made
  | other => exact Except.ok.inj made
  | _ =>
    rcases toLeaf_ok made with described | ⟨-, same⟩
    · simp [LeafKind.Describes] at described
    · exact same.symm

end Leaf

/-- Coercion carries a kind of value into another: values of the one kind throughout are coerced to
values of the other throughout, if this is so of leaf types. -/
structure Carries (given made : Value → Prop) : Prop where
  null : given .null
  piece : ∀ s, given (.text s)
  unchanged : ∀ value, given value → made value
  list : ∀ items, made (.list items)
  object : ∀ fields, made (.object fields)
  leaf : ∀ clock settings kind typeName value result, value.Throughout given →
    toLeaf clock settings kind typeName value = .ok result → result.Throughout made

section Carried

variable {given made : Value → Prop} (carries : Carries given made)

include carries

private theorem itemsOf?_throughout {value : Value} (all : value.Throughout given)
    {items : List Value} (found : itemsOf? value = some items) :
    ∀ item ∈ items, item.Throughout given := by
  cases value with
  | text s =>
    obtain rfl := Option.some.inj found
    refine List.forall_mem_map.mpr fun piece _ => ?_
    exact (Value.throughout_leaf_iff (.text piece)).mpr (carries.piece piece)
  | list own =>
    obtain rfl := Option.some.inj found
    exact (Value.throughout_list_iff.mp all).2
  | _ => cases found

private theorem coerce_throughout {settings : Settings} {type : SemanticType} {value result : Value}
    (all : value.Throughout given) (coerced : coerce clock settings type value = .ok result) :
    result.Throughout made := by
  have null : Value.null.Throughout made :=
    (Value.throughout_leaf_iff .null).mpr (carries.unchanged _ carries.null)
  induction type generalizing value result with
  | leaf kind labels =>
    rcases coerce_leaf_ok coerced with ⟨-, rfl⟩ | ⟨-, passed⟩
    · exact null
    · exact carries.leaf _ _ _ _ _ _ all passed
  | array element labels ih =>
    rcases coerce_array_ok coerced with ⟨-, rfl⟩ | ⟨items, results, found, rfl, pairs⟩ |
      ⟨-, -, -, rfl⟩
    · exact null
    · refine Value.throughout_list_iff.mpr ⟨carries.list results, fun result member => ?_⟩
      obtain ⟨item, origin, passed⟩ := Traversal.exists_mem_of_forall₂ pairs.flip member
      exact ih (itemsOf?_throughout carries all found item origin) passed
    · exact all.mono carries.unchanged
  | bareArray labels =>
    obtain ⟨-, rfl⟩ := coerce_bareArray_ok coerced
    exact null

end Carried

private theorem carries_recorded : Carries IsDecoded IsRecorded where
  null := .null
  piece := .text
  unchanged := fun _ => .decoded
  list := fun items => .decoded (.list items)
  object := fun fields => .decoded (.object fields)
  leaf := fun _ _ _ _ _ _ decoded made => by
    rcases toLeaf_cases made with rfl | ⟨leaf, recorded⟩
    · exact decoded.mono fun _ => .decoded
    · exact (Value.throughout_leaf_iff leaf).mpr recorded

private theorem carries_short : Carries IsShort IsShort where
  null := nofun
  piece := nofun
  unchanged := fun _ short => short
  list := nofun
  object := nofun
  leaf := fun _ _ _ _ _ _ short made => by
    rcases toLeaf_cases made with rfl | ⟨leaf, -⟩
    · exact short
    · refine (Value.throughout_leaf_iff leaf).mpr ?_
      rintro n rfl
      exact short _ .here n (toLeaf_int made)

end Coercion

namespace Extraction

variable {clock : Calendar.Clock} {settings : Settings} {signature : Signature}

private theorem within_of_mem_elements {value element : Value} (member : element ∈ elements value) :
    Within element value := by
  cases value with
  | list items => exact .item member .here
  | _ =>
    obtain rfl := List.mem_singleton.mp member
    exact .here

private theorem directBody_throughout {kind : Value → Prop} (null : kind .null) {raw value : Value}
    (all : raw.Throughout kind) (found : directBody raw signature = .ok value) :
    value.Throughout kind := by
  unfold directBody at found
  split at found
  · exact Path.follow_throughout null all found
  · obtain rfl := Except.ok.inj found
    exact all

section Carried

open TypedRecords.Coercion (Carries)

variable {given made : Value → Prop} (carries : Carries given made)

include carries

private theorem directFields_throughout {function : Option String} {outputs : List Argument}
    {element : Value} {index : Nat} {record : Fields} (all : element.Throughout given)
    (drawn : directFields clock settings function outputs element index = .ok record) :
    (Value.object record).Throughout made := by
  have pairs := directFields_ok_iff.mp drawn
  refine Value.throughout_object_iff.mpr ⟨carries.object record, fun field member => ?_⟩
  obtain ⟨arg, -, value, ⟨raw, found, coerced⟩, rfl⟩ :=
    Traversal.exists_mem_of_forall₂ pairs.flip member
  have part := Path.follow_throughout carries.null all found
  exact Coercion.coerce_throughout carries part coerced

private theorem directRecords_throughout {function : Option String} {outputs : List Argument}
    {index : Nat} {elements : List Value} {records : List Fields}
    (all : ∀ element ∈ elements, element.Throughout given)
    (drawn : directRecords clock settings function outputs index elements = .ok records) :
    ∀ record ∈ records, (Value.object record).Throughout made := by
  intro record member
  obtain ⟨⟨element, position⟩, origin, same⟩ :=
    Traversal.exists_mem_of_forall₂ (Traversal.mapM_ok_iff.mp drawn).flip member
  have present : element ≠ .null := by
    rintro rfl
    cases same
  have own : element ∈ elements := List.fst_mem_of_mem_zipIdx origin
  dsimp only at same
  rw [directRecord_of_ne_null present] at same
  exact directFields_throughout carries (all element own) same

private theorem direct_throughout {raw : Value} {records : List Fields} (all : raw.Throughout given)
    (drawn : direct clock settings raw signature = .ok records) :
    (Value.list (records.map Value.object)).Throughout made := by
  unfold direct at drawn
  split at drawn
  · cases drawn
  · rename_i value found
    have body := directBody_throughout carries.null all found
    have present : value ≠ .null := by
      rintro rfl
      cases drawn
    rw [directOfBody_of_ne_null present] at drawn
    refine Value.throughout_list_iff.mpr ⟨carries.list _, List.forall_mem_map.mpr ?_⟩
    refine directRecords_throughout carries (fun element member => ?_) drawn
    exact body.within (within_of_mem_elements member)

end Carried

theorem direct_recorded {raw : Value} {records : List Fields} (decoded : raw.Throughout IsDecoded)
    (drawn : direct clock settings raw signature = .ok records) :
    (Value.list (records.map Value.object)).Throughout IsRecorded :=
  direct_throughout Coercion.carries_recorded decoded drawn

theorem direct_short {raw : Value} {records : List Fields} (short : raw.Throughout IsShort)
    (drawn : direct clock settings raw signature = .ok records) :
    (Value.list (records.map Value.object)).Throughout IsShort :=
  direct_throughout Coercion.carries_short short drawn

end Extraction

end TypedRecords
