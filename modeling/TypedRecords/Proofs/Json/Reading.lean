import TypedRecords.Json.Bytes
import TypedRecords.Proofs.Traversal
import TypedRecords.Proofs.Value.Repetition
import TypedRecords.Proofs.Value.Within

/-!
What reading JSON gives: null, truth values, numbers, texts, lists and objects, at every depth.
-/

set_option autoImplicit false

namespace TypedRecords

open TypedRecords.Traversal

namespace Json

/-- The kinds of value that JSON has, with numbers that need not be finite. -/
inductive IsDecoded : Value → Prop
  | null : IsDecoded .null
  | bool (b : Bool) : IsDecoded (.bool b)
  | int (n : Int) : IsDecoded (.int n)
  | float (x : Numeric.Double) : IsDecoded (.float x)
  | text (s : String) : IsDecoded (.text s)
  | list (items : List Value) : IsDecoded (.list items)
  | object (fields : Fields) : IsDecoded (.object fields)

theorem words_cases {word : List Char × Value} (member : word ∈ words) :
    word.2.IsLeaf ∧ IsDecoded word.2 ∧ ∀ n, word.2 ≠ .int n := by
  simp only [words, List.mem_cons, List.not_mem_nil, or_false] at member
  rcases member with rfl | rfl | rfl | rfl | rfl | rfl
  · exact ⟨.null, .null, by simp⟩
  · exact ⟨.bool _, .bool _, by simp⟩
  · exact ⟨.bool _, .bool _, by simp⟩
  · exact ⟨.float _, .float _, by simp⟩
  · exact ⟨.float _, .float _, by simp⟩
  · exact ⟨.float _, .float _, by simp⟩

private theorem words_decoded {word : List Char × Value} (member : word ∈ words) :
    word.2.Throughout IsDecoded := by
  obtain ⟨leaf, decoded, -⟩ := words_cases member
  exact (Value.throughout_leaf_iff leaf).mpr decoded

private theorem numeral_decoded {numeral : Numeral} {value : Value}
    (read : numeral.value = .ok value) :
    value.Throughout IsDecoded := by
  unfold Numeral.value at read
  split at read
  · split at read
    · cases read
    · obtain rfl := Except.ok.inj read
      exact (Value.throughout_leaf_iff (.int _)).mpr (.int _)
  · obtain rfl := Except.ok.inj read
    exact (Value.throughout_leaf_iff (.float _)).mpr (.float _)

private theorem readScalar_decoded {cs rest : List Char} {value : Value}
    (read : readScalar cs = .ok (value, rest)) : value.Throughout IsDecoded := by
  unfold readScalar at read
  split at read
  · rename_i word plain found
    obtain rfl : plain = value := congrArg Prod.fst (Except.ok.inj read)
    exact words_decoded (List.mem_of_find?_eq_some found)
  · split at read
    · obtain ⟨number, found, same⟩ := map_ok_iff.mp read
      obtain rfl : value = number := congrArg Prod.fst same
      exact numeral_decoded found
    · cases read

/-- A value that is read from JSON, from a text or from the bytes of a body. -/
def IsRead (value : Value) : Prop :=
  (∃ text, read text = .ok value) ∨ ∃ bytes, readBytes bytes = .ok value

/-- A kind of value that everything read from JSON is of: it has the texts, the lists and the
objects, and what is read as a word or a number. -/
structure OfReading (kind : Value → Prop) : Prop where
  text : ∀ s, kind (.text s)
  list : ∀ items, kind (.list items)
  object : ∀ fields, kind (.object fields)
  scalar : ∀ cs value rest, readScalar cs = .ok (value, rest) → value.Throughout kind

section Readers

variable {kind : Value → Prop} {fuel : Nat}

private def ValuesHold (kind : Value → Prop) (fuel : Nat) : Prop :=
  ∀ cs value rest, readValue fuel cs = .ok (value, rest) → value.Throughout kind

private def ItemsHold (kind : Value → Prop) (fuel : Nat) : Prop :=
  ∀ cs items rest, readItems fuel cs = .ok (items, rest) → ∀ item ∈ items, item.Throughout kind

private def FieldsHold (kind : Value → Prop) (fuel : Nat) : Prop :=
  ∀ cs pairs rest, readFields fuel cs = .ok (pairs, rest) →
    ∀ field ∈ pairs, field.2.Throughout kind

private theorem readValue_step (reading : OfReading kind) (itemsHold : ItemsHold kind fuel)
    (fieldsHold : FieldsHold kind fuel) : ValuesHold kind (fuel + 1) := by
  intro cs value rest read
  unfold readValue at read
  split at read
  · obtain ⟨⟨s, behind⟩, -, same⟩ := map_ok_iff.mp read
    obtain rfl : value = .text s := congrArg Prod.fst same
    exact (Value.throughout_leaf_iff (.text s)).mpr (reading.text s)
  · split at read
    · obtain rfl : .list [] = value := congrArg Prod.fst (Except.ok.inj read)
      exact Value.throughout_list_iff.mpr ⟨reading.list [], by simp⟩
    · obtain ⟨⟨items, behind⟩, found, same⟩ := map_ok_iff.mp read
      obtain rfl : value = .list items := congrArg Prod.fst same
      exact Value.throughout_list_iff.mpr ⟨reading.list items, itemsHold _ _ _ found⟩
  · split at read
    · obtain rfl : .object [] = value := congrArg Prod.fst (Except.ok.inj read)
      exact Value.throughout_object_iff.mpr ⟨reading.object [], by simp⟩
    · obtain ⟨⟨pairs, behind⟩, found, same⟩ := map_ok_iff.mp read
      obtain rfl : value = .object (Fields.ofPairs pairs) := congrArg Prod.fst same
      refine Value.throughout_object_iff.mpr ⟨reading.object _, fun field member => ?_⟩
      exact fieldsHold _ _ _ found field (Fields.mem_ofPairs_iff.mp member).mem
  · exact reading.scalar _ _ _ read

private theorem readItems_step (valuesHold : ValuesHold kind fuel)
    (itemsHold : ItemsHold kind fuel) : ItemsHold kind (fuel + 1) := by
  intro cs items rest read
  unfold readItems at read
  obtain ⟨⟨item, behind⟩, first, more⟩ := bind_ok_iff.mp read
  have head := valuesHold _ _ _ first
  dsimp only at more
  split at more
  · obtain rfl : [item] = items := congrArg Prod.fst (Except.ok.inj more)
    exact List.forall_mem_singleton.mpr head
  · obtain ⟨⟨later, back⟩, found, same⟩ := bind_ok_iff.mp more
    obtain rfl : item :: later = items := congrArg Prod.fst (Except.ok.inj same)
    exact List.forall_mem_cons.mpr ⟨head, itemsHold _ _ _ found⟩
  · cases more

private theorem readFields_step (valuesHold : ValuesHold kind fuel)
    (fieldsHold : FieldsHold kind fuel) : FieldsHold kind (fuel + 1) := by
  intro cs pairs rest read
  unfold readFields at read
  split at read
  · obtain ⟨⟨name, behind⟩, -, named⟩ := bind_ok_iff.mp read
    dsimp only at named
    split at named
    · obtain ⟨⟨value, back⟩, first, more⟩ := bind_ok_iff.mp named
      have head : (name, value).2.Throughout kind := valuesHold _ _ _ first
      dsimp only at more
      split at more
      · obtain rfl : [(name, value)] = pairs := congrArg Prod.fst (Except.ok.inj more)
        exact List.forall_mem_singleton.mpr head
      · obtain ⟨⟨later, last⟩, found, same⟩ := bind_ok_iff.mp more
        obtain rfl : (name, value) :: later = pairs := congrArg Prod.fst (Except.ok.inj same)
        exact List.forall_mem_cons.mpr ⟨head, fieldsHold _ _ _ found⟩
      · cases more
    · cases named
  · cases read

/-!
The readers call one another, each with less fuel, so a single induction on the fuel carries all
three.
-/

private theorem readers_throughout (reading : OfReading kind) (fuel : Nat) :
    ValuesHold kind fuel ∧ ItemsHold kind fuel ∧ FieldsHold kind fuel := by
  induction fuel with
  | zero => exact ⟨nofun, nofun, nofun⟩
  | succ fuel ih =>
    obtain ⟨values, items, fields⟩ := ih
    exact ⟨readValue_step reading items fields, readItems_step values items,
      readFields_step values fields⟩

variable (reading : OfReading kind)

include reading

private theorem readUnmarked_throughout {text : String} {value : Value}
    (found : readUnmarked text = .ok value) : value.Throughout kind := by
  obtain ⟨⟨whole, rest⟩, first, more⟩ := bind_ok_iff.mp (mapError_ok_iff.mp found)
  dsimp only at more
  split at more
  · obtain rfl := Except.ok.inj more
    exact (readers_throughout reading _).1 _ _ _ first
  · cases more

private theorem read_throughout {text : String} {value : Value} (found : read text = .ok value) :
    value.Throughout kind := by
  unfold read at found
  split at found
  · cases found
  · exact readUnmarked_throughout reading found

private theorem readBytes_throughout {bytes : List UInt8} {value : Value}
    (found : readBytes bytes = .ok value) : value.Throughout kind := by
  unfold readBytes at found
  split at found
  · cases found
  · exact readUnmarked_throughout reading (mapError_ok_iff.mp found)

theorem IsRead.throughout {value : Value} (read : IsRead value) : value.Throughout kind := by
  rcases read with ⟨text, found⟩ | ⟨bytes, found⟩
  · exact read_throughout reading found
  · exact readBytes_throughout reading found

end Readers

theorem ofReading_decoded : OfReading IsDecoded where
  text := .text
  list := .list
  object := .object
  scalar := fun _ _ _ => readScalar_decoded

theorem read_decoded {text : String} {value : Value} (found : read text = .ok value) :
    value.Throughout IsDecoded :=
  read_throughout ofReading_decoded found

theorem readBytes_of_narrow {bytes : List UInt8} {text : List Char} {value : Value}
    (narrow : encodingOf bytes = .narrow 0)
    (decoded : Text.Utf8.decodeFrom Text.Utf8.pieceWithSurrogates 0 0 bytes = .ok text)
    (found : readDocument text = .ok value) : readBytes bytes = .ok value := by
  simp only [readBytes, narrow, Encoding.decode, Text.Utf8.decodeWithSurrogates, List.drop_zero,
    decoded, Except.map, readUnmarked, String.toList_ofList, found, Except.mapError]

end Json

end TypedRecords
