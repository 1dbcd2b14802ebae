import TypedRecords.Device.Labels
import TypedRecords.Proofs.Text.Marks
import TypedRecords.Proofs.Value.Fields

/-!
Identifiers of devices.  A value stands between the mark of its parameter and that of the next one,
and nothing keeps a mark out of a value; so two states share an identifier only where one value goes
on, behind another one, as the mark of the next parameter does.
-/

set_option autoImplicit false

namespace TypedRecords.Device

open TypedRecords.Text (toList_intercalate_cons)

def IsConfigured (params : List String) (state : Fields) : Prop :=
  ∀ param ∈ params, ∃ text, Fields.get? state param = some (.text text)

def Agree (params : List String) (state other : Fields) : Prop :=
  ∀ param ∈ params, Fields.get? state param = Fields.get? other param

def mark (param : String) : List Char :=
  '-' :: (param.toList ++ [':'])

/-- A value is longer than another one, and goes on behind it as the mark of the next parameter
does; the mark may end within the one that follows the value. -/
def Imitates (next long short : String) : Prop :=
  short ≠ long ∧ short.toList ++ mark next <+: long.toList ++ mark next

/-- The first parameter in which two states differ is followed by another one, and one of the values
imitates its mark. -/
def IsImitated (params : List String) (state other : Fields) : Prop :=
  ∃ before param next after text otherText,
    params = before ++ param :: next :: after ∧ Agree before state other ∧
      Fields.get? state param = some (.text text) ∧
      Fields.get? other param = some (.text otherText) ∧
      (Imitates next text otherText ∨ Imitates next otherText text)

section Written

variable {params : List String} {param : String} {state other : Fields}

def written (params : List String) (state : Fields) : List Char :=
  params.flatMap fun param => '-' :: (idPart state param).toList

private theorem written_cons {text : String} (found : Fields.get? state param = some (.text text))
    (rest : List String) :
    written (param :: rest) state = mark param ++ (text.toList ++ written rest state) := by
  simp [written, idPart, found, Value.plain, mark]

private theorem toList_uniqueId (kind : String) (params : List String) (state : Fields) :
    uniqueId kind noAuthentication params state =
      some (String.ofList (kind.toList ++ written params state)) := by
  have join := toList_intercalate_cons "-" kind (params.map (idPart state))
  rw [uniqueId, if_pos rfl, ← String.ofList_toList (s := "-".intercalate _), join]
  simp [written, List.flatMap_map]

private theorem uniqueId_eq_iff {kind : String} :
    uniqueId kind noAuthentication params state = uniqueId kind noAuthentication params other ↔
      written params state = written params other := by
  rw [toList_uniqueId, toList_uniqueId, Option.some_inj, String.ofList_inj,
    List.append_cancel_left_eq]

private theorem written_congr (agree : Agree params state other) :
    written params state = written params other := by
  refine List.flatMap_congr fun param member => ?_
  rw [idPart, idPart, agree param member]

/-- A value with the rest of the identifier behind it is another value with its rest: the shorter
one is at the front of the other, and the mark behind it begins within the other. -/
theorem imitates_of_append {next short long : String} {gap rest behind : List Char}
    (differs : short ≠ long) (longer : long.toList = short.toList ++ gap)
    (same : mark next ++ rest = gap ++ (mark next ++ behind)) : Imitates next long short := by
  refine ⟨differs, ?_⟩
  rw [longer, List.append_assoc]
  refine (List.prefix_append_right_inj _).mpr ?_
  have front : mark next <+: mark next ++ rest := List.prefix_append _ _
  have whole : gap ++ mark next <+: mark next ++ rest := by
    rw [same, ← List.append_assoc]
    exact List.prefix_append _ _
  exact List.prefix_of_prefix_length_le front whole (by simp)

/-- By induction on the parameters, which are passed as long as the states agree in them. -/
theorem agree_or_isImitated (configured : IsConfigured params state)
    (configured' : IsConfigured params other) (same : written params state = written params other) :
    Agree params state other ∨ IsImitated params state other := by
  induction params with
  | nil => exact Or.inl (by simp [Agree])
  | cons param rest ih =>
    obtain ⟨⟨text, found⟩, others⟩ := List.forall_mem_cons.mp configured
    obtain ⟨⟨text', found'⟩, others'⟩ := List.forall_mem_cons.mp configured'
    rw [written_cons found, written_cons found'] at same
    have behind := List.append_cancel_left same
    by_cases equal : text = text'
    · subst equal
      have here : Fields.get? state param = Fields.get? other param := found.trans found'.symm
      rcases ih others others' (List.append_cancel_left behind) with agree | imitated
      · exact Or.inl (List.forall_mem_cons.mpr ⟨here, agree⟩)
      · obtain ⟨before, first, next, after, v, w, rfl, agree, differing⟩ := imitated
        exact Or.inr ⟨param :: before, first, next, after, v, w, rfl,
          List.forall_mem_cons.mpr ⟨here, agree⟩, differing⟩
    · refine Or.inr ?_
      cases rest with
      | nil =>
        have last : text.toList = text'.toList := by simpa [written] using behind
        exact absurd (String.toList_injective last) equal
      | cons next after =>
        obtain ⟨⟨more, held⟩, -⟩ := List.forall_mem_cons.mp others
        obtain ⟨⟨more', held'⟩, -⟩ := List.forall_mem_cons.mp others'
        rw [written_cons held, written_cons held'] at behind
        refine ⟨[], param, next, after, text, text', rfl, by simp [Agree], found, found', ?_⟩
        rcases List.append_eq_append_iff.mp behind with ⟨gap, longer, same⟩ | ⟨gap, longer, same⟩
        · exact Or.inr (imitates_of_append equal longer same)
        · exact Or.inl (imitates_of_append (Ne.symm equal) longer same)

end Written

section Shared

variable {param next : String} {rest : List String}

/-- A state that gives two parameters their texts, and the others an empty one. -/
def stateOf (param next : String) (rest : List String) (text nextText : String) : Fields :=
  (param, .text text) :: (next, .text nextText) :: rest.map fun other => (other, .text "")

private theorem get?_stateOf (distinct : (param :: next :: rest).Nodup) (text nextText : String) :
    Fields.get? (stateOf param next rest text nextText) param = some (.text text) ∧
      Fields.get? (stateOf param next rest text nextText) next = some (.text nextText) ∧
      ∀ other ∈ rest, Fields.get? (stateOf param next rest text nextText) other =
        some (.text "") := by
  have names : (stateOf param next rest text nextText).map Prod.fst = param :: next :: rest := by
    simp [stateOf, Function.comp_def]
  have apart : ((stateOf param next rest text nextText).map Prod.fst).Nodup := names ▸ distinct
  refine ⟨?_, ?_, fun other member => ?_⟩
  · exact Fields.get?_of_mem apart (by simp [stateOf])
  · exact Fields.get?_of_mem apart (by simp [stateOf])
  · exact Fields.get?_of_mem apart (by simp [stateOf, member])

private theorem isConfigured_stateOf (distinct : (param :: next :: rest).Nodup)
    (text nextText : String) :
    IsConfigured (param :: next :: rest) (stateOf param next rest text nextText) := by
  obtain ⟨first, second, others⟩ := get?_stateOf distinct text nextText
  intro own member
  rcases List.mem_cons.mp member with rfl | member
  · exact ⟨_, first⟩
  · rcases List.mem_cons.mp member with rfl | member
    · exact ⟨_, second⟩
    · exact ⟨_, others own member⟩

private theorem exists_shared (kind : String) (distinct : (param :: next :: rest).Nodup) :
    ∃ state other, IsConfigured (param :: next :: rest) state ∧
      IsConfigured (param :: next :: rest) other ∧
      uniqueId kind noAuthentication (param :: next :: rest) state =
        uniqueId kind noAuthentication (param :: next :: rest) other ∧
      ¬ Agree (param :: next :: rest) state other := by
  let sign := String.ofList (mark next)
  have spelled : sign.toList = mark next := String.toList_ofList
  obtain ⟨first, second, others⟩ := get?_stateOf distinct sign ""
  obtain ⟨first', second', others'⟩ := get?_stateOf distinct "" sign
  refine ⟨stateOf param next rest sign "", stateOf param next rest "" sign,
    isConfigured_stateOf distinct _ _, isConfigured_stateOf distinct _ _, ?_, ?_⟩
  · have later : Agree rest (stateOf param next rest sign "") (stateOf param next rest "" sign) :=
      fun own member => (others own member).trans (others' own member).symm
    rw [uniqueId_eq_iff, written_cons first, written_cons second, written_cons first',
      written_cons second', spelled, written_congr later]
    simp
  · intro agree
    have same : some (Value.text sign) = some (Value.text "") :=
      first.symm.trans ((agree param List.mem_cons_self).trans first')
    have empty : sign = "" := by simpa using same
    rw [empty] at spelled
    simp [mark] at spelled

end Shared

/-- States that share an identifier agree, unless the first value in which they differ imitates the
mark of the parameter behind it.  So a class of devices whose instances are always told apart is one
with at most one parameter. -/
theorem uniqueId_tells_apart (kind : String) {params : List String} (distinct : params.Nodup) :
    (∀ state other, IsConfigured params state → IsConfigured params other →
      uniqueId kind noAuthentication params state = uniqueId kind noAuthentication params other →
      Agree params state other ∨ IsImitated params state other) ∧
    ((∀ state other, IsConfigured params state → IsConfigured params other →
      uniqueId kind noAuthentication params state = uniqueId kind noAuthentication params other →
      Agree params state other) ↔ params.length ≤ 1) := by
  have shared (state other : Fields) (configured : IsConfigured params state)
      (configured' : IsConfigured params other)
      (same : uniqueId kind noAuthentication params state =
        uniqueId kind noAuthentication params other) :
      Agree params state other ∨ IsImitated params state other :=
    agree_or_isImitated configured configured' (uniqueId_eq_iff.mp same)
  refine ⟨shared, ?_, ?_⟩
  · intro apart
    match params with
    | [] => simp
    | [_] => simp
    | param :: next :: rest =>
      obtain ⟨state, other, configured, configured', same, differ⟩ := exists_shared kind distinct
      exact absurd (apart state other configured configured' same) differ
  · intro short state other configured configured' same
    rcases shared state other configured configured' same with agree | imitated
    · exact agree
    · obtain ⟨before, param, next, after, text, otherText, rfl, -⟩ := imitated
      rw [List.length_append, List.length_cons, List.length_cons] at short
      omega

/-- A value imitates a mark also where the mark overlaps with itself and is not a part of it. -/
theorem uniqueId_tells_apart_overlapping :
    let params := ["a", "x:-x"]
    let state : Fields := [("a", .text "-x:"), ("x:-x", .text "")]
    let other : Fields := [("a", .text ""), ("x:-x", .text "-x:")]
    params.Nodup ∧ IsConfigured params state ∧ IsConfigured params other ∧
      uniqueId "k" noAuthentication params state = uniqueId "k" noAuthentication params other ∧
      IsImitated params state other := by
  intro params state other
  have distinct : params.Nodup := by decide
  have configured : IsConfigured params state := by simp [IsConfigured, params, state, Fields.get?]
  have configured' : IsConfigured params other := by simp [IsConfigured, params, other, Fields.get?]
  have same : uniqueId "k" noAuthentication params state =
      uniqueId "k" noAuthentication params other := by decide
  have differ : ¬ Agree params state other := by
    intro agree
    simpa [state, other, Fields.get?] using agree "a" (by simp [params])
  obtain ⟨imitated, -⟩ := uniqueId_tells_apart "k" distinct
  exact ⟨distinct, configured, configured', same,
    (imitated state other configured configured' same).resolve_left differ⟩

/-- A value with the mark of the next parameter in it makes two states share an identifier. -/
theorem uniqueId_shared :
    let params := ["a", "b"]
    let state : Fields := [("a", .text "x-b:y"), ("b", .text "z")]
    let other : Fields := [("a", .text "x"), ("b", .text "y-b:z")]
    params.Nodup ∧ IsConfigured params state ∧ IsConfigured params other ∧
      uniqueId "k" noAuthentication params state = some "k-a:x-b:y-b:z" ∧
      uniqueId "k" noAuthentication params other = some "k-a:x-b:y-b:z" ∧
      ¬ Agree params state other := by
  intro params state other
  refine ⟨by decide, ?_, ?_, by decide, by decide, fun agree => ?_⟩
  · simp [IsConfigured, params, state, Fields.get?]
  · simp [IsConfigured, params, other, Fields.get?]
  · simpa [state, other, Fields.get?] using agree "a" (by simp [params])

end TypedRecords.Device
