import TypedRecords.Proofs.Coercion.Basic
import TypedRecords.Proofs.SemanticType.Reading

/-!
The text of a type that has been read is read again: as the type itself, but for units and entity
types that are there and empty.  These are not written, so that they are lost on the way; to
coercion they make no difference.
-/

set_option autoImplicit false

namespace TypedRecords.SemanticType

open TypedRecords.Text (isBlank stripBlank exists_ends_of_stripWhere stripWhere_stripWhere)

variable {clock : Calendar.Clock}

def written (label : Option String) : Option String :=
  label.filter fun text => text != ""

def canonical : SemanticType → SemanticType
  | .leaf kind labels =>
    .leaf kind
      { labels with unit := written labels.unit, entityType := written labels.entityType }
  | .array element labels => .array element.canonical labels
  | .bareArray labels => .bareArray labels

/-- Somewhere in a type a unit or an entity type is there, but empty. -/
inductive HasEmptyLabel : SemanticType → Prop
  | unit {kind : LeafKind} {labels : TypeLabels} :
      labels.unit = some "" → HasEmptyLabel (.leaf kind labels)
  | entityType {kind : LeafKind} {labels : TypeLabels} :
      labels.entityType = some "" → HasEmptyLabel (.leaf kind labels)
  | element {element : SemanticType} {labels : TypeLabels} :
      HasEmptyLabel element → HasEmptyLabel (.array element labels)

section Canonical

@[simp] private theorem written_none : written none = none :=
  rfl

@[simp] private theorem written_empty : written (some "") = none :=
  rfl

private theorem written_of_ne {label : String} (nonempty : label ≠ "") :
    written (some label) = some label := by
  simp [written, nonempty]

private theorem written_eq_self_iff {label : Option String} :
    written label = label ↔ label ≠ some "" := by
  cases label with
  | none => simp
  | some text =>
    by_cases empty : text = ""
    · simp [empty]
    · simp [empty, written_of_ne]

private theorem labelled_written (name : String) (label : Option String) :
    labelled name (written label) = labelled name label := by
  cases label with
  | none => rfl
  | some text =>
    by_cases empty : text = ""
    · simp [empty, labelled]
    · rw [written_of_ne empty]

@[simp] private theorem text_canonical (type : SemanticType) : type.canonical.text = type.text := by
  induction type with
  | leaf kind labels => cases kind <;> simp [canonical, text, labelled_written]
  | array element labels ih => simp [canonical, text, ih]
  | bareArray labels => rfl

private theorem canonical_eq_self_iff {type : SemanticType} :
    type.canonical = type ↔ ¬ type.HasEmptyLabel := by
  induction type with
  | leaf kind labels =>
    have same : (leaf kind labels).canonical = leaf kind labels ↔
        labels.unit ≠ some "" ∧ labels.entityType ≠ some "" := by
      rw [← written_eq_self_iff, ← written_eq_self_iff]
      cases labels
      simp [canonical]
    rw [same]
    constructor
    · rintro ⟨unit, entityType⟩ (empty | empty)
      · exact unit empty
      · exact entityType empty
    · intro full
      exact ⟨fun empty => full (.unit empty), fun empty => full (.entityType empty)⟩
  | array element labels ih =>
    have same : (array element labels).canonical = array element labels ↔
        element.canonical = element := by
      simp [canonical]
    rw [same, ih, not_iff_not]
    constructor
    · exact .element
    · rintro (_ | _ | empty)
      exact empty
  | bareArray labels =>
    have full : ¬ (bareArray labels).HasEmptyLabel := by
      rintro ⟨⟩
    simp [canonical, full]

end Canonical

section Balance

variable {front back : List Char}

theorem Blank.count_eq_zero (blank : Blank front) {c : Char} (visible : isBlank c = false) :
    front.count c = 0 := by
  rw [List.count_eq_zero]
  intro member
  exact absurd (blank c member) (by simp [visible])

theorem Balanced.between {cs : List Char} (balanced : Balanced (front ++ cs ++ back))
    (blankFront : Blank front) (blankBack : Blank back) : Balanced cs := by
  have frontOpens : front.count '(' = 0 := blankFront.count_eq_zero (by decide)
  have frontShuts : front.count ')' = 0 := blankFront.count_eq_zero (by decide)
  have backOpens : back.count '(' = 0 := blankBack.count_eq_zero (by decide)
  have backShuts : back.count ')' = 0 := blankBack.count_eq_zero (by decide)
  constructor
  · intro first start
    have within : front ++ first <+: front ++ cs ++ back :=
      ((List.prefix_append_right_inj front).mpr start).trans (List.prefix_append _ _)
    have bound := balanced.opened (front ++ first) within
    simpa [List.count_append, frontOpens, frontShuts] using bound
  · have total := balanced.closed
    simpa [List.count_append, frontOpens, frontShuts, backOpens, backShuts] using total

theorem Balanced.strip {argument : List Char} (balanced : Balanced argument) :
    Balanced (stripBlank argument) := by
  obtain ⟨front, back, split, blankFront, blankBack⟩ :=
    exists_ends_of_stripWhere isBlank argument
  rw [split] at balanced
  exact balanced.between blankFront blankBack

end Balance

section Text

private theorem labelled_empty (name : String) : labelled name (some "") = name :=
  rfl

private theorem toList_labelled (name : String) {label : List Char} (nonempty : label ≠ []) :
    (labelled name (some (String.ofList label))).toList =
      name.toList ++ [] ++ '(' :: (label ++ [')']) := by
  simp [labelled, nonempty]

private theorem written_strip {argument : List Char} (nonempty : stripBlank argument ≠ []) :
    written (some (String.ofList (stripBlank argument))) =
      some (String.ofList (stripBlank (stripBlank argument))) := by
  have again : stripBlank (stripBlank argument) = stripBlank argument :=
    stripWhere_stripWhere isBlank argument
  rw [again, written_of_ne (by simpa using nonempty)]

private theorem text_other {name : List Char} (nonempty : name ≠ []) (labels : TypeLabels) :
    (leaf .other { labels with name := some (String.ofList name) }).text.toList = name := by
  simp [text, nonempty]

/-- A kind whose name may have an argument is written with the argument as it was stripped, or alone
where nothing was left of it. -/
theorem spells_labelled (kind : LeafKind) (typeOf : Option String → SemanticType)
    {argument : List Char} (known : kind ≠ .other) (alone : typeOf none = plain kind)
    (spells : ∀ inner, Balanced inner →
      Spells (kind.name.toList ++ [] ++ '(' :: (inner ++ [')']))
        (typeOf (some (String.ofList (stripBlank inner)))))
    (balanced : Balanced argument) :
    Spells (labelled kind.name (some (String.ofList (stripBlank argument)))).toList
      (typeOf (written (some (String.ofList (stripBlank argument))))) := by
  by_cases empty : stripBlank argument = []
  · rw [empty, String.ofList_nil, labelled_empty, written_empty, alone]
    exact .known known
  · rw [toList_labelled kind.name empty, written_strip empty]
    exact spells (stripBlank argument) balanced.strip

/-- The text of a type that has been spelled is a spelling, too: of the type without the labels that
are not written. -/
theorem spells_text {spelling : List Char} {type : SemanticType} (spells : Spells spelling type) :
    Spells type.text.toList type.canonical := by
  have nothing : Blank [] := by simp [Blank]
  -- By the grammar of the first spelling: each of its forms is written in the same form.
  induction spells with
  | @known kind known =>
    have same : (plain kind).text = kind.name := by cases kind <;> rfl
    rw [same]
    exact .known known
  | unknown named notArray beyond =>
    rw [text_other named.nonempty]
    exact .unknown named notArray beyond
  | @array _ _ _ _ type _ _ _ _ ih =>
    have same : (arrayOf type).text.toList =
        arrayName.toList ++ [] ++ '(' :: ([] ++ type.text.toList ++ [] ++ [')']) := by
      simp [text, arrayOf]
    rw [same]
    exact .array nothing nothing nothing ih
  | measure _ balanced =>
    exact spells_labelled .measure (fun unit => .leaf .measure { TypeLabels.none with unit })
      (by decide) rfl (fun _ inner => .measure nothing inner) balanced
  | entity _ balanced =>
    exact spells_labelled .entity
      (fun entityType => .leaf .entity { TypeLabels.none with entityType })
      (by decide) rfl (fun _ inner => .entity nothing inner) balanced
  | other named notArray notMeasure notEntity blankOuter balanced =>
    rw [text_other (by simp)]
    exact .other named notArray notMeasure notEntity blankOuter balanced

end Text

private theorem read_text {source : String} {type : SemanticType} (made : read source = .ok type) :
    read type.text = .ok type.canonical := by
  obtain ⟨before, spelling, after, -, -, -, spells⟩ := read_eq_ok_iff.mp made
  have nothing : Blank [] := by simp [Blank]
  have spelled : IsSpelling type.text type.canonical :=
    ⟨[], type.text.toList, [], by simp, nothing, nothing, spells_text spells⟩
  exact read_eq_ok_iff.mpr spelled

/-- The text of a type that has been read is read as the type without the labels that are not
written, and so as the type itself just where no unit and no entity type is there and empty. -/
theorem read_text_restores_iff {source : String} {type : SemanticType}
    (made : read source = .ok type) :
    read type.text = .ok type.canonical ∧
      (read type.text = .ok type ↔ ¬ type.HasEmptyLabel) := by
  have again := read_text made
  have same : type.canonical = type ↔ read type.text = .ok type := by
    rw [again, Except.ok.injEq]
  exact ⟨again, same.symm.trans canonical_eq_self_iff⟩

theorem read_text_restores_iff_nested :
    let source := " Array( Entity ( tt:( a) ) )"
    let type := arrayOf (.leaf .entity { TypeLabels.none with entityType := some "tt:( a)" })
    read source = .ok type ∧ type.text = "Array(Entity(tt:( a)))" ∧ read type.text = .ok type := by
  intro source type
  have made : read source = .ok type := by decide +kernel
  have full : ¬ type.HasEmptyLabel := canonical_eq_self_iff.mp (by decide)
  exact ⟨made, by decide +kernel, (read_text_restores_iff made).2.mpr full⟩

/-- The empty unit of a measure is not found in its text. -/
theorem read_text_of_empty_unit :
    let type := leaf .measure { TypeLabels.none with unit := some "" }
    read "Measure()" = .ok type ∧ read type.text = .ok (plain .measure) ∧
      read type.text ≠ .ok type := by
  decide +kernel

private theorem coerce_canonical (settings : Settings) (type : SemanticType) (value : Value) :
    coerce clock settings type.canonical value = coerce clock settings type value := by
  induction type generalizing value with
  | leaf kind labels =>
    have sameText := text_canonical (leaf kind labels)
    by_cases absent : value = .null
    · rw [absent, coerce_null, coerce_null]
    · rw [canonical] at sameText ⊢
      rw [coerce_leaf _ _ absent, coerce_leaf _ _ absent, sameText]
  | array element labels ih =>
    have sameText := text_canonical (array element labels)
    have sameItems : coerce clock settings element.canonical = coerce clock settings element :=
      funext ih
    by_cases absent : value = .null
    · rw [absent, coerce_null, coerce_null]
    · rw [canonical] at sameText ⊢
      rw [coerce_array _ _ absent, coerce_array _ _ absent, sameText, sameItems]
  | bareArray labels => rfl

/-- The text of a type that has been read is read as a type of the same text, to which every value
is coerced with the same outcome. -/
theorem read_text_means_same {source : String} {type : SemanticType}
    (made : read source = .ok type) :
    ∃ again, read type.text = .ok again ∧ again.text = type.text ∧
      ∀ clock settings value,
        coerce clock settings again value = coerce clock settings type value :=
  ⟨type.canonical, read_text made, text_canonical type,
    fun _ settings value => coerce_canonical settings type value⟩

theorem read_text_means_same_empty_unit :
    let type := arrayOf (.leaf .measure { TypeLabels.none with unit := some "" })
    read "Array(Measure( ))" = .ok type ∧
      ∃ again, read type.text = .ok again ∧ again.text = type.text ∧
        ∀ clock settings value,
          coerce clock settings again value = coerce clock settings type value := by
  intro type
  have made : read "Array(Measure( ))" = .ok type := by decide +kernel
  exact ⟨made, read_text_means_same made⟩

end TypedRecords.SemanticType
