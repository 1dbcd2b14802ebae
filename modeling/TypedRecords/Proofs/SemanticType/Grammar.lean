import TypedRecords.Proofs.Text.Classes
import TypedRecords.Proofs.Text.Runs
import TypedRecords.SemanticType.Reader

/-!
The grammar of the texts that spell types, and what of a text belongs to what.
-/

set_option autoImplicit false

namespace TypedRecords.SemanticType

open TypedRecords.Text (isAlphanumeric isBlank stripBlank isAlphanumeric_of_isBlank)

def Blank (cs : List Char) : Prop :=
  ∀ c ∈ cs, isBlank c = true

/-- At least one character, each of them alphanumeric or an underscore. -/
structure IsName (cs : List Char) : Prop where
  nonempty : cs ≠ []
  chars : ∀ c ∈ cs, isAlphanumeric c = true ∨ c = '_'

/-- No beginning has more closing than opening parentheses, and there are as many of both. -/
structure Balanced (cs : List Char) : Prop where
  opened : ∀ front, front <+: cs → front.count ')' ≤ front.count '('
  closed : cs.count ')' = cs.count '('

/-- The characters that spell a type, without white space around them.  Behind a name there comes
white space, a parenthesis or the end of the text, so that no name goes on behind its end; and where
a type may be without argument, no opening parenthesis can follow. -/
inductive Spells : List Char → SemanticType → Prop
  | known {kind : LeafKind} : kind ≠ .other → Spells kind.name.toList (.plain kind)
  | unknown {name : List Char} :
      IsName name → String.ofList name ≠ arrayName →
      (∀ kind, kind ≠ .other → String.ofList name ≠ LeafKind.name kind) →
        Spells name (.leaf .other { TypeLabels.none with name := some (String.ofList name) })
  | array {outer before element after : List Char} {type : SemanticType} :
      Blank outer → Blank before → Blank after → Spells element type →
        Spells (arrayName.toList ++ outer ++ '(' :: (before ++ element ++ after ++ [')']))
          (arrayOf type)
  | measure {outer argument : List Char} :
      Blank outer → Balanced argument →
        Spells (LeafKind.measure.name.toList ++ outer ++ '(' :: (argument ++ [')']))
          (.leaf .measure
            { TypeLabels.none with unit := some (String.ofList (stripBlank argument)) })
  | entity {outer argument : List Char} :
      Blank outer → Balanced argument →
        Spells (LeafKind.entity.name.toList ++ outer ++ '(' :: (argument ++ [')']))
          (.leaf .entity
            { TypeLabels.none with entityType := some (String.ofList (stripBlank argument)) })
  | other {name outer argument : List Char} :
      IsName name → String.ofList name ≠ arrayName →
      String.ofList name ≠ LeafKind.measure.name → String.ofList name ≠ LeafKind.entity.name →
      Blank outer → Balanced argument →
        Spells (name ++ outer ++ '(' :: (argument ++ [')']))
          (.leaf .other
            { TypeLabels.none with
              name := some (String.ofList (name ++ outer ++ '(' :: (argument ++ [')']))) })

/-- A text that spells a type, perhaps with white space around it. -/
def IsSpelling (text : String) (type : SemanticType) : Prop :=
  ∃ before spelling after, text.toList = before ++ spelling ++ after ∧
    Blank before ∧ Blank after ∧ Spells spelling type

section Chars

theorem Blank.append {first second : List Char} (left : Blank first) (right : Blank second) :
    Blank (first ++ second) :=
  List.forall_mem_append.mpr ⟨left, right⟩

theorem isNameChar_iff {c : Char} : isNameChar c = true ↔ isAlphanumeric c = true ∨ c = '_' := by
  simp [isNameChar]

theorem isNameChar_of_isBlank {c : Char} (blank : isBlank c = true) : isNameChar c = false := by
  have other : c ≠ '_' := by
    rintro rfl
    exact absurd blank (by decide)
  simp [isNameChar, isAlphanumeric_of_isBlank blank, other]

theorem isBlank_of_isNameChar {c : Char} (named : isNameChar c = true) : isBlank c = false := by
  cases blank : isBlank c with
  | false => rfl
  | true => exact absurd named (by simp [isNameChar_of_isBlank blank])

end Chars

section Names

theorem ofName?_name (kind : LeafKind) : LeafKind.ofName? kind.name = some kind := by
  cases kind <;> rfl

theorem name_of_ofName? {name : String} {kind : LeafKind}
    (found : LeafKind.ofName? name = some kind) : kind.name = name := by
  simpa using List.find?_some found

theorem spells_of_ofName {name : List Char} (named : IsName name) {type : SemanticType}
    (made : ofName (String.ofList name) = .ok type) : Spells name type := by
  unfold ofName at made
  split at made
  · cases made
  rename_i notArray
  -- A name that is found as no kind, or as the one for all other names, is not in the vocabulary.
  have beyond (found : LeafKind.ofName? (String.ofList name) = none ∨
      LeafKind.ofName? (String.ofList name) = some .other) (kind : LeafKind)
      (known : kind ≠ .other) : String.ofList name ≠ kind.name := by
    intro same
    rw [same, ofName?_name] at found
    simp [known] at found
  split at made
  · rename_i missing
    cases made
    exact .unknown named notArray (beyond (Or.inl missing))
  · rename_i other
    cases made
    exact .unknown named notArray (beyond (Or.inr other))
  · rename_i kind known found
    cases made
    have same : kind.name.toList = name := by simp [name_of_ofName? found]
    exact same ▸ .known known

theorem ofName_of_known {kind : LeafKind} (known : kind ≠ .other) :
    ofName kind.name = .ok (.plain kind) := by
  cases kind with
  | other => exact absurd rfl known
  | _ => rfl

theorem ofName_of_unknown {name : String} (notArray : name ≠ arrayName)
    (beyond : ∀ kind, kind ≠ .other → name ≠ LeafKind.name kind) :
    ofName name = .ok (.leaf .other { TypeLabels.none with name := some name }) := by
  rw [ofName, if_neg notArray]
  cases found : LeafKind.ofName? name with
  | none => rfl
  | some kind =>
    by_cases other : kind = .other
    · rw [other]
    · exact absurd (name_of_ofName? found).symm (beyond kind other)

theorem spells_ofArgument {name outer argument : List Char} (named : IsName name)
    (notArray : String.ofList name ≠ arrayName) (blank : Blank outer)
    (balanced : Balanced argument) :
    Spells (name ++ outer ++ '(' :: (argument ++ [')']))
      (ofArgument (String.ofList name) (String.ofList (stripBlank argument))
        (String.ofList (name ++ outer ++ '(' :: (argument ++ [')'])))) := by
  unfold ofArgument
  split
  · rename_i measure
    have same : name = LeafKind.measure.name.toList := by simp [← measure]
    exact same ▸ .measure blank balanced
  rename_i notMeasure
  split
  · rename_i entity
    have same : name = LeafKind.entity.name.toList := by simp [← entity]
    exact same ▸ .entity blank balanced
  · rename_i notEntity
    exact .other named notArray notMeasure notEntity blank balanced

end Names

end TypedRecords.SemanticType
