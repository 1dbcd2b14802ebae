import TypedRecords.Proofs.Template.Filling

/-!
Templates put together from literal texts and names: with every dollar sign of a text doubled and
the names between braces, the texts come back as they were, whatever stands on either side of them.
-/

set_option autoImplicit false

namespace TypedRecords.Template

/-- A character as it is written where it is to stand for itself. -/
def escapeChar (c : Char) : List Char :=
  if c = '$' then ['$', '$'] else [c]

/-- The template of a literal text: every dollar sign is doubled. -/
def escape (text : String) : String :=
  String.ofList (text.toList.flatMap escapeChar)

/-- A name that is to be filled in, and the literal text behind it. -/
structure Passage where
  name : String
  named : IsName name.toList
  text : String

def Passage.source (passage : Passage) : String :=
  "$\x7b" ++ passage.name ++ "\x7d" ++ escape passage.text

def Passage.placeholder (passage : Passage) : Token :=
  .placeholder passage.name true

def compose (first : String) (passages : List Passage) : String :=
  escape first ++ String.join (passages.map Passage.source)

/-- A literal text, and behind it for each passage what its name is filled with and its text. -/
def interleave (first : String) (passages : List Passage) (fillings : List String) : String :=
  first ++ String.join
    (List.zipWith (fun passage filling => filling ++ passage.text) passages fillings)

section Division

def charToken (c : Char) : Token :=
  if c = '$' then .dollar else .char c

/-- The tokens of a passage: its placeholder and the characters behind it. -/
def Passage.tokens (passage : Passage) : List Token :=
  passage.placeholder :: passage.text.toList.map charToken

private theorem divides_escape {rest : List Char} {tokens : List Token}
    (divides : Divides rest tokens) (cs : List Char) :
    Divides (cs.flatMap escapeChar ++ rest) (cs.map charToken ++ tokens) := by
  induction cs with
  | nil => exact divides
  | cons c cs ih =>
    rw [List.flatMap_cons, List.append_assoc, List.map_cons, List.cons_append]
    by_cases dollar : c = '$'
    · subst dollar
      exact .cons (.dollar _) ih
    · have plain : escapeChar c = [c] := if_neg dollar
      have token : charToken c = .char c := if_neg dollar
      rw [plain, token]
      exact .cons (.plain dollar _) ih

private theorem divides_passages (passages : List Passage) :
    Divides (String.join (passages.map Passage.source)).toList
      (passages.flatMap Passage.tokens) := by
  induction passages with
  | nil => exact .nil
  | cons passage rest ih =>
    have leads := Leads.braced passage.named
    rw [String.ofList_toList] at leads
    have divides := Divides.cons (leads _) (divides_escape ih passage.text.toList)
    simpa [Passage.source, escape, Passage.tokens, Passage.placeholder] using divides

private theorem tokens_compose (first : String) (passages : List Passage) :
    tokens (compose first passages) =
      first.toList.map charToken ++ passages.flatMap Passage.tokens := by
  have divides : Divides (compose first passages).toList
      (first.toList.map charToken ++ passages.flatMap Passage.tokens) := by
    rw [compose, escape, String.toList_append, String.toList_ofList]
    exact divides_escape (divides_passages passages) first.toList
  exact (divides_iff.mp divides).symm

end Division

section Filling

variable (policy : MissingPolicy) (device : Fields) (call : Option Fields)

private theorem formatToken_charToken (c : Char) :
    formatToken policy device call (charToken c) = String.singleton c := by
  unfold charToken
  split
  · rename_i dollar
    subst dollar
    rfl
  · rfl

private theorem join_charTokens (cs : List Char) :
    String.join ((cs.map charToken).map (formatToken policy device call)) = String.ofList cs := by
  rw [← String.toList_inj]
  simp [List.flatMap_map, formatToken_charToken]

private theorem format_compose_eq (first : String) (passages : List Passage) :
    format policy (compose first passages) device call =
      interleave first passages
        (passages.map fun passage => formatToken policy device call passage.placeholder) := by
  have behind : String.join
      ((passages.flatMap Passage.tokens).map (formatToken policy device call)) =
        String.join (List.zipWith (fun passage filling => filling ++ passage.text) passages
          (passages.map fun passage => formatToken policy device call passage.placeholder)) := by
    induction passages with
    | nil => rfl
    | cons passage rest ih =>
      rw [List.flatMap_cons, List.map_append, String.join_append, ih, Passage.tokens,
        List.map_cons, String.join_cons, join_charTokens, String.ofList_toList]
      exact String.join_cons.symm
  rw [format, tokens_compose, List.map_append, String.join_append, join_charTokens,
    String.ofList_toList, behind, interleave]

private theorem forall₂_placeholders_iff {passages : List Passage} {fillings : List String} :
    List.Forall₂ (fun passage => Fills policy device call passage.placeholder) passages fillings ↔
      (passages.map fun passage => formatToken policy device call passage.placeholder) =
        fillings := by
  rw [← List.forall₂_map_left_iff, forall₂_fills_iff, List.map_map]
  rfl

end Filling

/-- A template that is put together from literal texts and names says the texts, and between them
what the names are filled with; a literal text alone says itself. -/
theorem format_compose (policy : MissingPolicy) (device : Fields) (call : Option Fields) :
    (∀ (first : String) (passages : List Passage) (text : String),
      format policy (compose first passages) device call = text ↔
        ∃ fillings,
          List.Forall₂ (fun passage => Fills policy device call passage.placeholder)
            passages fillings ∧
          text = interleave first passages fillings) ∧
    ∀ text, format policy (escape text) device call = text := by
  refine ⟨fun first passages text => ?_, fun text => ?_⟩
  · simp only [forall₂_placeholders_iff, format_compose_eq]
    constructor
    · rintro rfl
      exact ⟨_, rfl, rfl⟩
    · rintro ⟨_, rfl, rfl⟩
      rfl
  · have alone := format_compose_eq policy device call text []
    simpa [compose, interleave] using alone

/-- A dollar sign in front of a name and one in front of a brace stay what they are. -/
example : format .keep "$$$\x7bn\x7d$$\x7bn\x7d" [("n", .text "$n")] none = "$$n$\x7bn\x7d" := by
  decide

end TypedRecords.Template
