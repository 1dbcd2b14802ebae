import TypedRecords.Proofs.Extraction.Direct
import TypedRecords.Proofs.Path.Composition
import TypedRecords.Proofs.Path.Totality

/-!
Arguments behind an envelope.  What an argument reads in an element of a response is what the path
of the elements and the path of the argument, joined by a dot, read in the whole response; in a list
of elements the position of the element stands between the two.
-/

set_option autoImplicit false

namespace TypedRecords.Extraction

open TypedRecords.Numeric (digitLimit)
open TypedRecords.Path (backslashesAtEnd follow lookup segments)

private theorem lookup_repr {items : List Value} {index : Nat} {element : Value}
    (found : items[index]? = some element) (short : (Nat.repr index).length ≤ digitLimit) :
    lookup (.list items) (Nat.repr index) = .ok element := by
  have numeral := Path.isNumeral_repr index
  have stepped : Path.step (.list items) (Nat.repr index) = .ok element :=
    Path.step_item numeral short found
  rw [lookup, Path.segments_of_isDigit numeral.digits, Path.follow_cons [] stepped]
  rfl

private theorem backslashesAtEnd_repr (index : Nat) : backslashesAtEnd (Nat.repr index) = 0 := by
  rw [backslashesAtEnd, List.length_eq_zero_iff, List.rtakeWhile_eq_nil_iff]
  intro nonempty backslash
  have digit := (Path.isNumeral_repr index).digits _ (List.getLast_mem nonempty)
  have same : (Nat.repr index).toList.getLast nonempty = '\\' := by simpa using backslash
  rw [same] at digit
  cases digit

section Reading

variable {cache store : Path.Cache} {raw : Value} {signature : Signature} {arg : Argument}
  {envelope path : String}

private theorem body_of_usable (faithful : cache.Faithful)
    (outer : usable signature.sourcePath = some envelope) :
    (body cache raw signature).1 = lookup raw envelope := by
  have same := (body_agrees faithful raw signature).same
  simpa [directBody, outer] using same

private theorem rawValue_of_usable (faithful : store.Faithful)
    (inner : usable arg.sourcePath = some path)
    (element : Value) : (rawValue store element arg).1 = lookup element path := by
  have same := (rawValue_agrees faithful element arg).same
  simpa [place, inner, lookup] using same

private theorem lookup_item_of_list (settled : ¬ Odd (backslashesAtEnd envelope))
    {items : List Value}
    {index : Nat} {element : Value} (elements : lookup raw envelope = .ok (.list items))
    (found : items[index]? = some element) (short : (Nat.repr index).length ≤ digitLimit) :
    lookup raw (envelope ++ "." ++ Nat.repr index ++ "." ++ path) = lookup element path := by
  have even : ¬ Odd (backslashesAtEnd (Nat.repr index)) := by
    rw [backslashesAtEnd_repr]
    decide
  have grouped : envelope ++ "." ++ Nat.repr index ++ "." ++ path =
      envelope ++ "." ++ (Nat.repr index ++ "." ++ path) := by
    simp only [String.append_assoc]
  calc lookup raw (envelope ++ "." ++ Nat.repr index ++ "." ++ path)
    _ = (lookup raw envelope).bind fun part => lookup part (Nat.repr index ++ "." ++ path) := by
      rw [grouped, Path.lookup_append_dot settled]
    _ = lookup (.list items) (Nat.repr index ++ "." ++ path) := by
      rw [elements]
      rfl
    _ = (lookup (.list items) (Nat.repr index)).bind fun part => lookup part path := by
      rw [Path.lookup_append_dot even]
    _ = lookup element path := by
      rw [lookup_repr found short]
      rfl

end Reading

/-- Segments compose, whatever comes of following them; so do paths with a dot between them, if the
first one has no backslash at its end that takes the dot literally; and so, through any stores of
paths, do the path of an envelope and that of an argument. -/
theorem paths_compose :
    (∀ value first second, follow value (first ++ second) =
      (follow value first).bind fun part => follow part second) ∧
    (∀ path rest, segments (path ++ "." ++ rest) = segments path ++ segments rest ↔
      ¬ Odd (backslashesAtEnd path)) ∧
    (∀ value path rest, ¬ Odd (backslashesAtEnd path) → lookup value (path ++ "." ++ rest) =
      (lookup value path).bind fun part => lookup part rest) ∧
    ∀ (cache store : Path.Cache) raw signature arg envelope path,
      cache.Faithful → store.Faithful → usable signature.sourcePath = some envelope →
      usable arg.sourcePath = some path → ¬ Odd (backslashesAtEnd envelope) →
      ((body cache raw signature).1.bind fun element => (rawValue store element arg).1) =
          lookup raw (envelope ++ "." ++ path) ∧
        ∀ items, (body cache raw signature).1 = .ok (.list items) →
          ∀ (index : Nat) element, items[index]? = some element →
            (Nat.repr index).length ≤ digitLimit →
            (rawValue store element arg).1 =
              lookup raw (envelope ++ "." ++ Nat.repr index ++ "." ++ path) := by
  refine ⟨Path.follow_append, fun path rest => Path.segments_append_dot_iff,
    fun value path rest settled => Path.lookup_append_dot settled value rest, ?_⟩
  intro cache store raw signature arg envelope path filled kept outer inner settled
  have unwrapped : (body cache raw signature).1 = lookup raw envelope :=
    body_of_usable filled outer
  have read : ∀ element, (rawValue store element arg).1 = lookup element path :=
    rawValue_of_usable kept inner
  constructor
  · rw [unwrapped, Path.lookup_append_dot settled]
    simp only [read]
  · intro items elements index element found short
    rw [unwrapped] at elements
    rw [read, lookup_item_of_list settled elements found short]

/-- Behind a key that ends in a backslash, which is written as two. -/
theorem paths_compose_backslashes :
    let raw : Value := .object [("a\\", .list [.null, .object [("b", .text "x")]])]
    let signature : Signature := ⟨"find", [], some "a\\\\", none⟩
    let arg : Argument := ⟨"b", .output, .plain .string, some "b"⟩
    let store := Path.Cache.empty 1
    store.Faithful ∧ usable signature.sourcePath = some "a\\\\" ∧
      usable arg.sourcePath = some "b" ∧ ¬ Odd (backslashesAtEnd "a\\\\") ∧
      lookup raw "a\\\\.1" = (lookup raw "a\\\\").bind (fun part => lookup part "1") ∧
      (rawValue store (.object [("b", .text "x")]) arg).1 = lookup raw "a\\\\.1.b" := by
  intro raw signature arg store
  have faithful : store.Faithful := Path.Cache.faithful_empty 1
  have settled : ¬ Odd (backslashesAtEnd "a\\\\") := by decide
  obtain ⟨-, -, looked, read⟩ := paths_compose
  have passed := (read store store raw signature arg _ _ faithful faithful rfl rfl settled).2
  exact ⟨faithful, rfl, rfl, settled, looked raw _ "1" settled,
    passed _ rfl 1 _ rfl (by decide)⟩

end TypedRecords.Extraction
