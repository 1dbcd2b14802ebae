import Mathlib.Logic.ExistsUnique
import TypedRecords.Proofs.Coercion.Basic
import TypedRecords.Proofs.Text.Runs
import TypedRecords.Proofs.Traversal

/-!
Texts where an array is asked for.  A text is divided at its commas, and the white space behind a
comma belongs to no piece; there is one way to do this, and the text is coerced as the list of its
pieces.
-/

set_option autoImplicit false

namespace TypedRecords.Coercion

open TypedRecords.Text (isBlank Leaves leaves_nil leaves_cons leaves_dropWhile
  takeWhile_append_of_leaves dropWhile_append_of_leaves)
open TypedRecords.Traversal

variable {clock : Calendar.Clock}

/-- A piece with the white space between a comma and the piece.  The piece has no comma in it and
does not begin with white space. -/
@[ext]
structure FurtherPiece where
  space : List Char
  piece : List Char
  blank : ∀ c ∈ space, isBlank c = true
  whole : ',' ∉ piece
  leaves : Leaves isBlank piece

/-- A first piece, which has no comma in it, and the pieces behind the commas. -/
@[ext]
structure Division where
  first : List Char
  further : List FurtherPiece
  whole : ',' ∉ first

/-- The characters of pieces behind the first one, each with its comma and white space. -/
def joined (further : List FurtherPiece) : List Char :=
  further.flatMap fun next => ',' :: (next.space ++ next.piece)

namespace Division

def text (division : Division) : String :=
  String.ofList (division.first ++ joined division.further)

def pieces (division : Division) : List String :=
  String.ofList division.first :: division.further.map fun next => String.ofList next.piece

end Division

section Joined

private theorem isBlank_comma : isBlank ',' = false := by
  decide

@[simp] private theorem joined_cons (next : FurtherPiece) (further : List FurtherPiece) :
    joined (next :: further) = ',' :: (next.space ++ (next.piece ++ joined further)) := by
  simp [joined]

private theorem leaves_joined {within : Char → Bool} (outside : within ',' = false)
    (further : List FurtherPiece) : Leaves within (joined further) := by
  cases further with
  | nil => exact leaves_nil within
  | cons next further =>
    rw [joined_cons]
    exact leaves_cons outside _

private theorem leaves_piece (next : FurtherPiece) (further : List FurtherPiece) :
    Leaves isBlank (next.piece ++ joined further) := by
  cases same : next.piece with
  | nil => exact leaves_joined isBlank_comma further
  | cons c rest => exact leaves_cons (next.leaves c rest same) _

private theorem append_joined_inj {piece other : List Char} {further others : List FurtherPiece}
    (whole : ',' ∉ piece) (whole' : ',' ∉ other)
    (same : piece ++ joined further = other ++ joined others) :
    piece = other ∧ joined further = joined others := by
  have plain {cs : List Char} (free : ',' ∉ cs) : ∀ c ∈ cs, (c != ',') = true := by
    intro c member
    have differs : c ≠ ',' := ne_of_mem_of_not_mem member free
    simpa using differs
  have ends (rest : List FurtherPiece) : Leaves (fun c => c != ',') (joined rest) :=
    leaves_joined rfl rest
  constructor
  · rw [← takeWhile_append_of_leaves (plain whole) (ends further), same,
      takeWhile_append_of_leaves (plain whole') (ends others)]
  · rw [← dropWhile_append_of_leaves (plain whole) (ends further), same,
      dropWhile_append_of_leaves (plain whole') (ends others)]

private theorem joined_injective {further others : List FurtherPiece}
    (same : joined further = joined others) : further = others := by
  induction further generalizing others with
  | nil =>
    cases others with
    | nil => rfl
    | cons other others =>
      rw [joined_cons] at same
      cases same
  | cons next further ih =>
    cases others with
    | nil =>
      rw [joined_cons] at same
      cases same
    | cons other others =>
      rw [joined_cons, joined_cons] at same
      have behind := (List.cons.inj same).2
      -- The white space is all that there is behind the comma, since no piece begins with any.
      have space : next.space = other.space := by
        rw [← takeWhile_append_of_leaves next.blank (leaves_piece next further), behind,
          takeWhile_append_of_leaves other.blank (leaves_piece other others)]
      rw [space] at behind
      have rest := List.append_cancel_left behind
      obtain ⟨piece, tails⟩ := append_joined_inj next.whole other.whole rest
      rw [FurtherPiece.ext space piece, ih tails]

end Joined

section Unique

private theorem Division.text_injective {division other : Division}
    (same : division.text = other.text) :
    division = other := by
  have chars := String.ofList_inj.mp same
  obtain ⟨first, further⟩ := append_joined_inj division.whole other.whole chars
  exact Division.ext first (joined_injective further)

/-- A comma in front of a text ends an empty piece, and the white space behind it leaves the first
piece of the text; any other character becomes a part of that piece. -/
theorem exists_division (cs : List Char) :
    ∃ division : Division, division.first ++ joined division.further = cs := by
  induction cs with
  | nil => exact ⟨⟨[], [], List.not_mem_nil⟩, rfl⟩
  | cons c cs ih =>
    obtain ⟨⟨first, further, whole⟩, rfl⟩ := ih
    by_cases comma : c = ','
    · have blank : ∀ c ∈ first.takeWhile isBlank, isBlank c = true :=
        List.all_eq_true.mp List.all_takeWhile
      have kept : ',' ∉ first.dropWhile isBlank := fun member =>
        whole ((List.dropWhile_sublist isBlank).subset member)
      refine ⟨⟨[], ⟨first.takeWhile isBlank, first.dropWhile isBlank, blank, kept,
        leaves_dropWhile isBlank first⟩ :: further, List.not_mem_nil⟩, ?_⟩
      rw [joined_cons, comma, ← List.append_assoc, List.takeWhile_append_dropWhile]
      rfl
    · have free : ',' ∉ c :: first := by
        intro member
        rcases List.mem_cons.mp member with same | later
        · exact comma same.symm
        · exact whole later
      exact ⟨⟨c :: first, further, free⟩, rfl⟩

theorem existsUnique_division (s : String) : ∃! division : Division, division.text = s := by
  obtain ⟨division, chars⟩ := exists_division s.toList
  have divides : division.text = s := by
    rw [Division.text, chars, String.ofList_toList]
  exact ⟨division, divides, fun other same => Division.text_injective (same.trans divides.symm)⟩

end Unique

section Scan

private theorem piecesFrom_append {piece : List Char} (whole : ',' ∉ piece)
    (current rest : List Char) :
    piecesFrom current false (piece ++ rest) =
      piecesFrom (piece.reverse ++ current) false rest := by
  induction piece generalizing current with
  | nil => rfl
  | cons c piece ih =>
    obtain ⟨differs, free⟩ := not_or.mp (List.mem_cons.not.mp whole)
    have plain : c ≠ ',' := Ne.symm differs
    simp [piecesFrom, plain, ih free]

private theorem piecesFrom_space {space : List Char} (blank : ∀ c ∈ space, isBlank c = true)
    (rest : List Char) : piecesFrom [] true (space ++ rest) = piecesFrom [] true rest := by
  induction space with
  | nil => rfl
  | cons c space ih =>
    obtain ⟨head, tail⟩ := List.forall_mem_cons.mp blank
    have plain : c ≠ ',' := by
      intro comma
      rw [comma, isBlank_comma] at head
      cases head
    simp [piecesFrom, plain, head, ih tail]

private theorem piecesFrom_of_leaves {cs : List Char} (leaves : Leaves isBlank cs) :
    piecesFrom [] true cs = piecesFrom [] false cs := by
  cases cs with
  | nil => rfl
  | cons c rest => simp [piecesFrom, leaves c rest rfl]

private theorem piecesFrom_joined {first : List Char} (whole : ',' ∉ first)
    (further : List FurtherPiece) :
    piecesFrom [] false (first ++ joined further) =
      String.ofList first :: further.map fun next => String.ofList next.piece := by
  induction further generalizing first with
  | nil =>
    rw [piecesFrom_append whole]
    simp [joined, piecesFrom]
  | cons next further ih =>
    have behind : piecesFrom [] true (next.space ++ (next.piece ++ joined further)) =
        piecesFrom [] false (next.piece ++ joined further) := by
      rw [piecesFrom_space next.blank, piecesFrom_of_leaves (leaves_piece next further)]
    rw [joined_cons, piecesFrom_append whole, piecesFrom, if_pos rfl, behind, ih next.whole]
    simp

theorem pieces_text (division : Division) :
    Coercion.pieces division.text = division.pieces := by
  rw [Coercion.pieces, Division.text, String.toList_ofList]
  exact piecesFrom_joined division.whole division.further

private theorem length_pieces (division : Division) :
    division.pieces.length = division.text.toList.count ',' + 1 := by
  have commas : (joined division.further).count ',' = division.further.length := by
    induction division.further with
    | nil => rfl
    | cons next further ih =>
      have free : next.space.count ',' = 0 := by
        refine List.count_eq_zero.mpr fun member => ?_
        have blank := next.blank _ member
        rw [isBlank_comma] at blank
        cases blank
      simp [free, List.count_eq_zero.mpr next.whole, ih]
  simp [Division.pieces, Division.text, commas, List.count_eq_zero.mpr division.whole]

end Scan

section Coerce

variable (settings : Settings) (labels : TypeLabels) (element : SemanticType)

private theorem coerce_list (items : List Value) :
    coerce clock settings (.array element labels) (.list items) =
      (items.mapM (coerce clock settings element)).map Value.list := by
  rw [coerce_array settings labels Value.noConfusion]
  rfl

theorem coerce_text (division : Division) :
    coerce clock settings (.array element labels) (.text division.text) =
      (division.pieces.mapM fun piece =>
        coerce clock settings element (.text piece)).map Value.list := by
  have items : itemsOf? (.text division.text) = some (division.pieces.map Value.text) := by
    rw [itemsOf?, pieces_text]
  rw [coerce_array settings labels Value.noConfusion, items]
  dsimp only
  rw [List.mapM_map]
  rfl

private theorem coerce_text_eq_list (division : Division) :
    coerce clock settings (.array element labels) (.text division.text) =
      coerce clock settings (.array element labels) (.list (division.pieces.map Value.text)) := by
  rw [coerce_text, coerce_list, List.mapM_map]
  rfl

private theorem coerce_text_ok {division : Division} {result : Value}
    (made : coerce clock settings (.array element labels) (.text division.text) = .ok result) :
    ∃ entries, result = .list entries ∧
      entries.length = division.text.toList.count ',' + 1 := by
  rw [coerce_text, map_ok_iff] at made
  obtain ⟨entries, traversed, rfl⟩ := made
  have length := (mapM_ok_iff.mp traversed).length_eq
  exact ⟨entries, rfl, length.symm.trans (length_pieces division)⟩

end Coerce

/-- Every text has one division.  To an array it is coerced as the list of its pieces, whether they
were found in it or put together to it; and where there is a result, it has one entry more than the
text has commas. -/
theorem coerce_divided :
    (∀ s : String, ∃! division : Division, division.text = s) ∧
      ∀ (division : Division) settings element labels,
        coerce clock settings (.array element labels) (.text division.text) =
            coerce clock settings (.array element labels) (.list (division.pieces.map Value.text)) ∧
          ∀ result, coerce clock settings (.array element labels) (.text division.text) =
            .ok result →
            ∃ entries, result = .list entries ∧
              entries.length = division.text.toList.count ',' + 1 := by
  refine ⟨existsUnique_division, fun division settings element labels => ?_⟩
  exact ⟨coerce_text_eq_list settings labels element division,
    fun result => coerce_text_ok settings labels element⟩

/-- White space in front, between two commas, of another script, and at an end. -/
theorem coerce_divided_spaces :
    let division : Division :=
      ⟨[' ', '1'],
        [⟨[' '], [], List.all_eq_true.mp rfl, by decide, leaves_nil _⟩,
          ⟨['\u2003', '\n'], ['2', ' '], List.all_eq_true.mp rfl, by decide,
            leaves_cons (by decide) _⟩,
          ⟨[' '], [], List.all_eq_true.mp rfl, by decide, leaves_nil _⟩],
        by decide⟩
    let made : Value := .list [.text " 1", .text "", .text "2 ", .text ""]
    division.text = " 1, ,\u2003\n2 , " ∧
      coerce .epoch Settings.default (.arrayOf (.plain .string)) (.text division.text) = .ok made ∧
      coerce .epoch Settings.default (.arrayOf (.plain .string))
        (.list (division.pieces.map Value.text)) = .ok made ∧
      ∃ entries, made = .list entries ∧ entries.length = division.text.toList.count ',' + 1 := by
  intro division made
  have found : coerce .epoch Settings.default (.arrayOf (.plain .string)) (.text division.text) =
      .ok made := by
    rw [SemanticType.arrayOf, coerce_text]
    rfl
  obtain ⟨same, counted⟩ := coerce_divided.2 division Settings.default (.plain .string) .none
  exact ⟨rfl, found, same.symm.trans found, counted made found⟩

end TypedRecords.Coercion
