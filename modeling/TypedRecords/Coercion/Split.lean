import TypedRecords.Text.Blank

/-!
The pieces of a text between commas; white space behind a comma belongs to no
piece.
-/

set_option autoImplicit false

namespace TypedRecords.Coercion

open TypedRecords.Text (isBlank)

/-- The pieces of the characters that are left.  `current` is the piece at hand, its last character
first; `afterComma` tells that nothing but white space has followed a comma. -/
def piecesFrom (current : List Char) (afterComma : Bool) : List Char → List String
  | [] => [String.ofList current.reverse]
  | c :: rest =>
    if c = ',' then String.ofList current.reverse :: piecesFrom [] true rest
    else if afterComma ∧ isBlank c then piecesFrom [] true rest
    else piecesFrom (c :: current) false rest

def pieces (text : String) : List String :=
  piecesFrom [] false text.toList

end TypedRecords.Coercion
