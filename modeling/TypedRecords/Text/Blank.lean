import TypedRecords.Text.Ranges

/-!
White space of every script, and cutting it off the ends of a text.
-/

set_option autoImplicit false

namespace TypedRecords.Text

def blankRanges : List (Nat × Nat) :=
  [(0x9, 0xd), (0x1c, 0x20), (0x85, 0x85), (0xa0, 0xa0), (0x1680, 0x1680), (0x2000, 0x200a),
  (0x2028, 0x2029), (0x202f, 0x202f), (0x205f, 0x205f), (0x3000, 0x3000)]

def isBlank (c : Char) : Bool :=
  inRanges c.toNat blankRanges

/-- White space other than the four control characters that separate information. -/
def isSpacing (c : Char) : Bool :=
  isBlank c && !inRanges c.toNat [(0x1c, 0x1f)]

def stripWhere (cut : Char → Bool) (cs : List Char) : List Char :=
  ((cs.dropWhile cut).reverse.dropWhile cut).reverse

def stripBlank (cs : List Char) : List Char :=
  stripWhere isBlank cs

def strip (s : String) : String :=
  String.ofList (stripBlank s.toList)

end TypedRecords.Text
