/-!
Cutting characters at a mark.
-/

set_option autoImplicit false

namespace TypedRecords.Text

/-- The pieces between the occurrences of a mark; there is one more than the mark occurs. -/
def splitAtMark (mark : Char) (current : List Char) : List Char → List (List Char)
  | [] => [current.reverse]
  | c :: rest =>
    if c = mark then current.reverse :: splitAtMark mark [] rest
    else splitAtMark mark (c :: current) rest

def pieces (mark : Char) (cs : List Char) : List (List Char) :=
  splitAtMark mark [] cs

def before (mark : Char) (cs : List Char) : List Char :=
  cs.takeWhile fun c => c ≠ mark

def behind (mark : Char) (cs : List Char) : List Char :=
  (cs.dropWhile fun c => c ≠ mark).drop 1

def behindLast (mark : Char) (cs : List Char) : List Char :=
  (before mark cs.reverse).reverse

end TypedRecords.Text
