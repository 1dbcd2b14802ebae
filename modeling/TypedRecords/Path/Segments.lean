/-!
Paths as text.  Segments are separated by dots; a backslash makes the next
character literal, and one at the very end says nothing.  Every text is a path,
and a path has at least one segment.
-/

set_option autoImplicit false

namespace TypedRecords.Path

/-- The segments of the characters that are left.  `current` holds the characters of the segment
at hand, the last one first; `literal` tells that a backslash went before. -/
def segmentsFrom (current : List Char) (literal : Bool) : List Char → List String
  | [] => [String.ofList current.reverse]
  | c :: rest =>
    if literal then segmentsFrom (c :: current) false rest
    else if c = '\\' then segmentsFrom current true rest
    else if c = '.' then String.ofList current.reverse :: segmentsFrom [] false rest
    else segmentsFrom (c :: current) false rest

def segments (path : String) : List String :=
  segmentsFrom [] false path.toList

def escapeChar (c : Char) : List Char :=
  if c = '.' ∨ c = '\\' then ['\\', c] else [c]

def escape (segment : String) : String :=
  String.ofList (segment.toList.flatMap escapeChar)

def render (parts : List String) : String :=
  ".".intercalate (parts.map escape)

end TypedRecords.Path
