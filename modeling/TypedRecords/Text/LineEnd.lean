/-!
Line ends: a carriage return, alone or before a line feed, reads as a line feed.
-/

set_option autoImplicit false

namespace TypedRecords.Text

/-- The characters with every line end as a line feed; `afterReturn` tells that a carriage return
went before, with which a line feed makes one line end. -/
def unifyLines (afterReturn : Bool) : List Char → List Char
  | [] => []
  | c :: rest =>
    if c = '\r' then '\n' :: unifyLines true rest
    else if c = '\n' ∧ afterReturn then unifyLines false rest
    else c :: unifyLines false rest

def withLineFeeds (s : String) : String :=
  String.ofList (unifyLines false s.toList)

end TypedRecords.Text
