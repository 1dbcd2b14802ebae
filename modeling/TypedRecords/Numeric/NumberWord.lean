/-!
The words that are written for infinity and for what is no number, in any case of
their letters.
-/

set_option autoImplicit false

namespace TypedRecords.Numeric

inductive NumberWord where
  | infinity
  | notNumber
  deriving DecidableEq

namespace NumberWord

def smallLetter (c : Char) : Char :=
  if 'A' ≤ c ∧ c ≤ 'Z' then Char.ofNat (c.toNat + 32) else c

def ofChars? (cs : List Char) : Option NumberWord :=
  let word := String.ofList (cs.map smallLetter)
  if word = "inf" ∨ word = "infinity" then some .infinity
  else if word = "nan" then some .notNumber
  else none

end NumberWord

end TypedRecords.Numeric
