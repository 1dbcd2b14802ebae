import TypedRecords.Numeric.Rounding

/-!
The limit on converting between integers and decimal text: longer numerals are
refused, whichever way they go.
-/

set_option autoImplicit false

namespace TypedRecords.Numeric

def digitLimit : Nat := 4300

def digitLimitAdvice : String := "use sys.set_int_max_str_digits() to increase the limit"

def longNumeralMessage (digits : Nat) : String :=
  "Exceeds the limit (" ++ Nat.repr digitLimit ++
    " digits) for integer string conversion: value has " ++ Nat.repr digits ++ " digits; " ++
    digitLimitAdvice

def longIntegerMessage : String :=
  "Exceeds the limit (" ++ Nat.repr digitLimit ++ " digits) for integer string conversion; " ++
    digitLimitAdvice

def isTooLong (n : Int) : Bool :=
  Nat.pow 10 digitLimit ≤ n.natAbs

end TypedRecords.Numeric
