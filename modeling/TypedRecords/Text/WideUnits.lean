import TypedRecords.Text.Decoding
import TypedRecords.Text.Digit

/-!
Text in units of two or four bytes, in either order of bytes.  A high and a low
surrogate next to each other make one character; one that stands alone stays what
it is.
-/

set_option autoImplicit false

namespace TypedRecords.Text.WideUnits

inductive ByteOrder where
  | leastFirst
  | greatestFirst
  deriving DecidableEq

/-- The ending of an encoding's name that tells the order of its bytes. -/
def ByteOrder.label : ByteOrder → String
  | .leastFirst => "-le"
  | .greatestFirst => "-be"

def ByteOrder.number (order : ByteOrder) (bytes : List UInt8) : Nat :=
  let ordered := match order with
    | .leastFirst => bytes.reverse
    | .greatestFirst => bytes
  positional 256 (ordered.map UInt8.toNat)

def pairs (order : ByteOrder) (position : Nat) : List UInt8 → Except DecodingError (List Nat)
  | [] => .ok []
  | [a] =>
    .error { encoding := "utf-16" ++ order.label, fault := .truncated, position, length := 1,
             byte := a }
  | a :: b :: rest =>
    (pairs order (position + 2) rest).map fun units => order.number [a, b] :: units

def isHighSurrogate (unit : Nat) : Bool := 0xd800 ≤ unit && unit < 0xdc00

def isLowSurrogate (unit : Nat) : Bool := 0xdc00 ≤ unit && unit < 0xe000

def joinSurrogates (high low : Nat) : Nat :=
  0x10000 + (high - 0xd800) * 0x400 + (low - 0xdc00)

/-- The code points of units of two bytes; `high` is a first half that waits for its second. -/
def joined (high : Option Nat) : List Nat → List Nat
  | [] => high.toList
  | unit :: rest =>
    match high with
    | some first =>
      if isLowSurrogate unit then joinSurrogates first unit :: joined none rest
      else if isHighSurrogate unit then first :: joined (some unit) rest
      else first :: unit :: joined none rest
    | none =>
      if isHighSurrogate unit then joined (some unit) rest
      else unit :: joined none rest

def decode16 (order : ByteOrder) (position : Nat) (bytes : List UInt8) :
    Except DecodingError String :=
  (pairs order position bytes).map fun units => String.ofList ((joined none units).flatMap spell)

def quadruples (order : ByteOrder) (position : Nat) : List UInt8 → Except DecodingError (List Nat)
  | [] => .ok []
  | a :: b :: c :: d :: rest =>
    let code := order.number [a, b, c, d]
    if code < 0x110000 then
      (quadruples order (position + 4) rest).map fun codes => code :: codes
    else
      .error { encoding := "utf-32" ++ order.label, fault := .notACharacter, position,
               length := 4, byte := a }
  | a :: rest =>
    .error { encoding := "utf-32" ++ order.label, fault := .truncated, position,
             length := rest.length + 1, byte := a }

def decode32 (order : ByteOrder) (position : Nat) (bytes : List UInt8) :
    Except DecodingError String :=
  (quadruples order position bytes).map fun codes => String.ofList (codes.flatMap spell)

end TypedRecords.Text.WideUnits
