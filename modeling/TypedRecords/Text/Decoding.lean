import TypedRecords.Text.Quoted

/-!
Bytes that are not text, and how that is reported: the name of the encoding, the
bytes at fault, and what is wrong with them.
-/

set_option autoImplicit false

namespace TypedRecords.Text

inductive DecodingFault where
  | invalidStart
  | invalidContinuation
  | unexpectedEnd
  | truncated
  | notACharacter
  deriving DecidableEq

def DecodingFault.reason : DecodingFault → String
  | .invalidStart => "invalid start byte"
  | .invalidContinuation => "invalid continuation byte"
  | .unexpectedEnd => "unexpected end of data"
  | .truncated => "truncated data"
  | .notACharacter => "code point not in range(0x110000)"

structure DecodingError where
  encoding : String
  fault : DecodingFault
  position : Nat
  length : Nat
  byte : UInt8
  deriving DecidableEq

def DecodingError.message (e : DecodingError) : String :=
  quoted e.encoding ++ " codec can't decode " ++
    (if e.length = 1 then
      "byte 0x" ++ hexText 2 e.byte.toNat ++ " in position " ++ Nat.repr e.position
    else
      "bytes in position " ++ Nat.repr e.position ++ "-" ++
        Nat.repr (e.position + e.length - 1)) ++
    ": " ++ e.fault.reason

end TypedRecords.Text
