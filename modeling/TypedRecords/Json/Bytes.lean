import TypedRecords.Json.Reader
import TypedRecords.Text.Utf8

/-!
Reading JSON from bytes.  The encoding is told from a mark of the order of bytes
or else from the zeros among the first bytes.
-/

set_option autoImplicit false

namespace TypedRecords.Json

open TypedRecords.Text (DecodingError)
open TypedRecords.Text.WideUnits (ByteOrder decode16 decode32)

/-- How the bytes of a document spell text.  `skip` bytes of a mark go before the text. -/
inductive Encoding where
  | narrow (skip : Nat)
  | pairs (order : ByteOrder) (skip : Nat)
  | quadruples (order : ByteOrder) (skip : Nat)
  deriving DecidableEq

def markedEncoding? : List UInt8 → Option Encoding
  | 0x00 :: 0x00 :: 0xfe :: 0xff :: _ => some (.quadruples .greatestFirst 4)
  | 0xff :: 0xfe :: 0x00 :: 0x00 :: _ => some (.quadruples .leastFirst 4)
  | 0xfe :: 0xff :: _ => some (.pairs .greatestFirst 2)
  | 0xff :: 0xfe :: _ => some (.pairs .leastFirst 2)
  | 0xef :: 0xbb :: 0xbf :: _ => some (.narrow 3)
  | _ => none

def unmarkedEncoding : List UInt8 → Encoding
  | a :: b :: c :: d :: _ =>
    if a = 0 then
      if b = 0 then .quadruples .greatestFirst 0 else .pairs .greatestFirst 0
    else if b = 0 then
      if c = 0 ∧ d = 0 then .quadruples .leastFirst 0 else .pairs .leastFirst 0
    else .narrow 0
  | [a, b] =>
    if a = 0 then .pairs .greatestFirst 0
    else if b = 0 then .pairs .leastFirst 0
    else .narrow 0
  | _ => .narrow 0

def encodingOf (bytes : List UInt8) : Encoding :=
  (markedEncoding? bytes).getD (unmarkedEncoding bytes)

def Encoding.decode (encoding : Encoding) (bytes : List UInt8) : Except DecodingError String :=
  match encoding with
  | .narrow skip => Text.Utf8.decodeWithSurrogates (bytes.drop skip)
  | .pairs order skip => decode16 order skip (bytes.drop skip)
  | .quadruples order skip => decode32 order skip (bytes.drop skip)

inductive BytesFailure where
  | notText (error : DecodingError)
  | notJson (failure : Failure)
  deriving DecidableEq

def BytesFailure.message : BytesFailure → String
  | .notText error => error.message
  | .notJson failure => failure.message

def readBytes (bytes : List UInt8) : Except BytesFailure Value :=
  match (encodingOf bytes).decode bytes with
  | .error error => .error (.notText error)
  | .ok text => (readUnmarked text).mapError BytesFailure.notJson

end TypedRecords.Json
