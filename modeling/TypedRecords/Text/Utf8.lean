import TypedRecords.Text.Decoding

/-!
Text in UTF-8.  The bytes fall into pieces, each a character or a run of bytes
that begins none; a strict reader stops at the first such run, a lenient one puts
a replacement character in its place.  Surrogates are no characters, but a reader
may let them pass.
-/

set_option autoImplicit false

namespace TypedRecords.Text.Utf8

inductive Piece where
  /-- A code point of so many bytes after the first. -/
  | point (code : Nat) (following : Nat)
  /-- A fault in a run of so many bytes after the first. -/
  | fault (what : DecodingFault) (following : Nat)

def following? (lead : UInt8) : Option Nat :=
  if lead < 0x80 then some 0
  else if lead < 0xc2 then none
  else if lead < 0xe0 then some 1
  else if lead < 0xf0 then some 2
  else if lead < 0xf5 then some 3
  else none

/-- The bytes that may come second.  They rule out longer forms than needed, surrogates and
numbers beyond the last code point. -/
def secondRange (lead : UInt8) : UInt8 × UInt8 :=
  if lead = 0xe0 then (0xa0, 0xbf)
  else if lead = 0xed then (0x80, 0x9f)
  else if lead = 0xf0 then (0x90, 0xbf)
  else if lead = 0xf4 then (0x80, 0x8f)
  else (0x80, 0xbf)

def leadBits (lead : UInt8) (following : Nat) : Nat :=
  match following with
  | 0 => lead.toNat
  | 1 => lead.toNat % 32
  | 2 => lead.toNat % 16
  | _ => lead.toNat % 8

/-- Continues a character of which `read` bytes have followed the first. -/
def continued (allowed : UInt8 × UInt8) (code read : Nat) : Nat → List UInt8 → Piece
  | 0, _ => .point code read
  | _ + 1, [] => .fault .unexpectedEnd read
  | needed + 1, b :: rest =>
    if allowed.1 ≤ b ∧ b ≤ allowed.2 then
      continued (0x80, 0xbf) (64 * code + b.toNat % 64) (read + 1) needed rest
    else .fault .invalidContinuation read

def piece (lead : UInt8) (rest : List UInt8) : Piece :=
  match following? lead with
  | none => .fault .invalidStart 0
  | some following => continued (secondRange lead) (leadBits lead following) 0 following rest

/-- As `piece`, but a surrogate in three bytes counts as a character does. -/
def pieceWithSurrogates (lead : UInt8) (rest : List UInt8) : Piece :=
  match rest with
  | second :: third :: _ =>
    if lead = 0xed ∧ 0xa0 ≤ second ∧ second ≤ 0xbf ∧ 0x80 ≤ third ∧ third ≤ 0xbf then
      .point ((0xd * 64 + second.toNat % 64) * 64 + third.toNat % 64) 2
    else piece lead rest
  | _ => piece lead rest

/-- Reads bytes from a position on, passing over the first `skip`; a fault ends the reading. -/
def decodeFrom (read : UInt8 → List UInt8 → Piece) (position skip : Nat) :
    List UInt8 → Except DecodingError (List Char)
  | [] => .ok []
  | b :: rest =>
    match skip with
    | skip + 1 => decodeFrom read (position + 1) skip rest
    | 0 =>
      match read b rest with
      | .point code following =>
        (decodeFrom read (position + 1) following rest).map fun cs => spell code ++ cs
      | .fault what following =>
        .error { encoding := "utf-8", fault := what, position, length := following + 1, byte := b }

def decode (bytes : List UInt8) : Except DecodingError String :=
  (decodeFrom piece 0 0 bytes).map String.ofList

def decodeWithSurrogates (bytes : List UInt8) : Except DecodingError String :=
  (decodeFrom pieceWithSurrogates 0 0 bytes).map String.ofList

/-- The code points of bytes, passing over the first `skip`, with a replacement for each run that is
not text. -/
def decodeReplacing (skip : Nat) : List UInt8 → List Nat
  | [] => []
  | b :: rest =>
    match skip with
    | skip + 1 => decodeReplacing skip rest
    | 0 =>
      match piece b rest with
      | .point code following => code :: decodeReplacing following rest
      | .fault _ following => replacementChar.toNat :: decodeReplacing following rest

end TypedRecords.Text.Utf8
