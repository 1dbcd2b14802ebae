import TypedRecords.Json.Reader
import TypedRecords.Text.Digit
import TypedRecords.Text.Split

/-!
Internet addresses in their written form, of four bytes and of eight groups of
sixteen bits, and which of them are reachable from everywhere.
-/

set_option autoImplicit false

namespace TypedRecords.Url

open TypedRecords.Json (hexDigit?)
open TypedRecords.Text (isPlainDigit pieces positional)

inductive Address where
  | short (number : Nat)
  | long (number : Nat)
  deriving DecidableEq

def byte? (cs : List Char) : Option Nat :=
  if cs.isEmpty ∨ !cs.all isPlainDigit ∨ 3 < cs.length then none
  else if cs.head? = some '0' ∧ cs ≠ ['0'] then none
  else
    let n := Json.naturalOf cs
    if n < 256 then some n else none

def short? (cs : List Char) : Option Nat :=
  let parts := pieces '.' cs
  if parts.length = 4 then (parts.mapM byte?).map (positional 256) else none

def group? (cs : List Char) : Option Nat :=
  if cs.isEmpty ∨ 4 < cs.length then none else (cs.mapM hexDigit?).map (positional 16)

/-- The parts of a long address between its colons, with a part at the end that is written as a
short address as its two groups. -/
def longParts? (cs : List Char) : Option (List (List Char)) :=
  let parts := pieces ':' cs
  if parts.length < 3 then none
  else
    match parts.getLast? with
    | none => none
    | some last =>
      if last.contains '.' then
        (short? last).map fun n =>
          parts.dropLast ++ [Nat.toDigits 16 (n / 65536), Nat.toDigits 16 (n % 65536)]
      else some parts

def groups? (parts : List (List Char)) : Option (List Nat) :=
  parts.mapM group?

/-- Leaves out the empty part that a gap at the beginning has before it, which must be the only
one. -/
def beforeGap? (parts : List (List Char)) : Option (List (List Char)) :=
  match parts with
  | [[]] => some []
  | [] :: _ => none
  | parts => some parts

/-- The groups of a long address.  A gap stands for as many zeros as are missing, at least one. -/
def longGroups? (parts : List (List Char)) : Option (List Nat) :=
  let inner := (parts.drop 1).dropLast
  match inner.findIdx? List.isEmpty with
  | none => if parts.length = 8 then groups? parts else none
  | some position =>
    if 1 < inner.countP List.isEmpty ∨ 9 < parts.length then none
    else do
      let high ← (beforeGap? (parts.take (position + 1))).bind groups?
      let low ← (beforeGap? (parts.drop (position + 2)).reverse).bind fun low => groups? low.reverse
      if 8 ≤ high.length + low.length then none
      else return high ++ List.replicate (8 - high.length - low.length) 0 ++ low

/-- Whether what follows the sign of a zone names one; without the sign there is no zone. -/
def hasValidZone (cs : List Char) : Bool :=
  !cs.contains '%' || (!(Text.behind '%' cs).isEmpty && !(Text.behind '%' cs).contains '%')

def long? (cs : List Char) : Option Nat :=
  if !hasValidZone cs ∨ cs.contains '/' then none
  else ((longParts? (Text.before '%' cs)).bind longGroups?).map (positional 65536)

def Address.ofChars? (cs : List Char) : Option Address :=
  match short? cs with
  | some n => some (.short n)
  | none => (long? cs).map Address.long

/-- A block of addresses: those that begin with the same bits as a number. -/
structure Block where
  number : Nat
  bits : Nat

def Block.holds (width : Nat) (block : Block) (n : Nat) : Bool :=
  n / Nat.pow 2 (width - block.bits) == block.number / Nat.pow 2 (width - block.bits)

def shortBlock (a b c d bits : Nat) : Block :=
  ⟨positional 256 [a, b, c, d], bits⟩

def longBlock (groups : List Nat) (bits : Nat) : Block :=
  ⟨positional 65536 (groups ++ List.replicate (8 - groups.length) 0), bits⟩

def localShort : List Block :=
  [shortBlock 0 0 0 0 8, shortBlock 10 0 0 0 8, shortBlock 127 0 0 0 8,
   shortBlock 169 254 0 0 16, shortBlock 172 16 0 0 12, shortBlock 192 0 0 0 24,
   shortBlock 192 0 2 0 24, shortBlock 192 168 0 0 16, shortBlock 198 18 0 0 15,
   shortBlock 198 51 100 0 24, shortBlock 203 0 113 0 24, shortBlock 240 0 0 0 4]

/-- The short addresses that are for everywhere although they lie among the others. -/
def globalShort : List Block :=
  [shortBlock 192 0 0 9 32, shortBlock 192 0 0 10 32]

def sharedShort : Block := shortBlock 100 64 0 0 10

def localLong : List Block :=
  [longBlock [0, 0, 0, 0, 0, 0, 0, 1] 128, longBlock [] 128, longBlock [0, 0, 0, 0, 0, 0xffff] 96,
   longBlock [0x64, 0xff9b, 1] 48, longBlock [0x100] 64, longBlock [0x2001] 23,
   longBlock [0x2001, 0xdb8] 32, longBlock [0x2002] 16, longBlock [0xfc00] 7,
   longBlock [0xfe80] 10]

/-- The long addresses that are for everywhere although they lie among the others. -/
def globalLong : List Block :=
  [longBlock [0x2001, 1, 0, 0, 0, 0, 0, 1] 128, longBlock [0x2001, 1, 0, 0, 0, 0, 0, 2] 128,
   longBlock [0x2001, 3] 32, longBlock [0x2001, 4, 0x112] 48, longBlock [0x2001, 0x20] 28,
   longBlock [0x2001, 0x30] 28]

/-- Whether a number of some width lies in one of some blocks and in none of some others. -/
def isWithin (width : Nat) (blocks exceptions : List Block) (n : Nat) : Bool :=
  blocks.any (fun block => block.holds width n) &&
    !exceptions.any (fun block => block.holds width n)

def isLocalShort (n : Nat) : Bool :=
  isWithin 32 localShort globalShort n

/-- Whether an address is reachable from everywhere.  A long address that stands for a short one is
judged by it. -/
def Address.isGlobal : Address → Bool
  | .short n => !sharedShort.holds 32 n && !isLocalShort n
  | .long n =>
    if n / Nat.pow 2 32 = 0xffff then !isLocalShort (n % Nat.pow 2 32)
    else !isWithin 128 localLong globalLong n

end TypedRecords.Url
