/-!
Code points and their spelling.  Texts are sequences of code points, of which the surrogates are no
characters.  One that stands alone, as an escape in JSON or a byte of an argument that is no text
may leave it, is spelt by a character at the end of the last plane, and the characters that stand
there are spelt behind a mark.  All texts are spelt in this way; for most of them that changes
nothing.
-/

set_option autoImplicit false

namespace TypedRecords.Text

def isSurrogate (code : Nat) : Bool :=
  0xd800 ≤ code && code < 0xe000

/-- The code point of the mark, behind which stand the characters for surrogates. -/
def markCode : Nat := 0x10f7ff

def standInDistance : Nat := 0x102000

def spell (code : Nat) : List Char :=
  if isSurrogate code then [Char.ofNat (code + standInDistance)]
  else if markCode ≤ code then [Char.ofNat markCode, Char.ofNat code]
  else [Char.ofNat code]

/-- A code point spelt behind characters of which the last one comes first. -/
def spellBack (code : Nat) (done : List Char) : List Char :=
  (spell code).reverse ++ done

def pointOf (c : Char) : Nat :=
  if markCode < c.toNat then c.toNat - standInDistance else c.toNat

def points : List Char → List Nat
  | [] => []
  | [c] => [pointOf c]
  | c :: d :: rest =>
    if c.toNat = markCode then d.toNat :: points rest else pointOf c :: points (d :: rest)

def width (cs : List Char) : Nat :=
  (points cs).length

def firstSpelling? : List Char → Option (List Char)
  | [] => none
  | [c] => some [c]
  | c :: d :: _ => some (if c.toNat = markCode then [c, d] else [c])

def spelled (text : String) : String :=
  String.ofList (text.toList.flatMap fun c => spell c.toNat)

def replacementChar : Char := Char.ofNat 0xfffd

/-- The text of which the spelling is given, where surrogates are replaced. -/
def unspelled (text : String) : String :=
  String.ofList ((points text.toList).map fun code =>
    if isSurrogate code then replacementChar else Char.ofNat code)

end TypedRecords.Text
