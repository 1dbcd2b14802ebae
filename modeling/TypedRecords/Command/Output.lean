import TypedRecords.Text.Quoted

/-!
The output of a command.  A text can be written where the encoding of the output has bytes for all
of its code points; an output for errors has a number in the place of one without bytes.  Where
nobody sees the output at a terminal, the sequences that set colours there are left out.  So typer
writes its lines.
-/

set_option autoImplicit false

namespace TypedRecords.Command

structure Output where
  /-- Whether the encoding has bytes for a code point. -/
  encodes : Nat → Bool
  isTerminal : Bool

/-- A file or a pipe in the usual encoding, which has no bytes for surrogates. -/
def Output.utf8 : Output where
  encodes code := !Text.isSurrogate code
  isTerminal := false

def isColourParameter (c : Char) : Bool :=
  c == ';' || c == '?' || c.isDigit

/-- The length of the colour sequence that stands at the front, zero if there is none. -/
def colourLength : List Char → Nat
  | '\x1b' :: '[' :: rest =>
    let parameters := rest.takeWhile isColourParameter
    match rest.drop parameters.length with
    | c :: _ => if c.isAlpha then parameters.length + 3 else 0
    | [] => 0
  | _ => 0

/-- What is left without colour sequences, behind a number of characters that belong to one. -/
def withoutColours : Nat → List Char → List Char
  | _, [] => []
  | skipped + 1, _ :: rest => withoutColours skipped rest
  | 0, c :: rest =>
    match colourLength (c :: rest) with
    | 0 => c :: withoutColours 0 rest
    | skipped + 1 => withoutColours skipped rest

namespace Output

def shown (output : Output) (text : String) : String :=
  if output.isTerminal then text else String.ofList (withoutColours 0 text.toList)

def admits (output : Output) (text : String) : Bool :=
  (Text.points text.toList).all output.encodes

def line? (output : Output) (text : String) : Option String :=
  let line := output.shown text ++ "\n"
  if output.admits line then some line else none

def escaped (output : Output) (text : String) : String :=
  String.join ((Text.points (output.shown text).toList).map fun code =>
    if output.encodes code then String.ofList (Text.spell code) else Text.escapeCode code)

end Output

end TypedRecords.Command
