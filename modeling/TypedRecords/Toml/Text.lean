import TypedRecords.Json.Reader
import TypedRecords.Numeric.Limit

/-!
The lexical parts of TOML: gaps and comments, keys, and the four kinds of texts.
Each reader hands on the characters behind what it read.
-/

set_option autoImplicit false

namespace TypedRecords.Toml

open TypedRecords.Json (hexDigit?)
open TypedRecords.Text (isSurrogate positional spellBack)

/-- Why a text is not read as TOML: it does not have the form, or an integer in it has more digits
than are converted. -/
inductive Failure where
  | malformed
  | tooManyDigits (count : Nat)
  deriving DecidableEq

def isSpace (c : Char) : Bool :=
  c == ' ' || c == '\t'

def isSpaceOrLine (c : Char) : Bool :=
  isSpace c || c == '\n'

/-- A control character that may not stand in a text of one line or in a comment. -/
def isControl (c : Char) : Bool :=
  (c.toNat < 0x20 && c != '\t') || c.toNat == 0x7f

/-- A control character that may not stand in a text of several lines. -/
def isControlInLines (c : Char) : Bool :=
  isControl c && c != '\n'

def skipSpace (cs : List Char) : List Char :=
  cs.dropWhile isSpace

def skipComment : List Char → Except Failure (List Char)
  | '#' :: rest =>
    let comment := rest.takeWhile fun c => c ≠ '\n'
    if comment.any isControl then .error .malformed else .ok (rest.drop comment.length)
  | cs => .ok cs

/-- The characters behind blanks, line ends and comments; `inComment` tells that a comment is being
passed over. -/
def skipLines (inComment : Bool) : List Char → Except Failure (List Char)
  | [] => .ok []
  | c :: rest =>
    if inComment then
      if c = '\n' then skipLines false rest
      else if isControl c then .error .malformed
      else skipLines true rest
    else if isSpaceOrLine c then skipLines false rest
    else if c = '#' then skipLines true rest
    else .ok (c :: rest)

def isBareKeyChar (c : Char) : Bool :=
  ('a' ≤ c && c ≤ 'z') || ('A' ≤ c && c ≤ 'Z') || ('0' ≤ c && c ≤ '9') || c == '-' || c == '_'

def codeOfHex? (digits : List Char) : Option Nat :=
  (digits.mapM hexDigit?).bind fun values =>
    let code := positional 16 values
    if code < 0x110000 ∧ !isSurrogate code then some code else none

def escaped? : Char → Option Char
  | 'b' => some (Char.ofNat 8)
  | 't' => some '\t'
  | 'n' => some '\n'
  | 'f' => some (Char.ofNat 12)
  | 'r' => some '\r'
  | '"' => some '"'
  | '\\' => some '\\'
  | _ => none

/-- How a quoted text is being read: character by character, or passing over what follows a
backslash at the end of a line, up to the line end and behind it. -/
inductive Mode where
  | plain
  | upToLineEnd
  | behindLineEnd

/-- Reads a quoted text behind its opening mark; `done` has the last character first. -/
def readQuoted (lines : Bool) (mode : Mode) (done : List Char) :
    List Char → Except Failure (String × List Char)
  | [] => .error .malformed
  | c :: rest =>
    match mode with
    | .upToLineEnd =>
      if isSpace c then readQuoted lines .upToLineEnd done rest
      else if c = '\n' then readQuoted lines .behindLineEnd done rest
      else .error .malformed
    | .behindLineEnd =>
      if isSpaceOrLine c then readQuoted lines .behindLineEnd done rest
      else readPlain lines done c rest
    | .plain => readPlain lines done c rest
termination_by cs => 2 * cs.length
where
  /-- Reads on at a character that is not passed over. -/
  readPlain (lines : Bool) (done : List Char) (c : Char) (rest : List Char) :
      Except Failure (String × List Char) :=
    if c = '"' then
      if lines then
        match rest with
        | '"' :: '"' :: behind => .ok (String.ofList done.reverse, behind)
        | rest => readQuoted lines .plain ('"' :: done) rest
      else .ok (String.ofList done.reverse, rest)
    else if c = '\\' then
      match rest with
      | [] => .error .malformed
      | e :: more =>
        if lines ∧ isSpace e then readQuoted lines .upToLineEnd done more
        else if lines ∧ e = '\n' then readQuoted lines .behindLineEnd done more
        else if e = 'u' then
          match more with
          | a :: b :: c :: d :: behind =>
            match codeOfHex? [a, b, c, d] with
            | some code => readQuoted lines .plain (spellBack code done) behind
            | none => .error .malformed
          | _ => .error .malformed
        else if e = 'U' then
          match more with
          | a :: b :: c :: d :: i :: j :: k :: l :: behind =>
            match codeOfHex? [a, b, c, d, i, j, k, l] with
            | some code => readQuoted lines .plain (spellBack code done) behind
            | none => .error .malformed
          | _ => .error .malformed
        else
          match escaped? e with
          | some char => readQuoted lines .plain (char :: done) more
          | none => .error .malformed
    else if if lines then isControlInLines c else isControl c then .error .malformed
    else readQuoted lines .plain (c :: done) rest
  termination_by 2 * rest.length + 1

def readLiteral (cs : List Char) : Except Failure (String × List Char) :=
  let text := cs.takeWhile fun c => c ≠ '\x27'
  match cs.drop text.length with
  | [] => .error .malformed
  | _ :: rest => if text.any isControl then .error .malformed else .ok (String.ofList text, rest)

/-- Reads a text of several lines between three apostrophes behind the first three; `done` has the
last character first. -/
def readLiteralLines (done : List Char) : List Char → Except Failure (String × List Char)
  | [] => .error .malformed
  | '\x27' :: '\x27' :: '\x27' :: rest => .ok (String.ofList done.reverse, rest)
  | c :: rest =>
    if isControlInLines c then .error .malformed else readLiteralLines (c :: done) rest

def withMoreMarks (mark : Char) (text : String) (cs : List Char) : String × List Char :=
  let marks := (cs.take 2).takeWhile fun c => c == mark
  (text ++ String.ofList marks, cs.drop marks.length)

def skipFirstLine : List Char → List Char
  | '\n' :: rest => rest
  | cs => cs

def readText? : List Char → Option (Except Failure (String × List Char))
  | '"' :: '"' :: '"' :: rest =>
    some ((readQuoted true .plain [] (skipFirstLine rest)).map fun (text, rest) =>
      withMoreMarks '"' text rest)
  | '"' :: rest => some (readQuoted false .plain [] rest)
  | '\x27' :: '\x27' :: '\x27' :: rest =>
    some ((readLiteralLines [] (skipFirstLine rest)).map fun (text, rest) =>
      withMoreMarks '\x27' text rest)
  | '\x27' :: rest => some (readLiteral rest)
  | _ => none

def readKeyPart (cs : List Char) : Except Failure (String × List Char) :=
  match cs with
  | '"' :: rest => readQuoted false .plain [] rest
  | '\x27' :: rest => readLiteral rest
  | cs =>
    let part := cs.takeWhile isBareKeyChar
    if part.isEmpty then .error .malformed
    else .ok (String.ofList part, cs.drop part.length)

/-- Reads a key: parts separated by dots; `fuel` bounds their number. -/
def readKey : Nat → List Char → Except Failure (List String × List Char)
  | 0, _ => .error .malformed
  | fuel + 1, cs => do
    let (part, rest) ← readKeyPart cs
    match skipSpace rest with
    | '.' :: behind =>
      let (parts, rest) ← readKey fuel (skipSpace behind)
      return (part :: parts, rest)
    | rest => return ([part], rest)

end TypedRecords.Toml
