import TypedRecords.Text.Alphabetic
import TypedRecords.Text.Blank
import TypedRecords.Text.Digit

/-!
Cutting the text of a date into words, numbers, blanks and single marks.  A dot
may belong to a number, to an abbreviation, or stand between parts; which it is
shows only at the end of a run of letters, digits and dots.  The runs and their
parts are those of the lexer of dateutil.
-/

set_option autoImplicit false

namespace TypedRecords.DateText

open TypedRecords.Text (isBlank isDigit isLetter)

inductive RunKind where
  | letters
  | digits
  | dottedLetters
  | dottedDigits
  deriving DecidableEq

/-- A run of characters that is not finished.  `taken` has the last character first;
`sawLetters` tells that a character was read behind a letter. -/
structure Run where
  kind : RunKind
  taken : List Char
  sawLetters : Bool

namespace Run

def kindWith? (run : Run) (c : Char) : Option RunKind :=
  match run.kind with
  | .letters =>
    if isLetter c then some .letters else if c = '.' then some .dottedLetters else none
  | .digits =>
    if isDigit c then some .digits
    else if c = '.' ∨ (c = ',' ∧ 2 ≤ run.taken.length) then some .dottedDigits
    else none
  | .dottedLetters =>
    if c = '.' ∨ isLetter c then some .dottedLetters
    else if isDigit c ∧ run.taken.head? = some '.' then some .dottedDigits
    else none
  | .dottedDigits =>
    if c = '.' ∨ isDigit c then some .dottedDigits
    else if isLetter c ∧ run.taken.head? = some '.' then some .dottedLetters
    else none

def looked (run : Run) : Run :=
  { run with
    sawLetters := run.sawLetters || run.kind == .letters || run.kind == .dottedLetters }

def isMark (c : Char) : Bool :=
  c == '.' || c == ','

def partOf (current : List Char) : List String :=
  if current.isEmpty then [] else [String.ofList current.reverse]

/-- The parts of a run and the marks between them; `current` has the last character first. -/
def parts (current : List Char) : List Char → List String
  | [] => partOf current
  | c :: rest =>
    if isMark c then partOf current ++ String.singleton c :: parts [] rest
    else parts (c :: current) rest

/-- Whether the dots of a run are marks between parts rather than one decimal point. -/
def isDivided (run : Run) : Bool :=
  (run.kind == .dottedLetters || run.kind == .dottedDigits) &&
    (run.sawLetters || 1 < run.taken.count '.' || run.taken.head?.any isMark)

def withDecimalDot (run : Run) (token : String) : String :=
  if run.kind = .dottedDigits ∧ !token.toList.contains '.' then
    String.ofList (token.toList.map fun c => if c = ',' then '.' else c)
  else token

def tokens (run : Run) : List String :=
  match if run.isDivided then parts [] run.taken.reverse else partOf run.taken with
  | [] => []
  | first :: rest => run.withDecimalDot first :: rest

end Run

/-- The run that begins with a character, or the token that the character is by itself. -/
def begin (c : Char) : Except String Run :=
  if isLetter c then .ok ⟨.letters, [c], false⟩
  else if isDigit c then .ok ⟨.digits, [c], false⟩
  else if isBlank c then .error " "
  else .error (String.singleton c)

/-- The tokens of the characters that are left, with the run that is not finished. -/
def tokensFrom (run : Option Run) : List Char → List String
  | [] => (run.map Run.tokens).getD []
  | c :: rest =>
    match run.bind fun r => (r.kindWith? c).map fun kind =>
      { r.looked with kind := kind, taken := c :: r.taken } with
    | some longer => tokensFrom (some longer) rest
    | none =>
      (run.map fun r => r.looked.tokens).getD [] ++
        (match begin c with
        | .ok started => tokensFrom (some started) rest
        | .error token => token :: tokensFrom none rest)

def tokensOf (text : String) : List String :=
  tokensFrom none (text.toList.filter fun c => c.toNat ≠ 0)

end TypedRecords.DateText
