import TypedRecords.SemanticType.Basic
import TypedRecords.Text.Alphabetic
import TypedRecords.Text.Blank
import TypedRecords.Text.Quoted

/-!
Reading types from text.  A type is a name, perhaps with an argument between
parentheses: the argument of an array is a type, that of any other name is taken
as it stands as long as its parentheses are balanced.  Names beyond the
vocabulary, and names of the vocabulary that take no argument but have one, stand
for themselves with their spelling kept.
-/

set_option autoImplicit false

namespace TypedRecords.SemanticType

open TypedRecords.Text (firstSpelling? isAlphanumeric isBlank quoted stripBlank width)

inductive SpellingFault where
  | noNameAtEnd
  | noName (position : Nat)
  | unbalanced
  | notClosed (found : Option String)
  | noElement
  | trailing (rest : String)
  deriving DecidableEq

structure Misspelling where
  text : String
  fault : SpellingFault
  deriving DecidableEq

def SpellingFault.wording : SpellingFault → String
  | .noNameAtEnd => "Expected type name at end of "
  | .noName position => "Expected type name at position " ++ Nat.repr position ++ " in "
  | .unbalanced => "Unbalanced parentheses in "
  | .notClosed found =>
    "Expected " ++ quoted ")" ++ " but found " ++
      (match found with
      | none => "end of input"
      | some c => quoted c) ++ " in "
  | .noElement => "Array type requires an element type in "
  | .trailing rest => "Unexpected " ++ quoted rest ++ " after type in "

def Misspelling.message (e : Misspelling) : String :=
  e.fault.wording ++ quoted e.text

def isNameChar (c : Char) : Bool :=
  isAlphanumeric c || c == '_'

def skipBlank (cs : List Char) : List Char :=
  cs.dropWhile isBlank

/-- Splits an argument behind its opening parenthesis from what follows its closing one.  `depth`
counts the parentheses open inside it; `done` are its characters so far, the last one first. -/
def splitArgument? (depth : Nat) (done : List Char) : List Char → Option (List Char × List Char)
  | [] => none
  | c :: rest =>
    if c = '(' then splitArgument? (depth + 1) (c :: done) rest
    else if c = ')' then
      match depth with
      | 0 => some (done.reverse, rest)
      | depth + 1 => splitArgument? depth (c :: done) rest
    else splitArgument? depth (c :: done) rest

def ofName (name : String) : Except SpellingFault SemanticType :=
  if name = arrayName then .error .noElement
  else
    match LeafKind.ofName? name with
    | none => .ok (.leaf .other { TypeLabels.none with name := some name })
    | some .other => .ok (.leaf .other { TypeLabels.none with name := some name })
    | some kind => .ok (.plain kind)

/-- The type of a name with an argument; `spelling` is both as they stand. -/
def ofArgument (name argument spelling : String) : SemanticType :=
  if name = LeafKind.measure.name then
    .leaf .measure { TypeLabels.none with unit := some argument }
  else if name = LeafKind.entity.name then
    .leaf .entity { TypeLabels.none with entityType := some argument }
  else .leaf .other { TypeLabels.none with name := some spelling }

/-- Reads a type at the front of the characters that are left of a text with `length` code points,
and hands on the characters behind it; `fuel` bounds the depth of arrays. -/
def readType (length : Nat) : Nat → List Char →
    Except SpellingFault (SemanticType × List Char)
  | 0, _ => .error .noNameAtEnd
  | fuel + 1, cs =>
    let start := skipBlank cs
    let name := start.takeWhile isNameChar
    if name.isEmpty then
      .error (if start.isEmpty then .noNameAtEnd else .noName (length - width start))
    else
      match skipBlank (start.dropWhile isNameChar) with
      | '(' :: inside =>
        if String.ofList name = arrayName then
          match readType length fuel inside with
          | .error fault => .error fault
          | .ok (element, rest) =>
            match skipBlank rest with
            | ')' :: behind => .ok (arrayOf element, behind)
            | other => .error (.notClosed ((firstSpelling? other).map String.ofList))
        else
          match splitArgument? 0 [] inside with
          | none => .error .unbalanced
          | some (argument, rest) =>
            .ok (ofArgument (String.ofList name) (String.ofList (stripBlank argument))
              (String.ofList (start.take (start.length - rest.length))), rest)
      | rest => (ofName (String.ofList name)).map fun type => (type, rest)

def readWhole (cs : List Char) : Except SpellingFault SemanticType :=
  match readType (width cs) (cs.length + 1) cs with
  | .error fault => .error fault
  | .ok (type, rest) =>
    match skipBlank rest with
    | [] => .ok type
    | extra => .error (.trailing (String.ofList extra))

def read (text : String) : Except Misspelling SemanticType :=
  (readWhole text.toList).mapError fun fault => { text, fault }

end TypedRecords.SemanticType
