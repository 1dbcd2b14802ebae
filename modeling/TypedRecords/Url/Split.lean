import TypedRecords.Text.Case
import TypedRecords.Url.Address

/-!
The scheme and the host of a URL.
-/

set_option autoImplicit false

namespace TypedRecords.Url

open TypedRecords.Text (before behind behindLast)

structure Parts where
  scheme : String
  host : String
  deriving DecidableEq

def isPlainLetter (c : Char) : Bool :=
  ('a' ≤ c && c ≤ 'z') || ('A' ≤ c && c ≤ 'Z')

def isSchemeChar (c : Char) : Bool :=
  isPlainLetter c || Text.isPlainDigit c || c == '+' || c == '-' || c == '.'

/-- The characters of a URL that count: control characters and blanks in front, and tabs and line
ends anywhere, do not. -/
def significant (url : String) : List Char :=
  (url.toList.dropWhile fun c => c.toNat ≤ 0x20).filter fun c =>
    c != '\t' && c != '\n' && c != '\r'

def splitScheme (cs : List Char) : String × List Char :=
  let scheme := before ':' cs
  if scheme.length < cs.length ∧ scheme.head?.any isPlainLetter ∧ scheme.all isSchemeChar then
    (Text.Case.lower (String.ofList scheme), behind ':' cs)
  else ("", cs)

/-- What stands between two slashes and the next slash, question mark or number sign. -/
def authority : List Char → List Char
  | '/' :: '/' :: rest => rest.takeWhile fun c => c != '/' && c != '?' && c != '#'
  | _ => []

/-- Characters that turn into delimiters of a URL when they are brought to their basic form. -/
def disguisedDelimiters : List Nat :=
  [0x2047, 0x2048, 0x2049, 0x2100, 0x2101, 0x2105, 0x2106, 0x2a74, 0xfe13, 0xfe16, 0xfe55, 0xfe56,
   0xfe5f, 0xfe6b, 0xff03, 0xff0f, 0xff1a, 0xff1f, 0xff20]

/-- Whether the text between brackets is an address that belongs there: a long one, or one of a
later version. -/
def isBracketed (cs : List Char) : Bool :=
  match cs with
  | 'v' :: rest =>
    let version := before '.' rest
    let address := behind '.' rest
    !version.isEmpty && version.all (fun c => (Json.hexDigit? c).isSome) && !address.isEmpty &&
      !address.contains '\n'
  | cs =>
    match Address.ofChars? cs with
    | some (.long _) => true
    | _ => false

/-- Whether brackets stand where they may: around the host, with nothing before them and at most a
number behind a colon after them. -/
def hasValidBrackets (authority : List Char) : Bool :=
  let place := behindLast '@' authority
  if authority.contains '[' != authority.contains ']' then false
  else if !authority.contains '[' then true
  else if place.contains '[' then
    let inside := behind '[' place
    let rest := behind ']' inside
    (before '[' place).isEmpty && (rest.isEmpty || rest.head? == some ':') &&
      isBracketed (before ']' inside)
  else isBracketed (before ':' place)

/-- The host as it is written, without the user before it and the number behind it. -/
def writtenHost (authority : List Char) : List Char :=
  let place := behindLast '@' authority
  if place.contains '[' then before ']' (behind '[' place) else before ':' place

def lowerHost (cs : List Char) : String :=
  Text.Case.lower (String.ofList (before '%' cs)) ++
    String.ofList (cs.dropWhile fun c => c ≠ '%')

def split? (url : String) : Option Parts :=
  let (scheme, rest) := splitScheme (significant url)
  let authority := authority rest
  if hasValidBrackets authority ∧ !authority.any fun c => disguisedDelimiters.contains c.toNat then
    some { scheme, host := lowerHost (writtenHost authority) }
  else none

end TypedRecords.Url
