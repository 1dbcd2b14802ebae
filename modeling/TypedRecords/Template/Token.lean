import TypedRecords.Text.Alphabetic

/-!
Templates as tokens: a doubled dollar sign, a placeholder with or without braces,
and every other character by itself.
-/

set_option autoImplicit false

namespace TypedRecords.Template

open TypedRecords.Text (isWordChar)

inductive Token where
  | dollar
  | placeholder (name : String) (braced : Bool)
  | char (c : Char)
  deriving DecidableEq

def Token.source : Token → List Char
  | .dollar => ['$', '$']
  | .placeholder name true => '$' :: '\x7b' :: name.toList ++ ['\x7d']
  | .placeholder name false => '$' :: name.toList
  | .char c => [c]

def tokenBehindDollar (cs : List Char) : Token :=
  match cs with
  | '$' :: _ => .dollar
  | '\x7b' :: rest =>
    let name := rest.takeWhile isWordChar
    if !name.isEmpty ∧ (rest.drop name.length).head? = some '\x7d' then
      .placeholder (String.ofList name) true
    else .char '$'
  | rest =>
    let name := rest.takeWhile isWordChar
    if name.isEmpty then .char '$' else .placeholder (String.ofList name) false

/-- The token that a character begins, given the characters behind it. -/
def tokenAt (c : Char) (rest : List Char) : Token :=
  if c = '$' then tokenBehindDollar rest else .char c

def tokensFrom (skip : Nat) : List Char → List Token
  | [] => []
  | c :: rest =>
    match skip with
    | skip + 1 => tokensFrom skip rest
    | 0 =>
      let token := tokenAt c rest
      token :: tokensFrom (token.source.length - 1) rest

def tokens (template : String) : List Token :=
  tokensFrom 0 template.toList

end TypedRecords.Template
