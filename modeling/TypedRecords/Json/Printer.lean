import TypedRecords.Value.Printer

/-!
Writing JSON, one item or field a line with two blanks for each level.  Every
character that need not be escaped stands for itself.
-/

set_option autoImplicit false

namespace TypedRecords.Json

open TypedRecords.Text (hexText)

def escapeChar (c : Char) : String :=
  if c = '"' then "\\\""
  else if c = '\\' then "\\\\"
  else if c = '\n' then "\\n"
  else if c = '\r' then "\\r"
  else if c = '\t' then "\\t"
  else if c.toNat = 8 then "\\b"
  else if c.toNat = 12 then "\\f"
  else if c.toNat < 0x20 then "\\u" ++ hexText 4 c.toNat
  else String.singleton c

def textLiteral (s : String) : String :=
  "\"" ++ String.join (s.toList.map escapeChar) ++ "\""

def lineStart (level : Nat) : String :=
  "\n" ++ String.ofList (List.replicate (2 * level) ' ')

/-- Parts between brackets, each on a line of its own; without parts the brackets stand alone. -/
def block (level : Nat) (opening closing : String) (parts : List String) : String :=
  match parts with
  | [] => opening ++ closing
  | parts =>
    opening ++ lineStart (level + 1) ++ ("," ++ lineStart (level + 1)).intercalate parts ++
      lineStart level ++ closing

mutual

/-- A value on a level.  Values that JSON does not have are written as texts. -/
def writeValue (level : Nat) : Value → String
  | .null => "null"
  | .bool b => if b then "true" else "false"
  | .int n => Value.integerText n
  | .float x => Value.numberText x
  | .text s => textLiteral s
  | .list items => block level "[" "]" (writeItems (level + 1) items)
  | .object fields => block level "\x7b" "\x7d" (writeFields (level + 1) fields)
  | .date d => textLiteral d.isoText
  | .time t => textLiteral t.isoText
  | .moment m => textLiteral (m.isoText "T")
  | .currency c => textLiteral c.plain
  | .entity e => textLiteral e.plain
  | .location l => textLiteral l.plain

def writeItems (level : Nat) : List Value → List String
  | [] => []
  | item :: rest => writeValue level item :: writeItems level rest

def writeFields (level : Nat) : List (String × Value) → List String
  | [] => []
  | (name, value) :: rest =>
    (textLiteral name ++ ": " ++ writeValue level value) :: writeFields level rest

end

def write (value : Value) : String :=
  writeValue 0 value

end TypedRecords.Json
