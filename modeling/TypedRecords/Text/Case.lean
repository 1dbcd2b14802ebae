import TypedRecords.Text.Case.Table
import TypedRecords.Text.Ranges

/-!
Small and capital forms of a text.  A mapping may lengthen the text: the dotted
capital I becomes two characters, the sharp s two capitals.  A capital sigma at
the end of a word takes its final form.
-/

set_option autoImplicit false

namespace TypedRecords.Text.Case

/-- Whether the nearest character that is not passed over has a case. -/
def nearestIsCased (cs : List Char) : Bool :=
  match cs.dropWhile fun c => inRanges c.toNat ignorableRanges with
  | [] => false
  | c :: _ => inRanges c.toNat casedRanges

/-- The small form of one character, given the characters before it (nearest first) and after. -/
def lowerChar (before : List Char) (c : Char) (after : List Char) : List Char :=
  if c.toNat = 0x130 then ['i', Char.ofNat 0x307]
  else if c.toNat = 0x3a3 then
    if nearestIsCased before && !nearestIsCased after then [Char.ofNat 0x3c2]
    else [Char.ofNat 0x3c3]
  else [Char.ofNat (mapRuns c.toNat lowerRuns)]

/-- The small form of the characters, given those already passed, nearest first. -/
def lowerAfter (before : List Char) : List Char → List Char
  | [] => []
  | c :: after => lowerChar before c after ++ lowerAfter (c :: before) after

def upperChar (c : Char) : List Char :=
  match upperExpansions.find? fun entry => entry.1 == c.toNat with
  | some entry => entry.2.map Char.ofNat
  | none => [Char.ofNat (mapRuns c.toNat upperRuns)]

def lower (s : String) : String :=
  String.ofList (lowerAfter [] s.toList)

def upper (s : String) : String :=
  String.ofList (s.toList.flatMap upperChar)

end TypedRecords.Text.Case
