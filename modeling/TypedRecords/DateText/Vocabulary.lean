import TypedRecords.Text.Case

/-!
The words that the text of a date may have, in any letter case: the English words
that dateutil knows.
-/

set_option autoImplicit false

namespace TypedRecords.DateText

def groupOf? (groups : List (List String)) (word : String) : Option Nat :=
  groups.findIdx? fun group => group.contains (Text.Case.lower word)

def weekdayNames : List (List String) :=
  [["mon", "monday"], ["tue", "tuesday"], ["wed", "wednesday"], ["thu", "thursday"],
   ["fri", "friday"], ["sat", "saturday"], ["sun", "sunday"]]

def monthNames : List (List String) :=
  [["jan", "january"], ["feb", "february"], ["mar", "march"], ["apr", "april"], ["may"],
   ["jun", "june"], ["jul", "july"], ["aug", "august"], ["sep", "sept", "september"],
   ["oct", "october"], ["nov", "november"], ["dec", "december"]]

def unitNames : List (List String) :=
  [["h", "hour", "hours"], ["m", "minute", "minutes"], ["s", "second", "seconds"]]

def halfDayNames : List (List String) :=
  [["am", "a"], ["pm", "p"]]

def fillers : List String :=
  [" ", ".", ",", ";", "-", "/", "'", "at", "on", "and", "ad", "m", "t", "of", "st", "nd", "rd",
   "th"]

def utcNames : List String := ["utc", "gmt", "z"]

def weekday? (word : String) : Option Nat := groupOf? weekdayNames word

def month? (word : String) : Option Nat := (groupOf? monthNames word).map fun n => n + 1

def unit? (word : String) : Option Nat := groupOf? unitNames word

/-- Whether a word names the second half of the day, if it names a half. -/
def afternoon? (word : String) : Option Bool := (groupOf? halfDayNames word).map fun n => n == 1

def isFiller (word : String) : Bool := fillers.contains (Text.Case.lower word)

def isBelonging (word : String) : Bool := Text.Case.lower word == "of"

def isUtcName (word : String) : Bool := utcNames.contains (Text.Case.lower word)

end TypedRecords.DateText
