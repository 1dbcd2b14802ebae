import Mathlib.Tactic.DeprecateTo
import TypedRecords.Command.Run

/-!
The program: it looks at the files that the command may read and at the clock, runs the command, and
writes what came of it.  The day and the rules of the zone are those of `Std.Time`, and the output
is taken to be in the usual encoding.
-/

set_option autoImplicit false

namespace TypedRecords.Command

open TypedRecords (Files)
open TypedRecords.Calendar (Clock Date Moment TimeOfDay)
open Std.Time (PlainDateTime Timestamp WallTime)
open Std.Time.TimeZone (ZoneRules)

def probe (path : String) : IO (Except Files.Obstacle Files.Entry) := do
  try
    return .ok (.file (← IO.FS.readBinFile (Text.unspelled (Files.normal path))).toList)
  catch
    | .noFileOrDirectory .. => return .error .missing
    | .inappropriateType none .. => return .ok .folder
    | .inappropriateType .. => return .error .notFolder
    | .invalidArgument _ _ "name too long" => return .error .longName
    | failure => throw failure

def probeAll (paths : List String) : IO Files := do
  let found ← paths.mapM fun path => do return (path, ← probe path)
  return ⟨fun path => (found.lookup path).getD (.error .missing)⟩

def environment : IO Fields := do
  let found ← Settings.environmentNames.toList.mapM fun name => do
    return (← IO.getEnv name).map fun text => (name, Value.text (Text.spelled text))
  return found.filterMap id

def inputFor (command : Command) : IO String := do
  if command.readsInput then return Text.spelled (← (← IO.getStdin).readToEnd) else return ""

/-- The rules of the zone of the host, those of universal time where it has none. -/
def hostRules : IO ZoneRules := do
  try Std.Time.Database.defaultGetLocalZoneRules catch _ => return ZoneRules.UTC

/-- The names that a zone goes by at the beginning and in the middle of a year. -/
def zoneNames (rules : ZoneRules) (year : Nat) : List String :=
  [1, 7].map fun month =>
    let seconds : Int := ((Date.number ⟨year, month, 1⟩ : Int) - Moment.epochDay) * 86400
    (rules.findLocalTimeTypeForTimestamp
      (Timestamp.ofSecondsSinceUnixEpoch (.ofInt seconds))).abbreviation

/-- The offset of a zone at a time of day.  Of a time that comes twice the second is meant where
that goes by the name, and a name of universal time that the zone does not go by then means that. -/
def zoneOffset (rules : ZoneRules) (name : String) (date : Date) (time : TimeOfDay) : Int :=
  let seconds : Int := ((date.number : Int) - Moment.epochDay) * 86400 + time.toSeconds
  let wall := WallTime.ofSeconds (.ofInt seconds)
  let first := rules.findLocalTimeTypeForWallTime wall
  let second := rules.findLocalTimeTypeForWallTime (wall.addHours 1)
  let comesTwice := second.gmtOffset.second.val < first.gmtOffset.second.val
  if first.abbreviation = name then first.gmtOffset.second.val
  else if comesTwice ∧ second.abbreviation = name then second.gmtOffset.second.val
  else if DateText.isUtcName name then 0
  else first.gmtOffset.second.val

def hostClock : IO Clock := do
  let rules ← hostRules
  let moment ← Timestamp.now
  let now := PlainDateTime.ofWallTime
    (moment.toWallTime (rules.findLocalTimeTypeForTimestamp moment).gmtOffset)
  let today : Date := ⟨now.year.toNat, now.month.toNat, now.day.toNat⟩
  if valid : today.isValid = true then
    return ⟨today, valid, zoneNames rules today.year, fun name date time =>
      some (zoneOffset rules name date time)⟩
  else throw (IO.userError "the day is not in the calendar")

def lookAround (command : Command) : IO Surroundings := do
  let files ← probeAll command.filePaths
  let output := { Output.utf8 with isTerminal := ← (← IO.getStdout).isTty }
  return { files, input := ← inputFor command, environment := ← environment,
           clock := ← hostClock, output }

def report (outcome : Outcome) : IO UInt32 := do
  (← IO.getStdout).putStr (Text.unspelled outcome.output)
  let errors := { Output.utf8 with isTerminal := ← (← IO.getStderr).isTty }
  (← IO.getStderr).putStr (Text.unspelled (errors.escaped (match outcome with
    | .aborted cause => "Aborted: " ++ cause.message ++ "\n"
    | outcome => outcome.errors)))
  return outcome.status.toUInt32

end TypedRecords.Command

def main (args : List String) : IO UInt32 := do
  match TypedRecords.Command.ofArgs (args.map TypedRecords.Text.spelled) with
  | .ok command =>
    let around ← TypedRecords.Command.lookAround command
    TypedRecords.Command.report (TypedRecords.Command.run around command)
  | .error failure =>
    (← IO.getStderr).putStrLn (TypedRecords.Text.unspelled failure.message)
    return 2
