import TypedRecords.Command.Line

/-!
The commands of the program, and how they are read from the arguments.
-/

set_option autoImplicit false

namespace TypedRecords

inductive Command where
  | help
  | version
  | extract (response signature : String) (settings : Option String) (strict : Bool)
  | format (template : String) (call device : List String) (missing : Option String)
  | parsePath (path : String)
  | readType (spelling : String)
  deriving DecidableEq

namespace Command

def helpForm : OptionForm := ⟨"help", none, false⟩

def programForms : List OptionForm :=
  [⟨"version", none, false⟩, ⟨"verbose", some 'v', false⟩, helpForm]

def extractForms : List OptionForm :=
  [⟨"signature", some 's', true⟩, ⟨"config", some 'c', true⟩, ⟨"strict", none, false⟩, helpForm]

def formatForms : List OptionForm :=
  [⟨"param", some 'p', true⟩, ⟨"device", some 'd', true⟩, ⟨"missing", none, true⟩, helpForm]

def onlyPositional (name : String) (line : Line) : Except UsageError String :=
  match line.positionals with
  | [] => .error (.missingArgument name)
  | [text] => .ok text
  | _ :: text :: _ => .error (.extraArgument text)

def extractOf (line : Line) : Except UsageError Command := do
  let response ← onlyPositional "RESPONSE" line
  match line.value? "signature" with
  | none => .error (.missingOption "signature")
  | some signature =>
    return .extract response signature (line.value? "config") (line.has "strict")

def formatOf (line : Line) : Except UsageError Command :=
  (onlyPositional "TEMPLATE" line).map fun template =>
    .format template (line.values "param") (line.values "device") (line.value? "missing")

/-- Reads the arguments of a command, given its options; help goes before all else. -/
def ofArguments (forms : List OptionForm) (args : List String)
    (read : Line → Except UsageError Command) : Except UsageError Command :=
  (readLine forms false args).bind fun line =>
    if line.has helpForm.name then .ok .help else read line

def ofName (args : List String) : String → Except UsageError Command
  | "extract" => ofArguments extractForms args extractOf
  | "format" => ofArguments formatForms args formatOf
  | "parse-path" =>
    ofArguments [helpForm] args fun line => (onlyPositional "PATH" line).map Command.parsePath
  | "type" =>
    ofArguments [helpForm] args fun line => (onlyPositional "TYPE" line).map Command.readType
  | name => .error (.unknownCommand name)

def ofSetting? : Setting → Option Command
  | ("version", _) => some .version
  | ("help", _) => some .help
  | _ => none

def ofArgs (args : List String) : Except UsageError Command :=
  (readLine programForms true args).bind fun line =>
    match line.settings.findSome? ofSetting?, line.positionals with
    | some command, _ => .ok command
    | none, [] => .error .missingCommand
    | none, name :: args => ofName args name

end Command

end TypedRecords
