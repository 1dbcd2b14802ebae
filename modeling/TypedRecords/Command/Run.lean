import TypedRecords.Command.Basic
import TypedRecords.Command.Output
import TypedRecords.Extraction.Basic
import TypedRecords.Json.Printer
import TypedRecords.Json.Strict
import TypedRecords.Path.Segments
import TypedRecords.SemanticType.Schema
import TypedRecords.Settings.Load
import TypedRecords.Signature.Load
import TypedRecords.Template.Format

/-!
Running a command.  A command that fails for a reason that it foresees tells the
reason and ends with status one; one that fails otherwise is aborted.
-/

set_option autoImplicit false

namespace TypedRecords.Command

open TypedRecords.Text (quoted)

/-- What a command finds: files, what it reads from its input, the environment, the clock, and the
output that it writes to. -/
structure Surroundings where
  files : Files
  input : String
  environment : Fields
  clock : Calendar.Clock
  output : Output

/-- Why a command is aborted. -/
inductive Abort where
  | settings (failure : Settings.Failure)
  | signature (failure : Signature.LoadFailure)
  | response (failure : Files.Failure)
  | tooManyDigits (count : Nat)
  | extraction (failure : Extraction.Failure)
  | unwritableOffset
  | unencodable

def Abort.message : Abort → String
  | .settings failure => failure.message
  | .signature failure => failure.message
  | .response failure => failure.message
  | .tooManyDigits count => Numeric.longNumeralMessage count
  | .extraction failure => failure.message
  | .unwritableOffset => "offset of a day or more"
  | .unencodable => "text that the output cannot encode"

/-- What becomes of a command: it has written something, it tells why it fails, or it is
aborted. -/
inductive Outcome where
  | done (output : String)
  | failed (reason : String)
  | aborted (cause : Abort)

def Outcome.status : Outcome → Nat
  | .done _ => 0
  | .failed _ => 1
  | .aborted _ => 1

def Outcome.output : Outcome → String
  | .done output => output
  | _ => ""

def Outcome.errors : Outcome → String
  | .failed reason => "Error: " ++ reason ++ "\n"
  | _ => ""

def Outcome.ofExcept {α : Type} (result : Except Outcome α) (use : α → Outcome) : Outcome :=
  match result with
  | .ok a => use a
  | .error outcome => outcome

def writeLine (output : Output) (text : String) : Outcome :=
  match output.line? text with
  | some line => .done line
  | none => .aborted .unencodable

def writeValue (output : Output) (value : Value) : Outcome :=
  match Json.strict? value with
  | some value => writeLine output (Json.write value)
  | none => .aborted .unwritableOffset

def loadSettings (around : Surroundings) (path : Option String) : Except Outcome Settings :=
  (Settings.load around.files path around.environment).mapError fun failure =>
    if failure.isWrongSetting || failure.isSystemError then .failed failure.message
    else .aborted (.settings failure)

def loadSignature (around : Surroundings) (path : String) : Except Outcome Signature :=
  (Signature.load around.files path).mapError fun failure =>
    if failure.isForeseen then .failed failure.message else .aborted (.signature failure)

def inputName : String := "-"

def responseText (around : Surroundings) (source : String) : Except Outcome String :=
  if source = inputName then .ok (Text.withLineFeeds around.input)
  else
    (around.files.text source).mapError fun failure =>
      if failure.isSystemError then .failed ("cannot read " ++ source ++ ": " ++ failure.message)
      else .aborted (.response failure)

def readResponse (around : Surroundings) (source : String) : Except Outcome Value :=
  (responseText around source).bind fun text =>
    (Json.read text).mapError fun failure =>
      match failure with
      | .malformed .. => .failed ("response is not valid JSON: " ++ failure.message)
      | .tooManyDigits count => .aborted (.tooManyDigits count)

def extractRecords (around : Surroundings) (settings : Settings) (response : Value)
    (signature : Signature) : Except Outcome Value :=
  match Extraction.once around.clock settings response signature with
  | .ok records => .ok (.list (records.map Value.object))
  | .error failure =>
    if failure.isForeseen then .error (.failed failure.message)
    else .error (.aborted (.extraction failure))

def runExtract (around : Surroundings) (response signature : String) (settings : Option String)
    (strict : Bool) : Outcome :=
  Outcome.ofExcept (do
    let loaded ← loadSettings around settings
    let settings := { loaded with strict := loaded.strict || strict }
    let signature ← loadSignature around signature
    let response ← readResponse around response
    extractRecords around settings response signature) (writeValue around.output)

def pair? (text : String) : Option (String × String) :=
  let cs := text.toList
  let name := Text.before '=' cs
  if cs.contains '=' ∧ !name.isEmpty then
    some (String.ofList name, String.ofList (Text.behind '=' cs))
  else none

def readPair (option text : String) : Except Outcome (String × Value) :=
  match pair? text with
  | some (name, value) => .ok (name, .text value)
  | none => .error (.failed (option ++ " expects NAME=VALUE, got " ++ quoted text))

def readPairs (option : String) (texts : List String) : Except Outcome Fields :=
  (texts.mapM (readPair option)).map Fields.ofPairs

def wrongPolicy (given : Option String) : Outcome :=
  .failed ("--missing must be 'keep' or 'empty', got " ++ Value.optionalLiteral given)

/-- What becomes of placeholders without a value: as given, or else as the settings say. -/
def choosePolicy (around : Surroundings) : Option String → Except Outcome MissingPolicy
  | some name =>
    match MissingPolicy.ofName? name with
    | some policy => .ok policy
    | none => .error (wrongPolicy (some name))
  | none =>
    match Settings.load around.files none around.environment with
    | .ok settings => .ok settings.missing
    | .error failure =>
      if failure.isWrongSetting then .error (.failed failure.message)
      else if failure.isRefusal then .error (wrongPolicy none)
      else .error (.aborted (.settings failure))

/-- Fills in a template and writes it.  A text that the output cannot encode counts as a policy that
is refused, since both show themselves in the same way. -/
def runFormat (around : Surroundings) (template : String) (call device : List String)
    (missing : Option String) : Outcome :=
  Outcome.ofExcept (do
    let call ← readPairs "--param" call
    let device ← readPairs "--device" device
    let policy ← choosePolicy around missing
    return Template.format policy template device (some call)) fun text =>
      match around.output.line? text with
      | some line => .done line
      | none => wrongPolicy missing

def runParsePath (output : Output) (path : String) : Outcome :=
  writeValue output (.list ((Path.segments path).map Value.text))

def runReadType (output : Output) (spelling : String) : Outcome :=
  match SemanticType.read spelling with
  | .ok type => writeValue output (.object (("type", .text type.text) :: type.toFields))
  | .error misspelling => .failed misspelling.message

def programName : String := "respcast"

def versionText : String := "0.1.0"

def usage : String :=
  "Usage: " ++ programName ++ " [--version] [--verbose] COMMAND\n" ++
    "  extract RESPONSE --signature PATH [--config PATH] [--strict]\n" ++
    "  format TEMPLATE [--param NAME=VALUE] [--device NAME=VALUE] [--missing keep|empty]\n" ++
    "  parse-path PATH\n" ++
    "  type TYPE\n"

def readsInput : Command → Bool
  | .extract response .. => response == inputName
  | _ => false

def filePaths : Command → List String
  | .extract response signature settings _ =>
    [settings.getD Settings.manifestName, signature] ++
      (if response = inputName then [] else [response])
  | .format _ _ _ none => [Settings.manifestName]
  | _ => []

def run (around : Surroundings) : Command → Outcome
  | .help => .done usage
  | .version => writeLine around.output (programName ++ " " ++ versionText)
  | .extract response signature settings strict =>
    runExtract around response signature settings strict
  | .format template call device missing => runFormat around template call device missing
  | .parsePath path => runParsePath around.output path
  | .readType spelling => runReadType around.output spelling

end TypedRecords.Command
