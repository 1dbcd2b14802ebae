import TypedRecords.Text.Split

/-!
Command lines: options with long names and letters, values behind them, and
positional arguments.  Options end at a double dash and, where they must come
first, at the first positional argument.  This is how typer reads a command line.
-/

set_option autoImplicit false

namespace TypedRecords.Command

structure OptionForm where
  name : String
  letter : Option Char
  takesValue : Bool
  deriving DecidableEq

inductive UsageError where
  | unknownOption (spelling : String)
  | missingValue (name : String)
  | unexpectedValue (name : String)
  | missingCommand
  | unknownCommand (name : String)
  | missingOption (name : String)
  | missingArgument (name : String)
  | extraArgument (text : String)
  deriving DecidableEq

def UsageError.message : UsageError → String
  | .unknownOption spelling => "No such option: " ++ spelling
  | .missingValue name => "Option '--" ++ name ++ "' requires an argument."
  | .unexpectedValue name => "Option '--" ++ name ++ "' does not take a value."
  | .missingCommand => "Missing command."
  | .unknownCommand name => "No such command '" ++ name ++ "'."
  | .missingOption name => "Missing option '--" ++ name ++ "'."
  | .missingArgument name => "Missing argument '" ++ name ++ "'."
  | .extraArgument text => "Got unexpected extra argument (" ++ text ++ ")"

abbrev Setting := String × Option String

/-- What one argument says: options that are complete, and one that awaits its value in the next
argument. -/
structure Word where
  settings : List Setting
  awaiting : Option String
  deriving DecidableEq

def Word.after (setting : Setting) (word : Word) : Word :=
  { word with settings := setting :: word.settings }

structure Line where
  settings : List Setting
  positionals : List String
  deriving DecidableEq

def Line.withSettings (settings : List Setting) (line : Line) : Line :=
  { line with settings := settings ++ line.settings }

def Line.withPositional (text : String) (line : Line) : Line :=
  { line with positionals := text :: line.positionals }

def Line.value? (line : Line) (name : String) : Option String :=
  ((line.settings.filter fun setting => setting.1 == name).getLast?).bind Prod.snd

def Line.values (line : Line) (name : String) : List String :=
  (line.settings.filter fun setting => setting.1 == name).filterMap Prod.snd

def Line.has (line : Line) (name : String) : Bool :=
  line.settings.any fun setting => setting.1 == name

/-- Reads letters of options; the characters behind a letter that takes a value are its value. -/
def readLetters (forms : List OptionForm) : List Char → Except UsageError Word
  | [] => .ok ⟨[], none⟩
  | c :: rest =>
    match forms.find? fun form => form.letter == some c with
    | none => .error (.unknownOption (String.ofList ['-', c]))
    | some form =>
      if form.takesValue then
        if rest.isEmpty then .ok ⟨[], some form.name⟩
        else .ok ⟨[(form.name, some (String.ofList rest))], none⟩
      else (readLetters forms rest).map (Word.after (form.name, none))

/-- Reads a long name with the value that stands behind an equals sign. -/
def readLong (forms : List OptionForm) (name : String) (value : Option String) :
    Except UsageError Word :=
  match forms.find? fun form => form.name == name with
  | none => .error (.unknownOption ("--" ++ name))
  | some form =>
    match form.takesValue, value with
    | true, none => .ok ⟨[], some name⟩
    | false, some _ => .error (.unexpectedValue name)
    | _, value => .ok ⟨[(name, value)], none⟩

def attachedValue? (cs : List Char) : Option String :=
  if cs.contains '=' then some (String.ofList (Text.behind '=' cs)) else none

/-- Reads an argument that begins with a dash, given the characters behind it. -/
def readWord (forms : List OptionForm) : List Char → Except UsageError Word
  | '-' :: cs => readLong forms (String.ofList (Text.before '=' cs)) (attachedValue? cs)
  | cs => readLetters forms cs

/-- The characters behind the dash of an argument that gives options; a lone dash gives none. -/
def optionChars? (arg : String) : Option (List Char) :=
  match arg.toList with
  | '-' :: c :: rest => some (c :: rest)
  | _ => none

def endOfOptions : String := "--"

/-- Reads a command line.  With `leading` the options end at the first positional argument. -/
def readLine (forms : List OptionForm) (leading : Bool) : List String → Except UsageError Line
  | [] => .ok ⟨[], []⟩
  | arg :: rest =>
    if arg = endOfOptions then .ok ⟨[], rest⟩
    else
      match optionChars? arg with
      | none =>
        if leading then .ok ⟨[], arg :: rest⟩
        else (readLine forms leading rest).map (Line.withPositional arg)
      | some cs =>
        match readWord forms cs with
        | .error e => .error e
        | .ok ⟨settings, none⟩ =>
          (readLine forms leading rest).map (Line.withSettings settings)
        | .ok ⟨settings, some name⟩ =>
          match rest with
          | [] => .error (.missingValue name)
          | value :: rest =>
            (readLine forms leading rest).map
              (Line.withSettings (settings ++ [(name, some value)]))

end TypedRecords.Command
