import TypedRecords.Text.LineEnd
import TypedRecords.Text.Quoted
import TypedRecords.Text.Split
import TypedRecords.Text.Utf8

/-!
The files that a program is given: what each path leads to, and reading a file as
text.
-/

set_option autoImplicit false

namespace TypedRecords

namespace Files

open TypedRecords.Text (DecodingError quoted)

inductive Entry where
  | folder
  | file (bytes : List UInt8)
  deriving DecidableEq

inductive Obstacle where
  | missing
  | notFolder
  | isFolder
  | longName
  | nullByte
  deriving DecidableEq

def Obstacle.number : Obstacle → Nat
  | .missing => 2
  | .notFolder => 20
  | .isFolder => 21
  | .longName => 36
  | .nullByte => 0

def Obstacle.wording : Obstacle → String
  | .missing => "No such file or directory"
  | .notFolder => "Not a directory"
  | .isFolder => "Is a directory"
  | .longName => "File name too long"
  | .nullByte => "embedded null byte"

inductive Failure where
  | unreachable (obstacle : Obstacle) (path : String)
  | notText (error : DecodingError)
  deriving DecidableEq

def Failure.message : Failure → String
  | .unreachable .nullByte _ => Obstacle.nullByte.wording
  | .unreachable obstacle path =>
    "[Errno " ++ Nat.repr obstacle.number ++ "] " ++ obstacle.wording ++ ": " ++ quoted path
  | .notText error => error.message

/-- Whether the system refuses the path, as opposed to the program refusing it or the content. -/
def Failure.isSystemError : Failure → Bool
  | .unreachable .nullByte _ => false
  | .unreachable _ _ => true
  | .notText _ => false

/-- The names on a path: empty ones and those that mean the folder itself are left out. -/
def names (path : String) : List String :=
  ((Text.pieces '/' path.toList).map String.ofList).filter fun name => name != "" && name != "."

/-- The slashes that a path begins with: two stay two, and more count as one. -/
def root (path : String) : String :=
  match path.toList with
  | '/' :: '/' :: '/' :: _ => "/"
  | '/' :: '/' :: _ => "//"
  | '/' :: _ => "/"
  | _ => ""

def normal (path : String) : String :=
  let text := root path ++ "/".intercalate (names path)
  if text = "" then "." else text

end Files

/-- Files and folders: what each path leads to. -/
structure Files where
  find : String → Except Files.Obstacle Files.Entry

namespace Files

def bytes (files : Files) (path : String) : Except Failure (List UInt8) :=
  match files.find path with
  | .ok (.file bytes) => .ok bytes
  | .ok .folder => .error (.unreachable .isFolder (normal path))
  | .error obstacle => .error (.unreachable obstacle (normal path))

def text (files : Files) (path : String) : Except Failure String :=
  (files.bytes path).bind fun bytes =>
    match Text.Utf8.decode bytes with
    | .ok text => .ok (Text.withLineFeeds text)
    | .error error => .error (.notText error)

end Files

end TypedRecords
