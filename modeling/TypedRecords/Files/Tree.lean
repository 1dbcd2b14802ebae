import TypedRecords.Files.Basic

/-!
Files from a list of entries: a path leads to an entry step by step, folder by
folder.
-/

set_option autoImplicit false

namespace TypedRecords.Files

abbrev Entries := List (String × Entry)

namespace Entries

/-- The entry of names; a folder is there as soon as something is in it. -/
def entry? (entries : Entries) (path : List String) : Option Entry :=
  if path.isEmpty then some .folder
  else
    match entries.find? fun entry => names entry.1 == path with
    | some entry => some entry.2
    | none =>
      if entries.any fun entry => path.isPrefixOf (names entry.1) then some .folder else none

def longestName : Nat := 255

/-- Goes along names from a folder; the folder at hand is its own parent. -/
def walk (entries : Entries) : List String → List String → Except Obstacle Entry
  | _, [] => .ok .folder
  | here, name :: rest =>
    if longestName < name.utf8ByteSize then .error .longName
    else
      let there := if name = ".." then here.dropLast else here ++ [name]
      match entry? entries there, rest with
      | some .folder, rest => walk entries there rest
      | some (.file bytes), [] => .ok (.file bytes)
      | some (.file _), _ :: _ => .error .notFolder
      | none, _ => .error .missing

/-- What a path leads to; of paths from the root only the root is known. -/
def find (entries : Entries) (path : String) : Except Obstacle Entry :=
  if path.toList.contains (Char.ofNat 0) then .error .nullByte
  else if root path ≠ "" ∧ names path ≠ [] then .error .missing
  else walk entries [] (names path)

end Entries

def ofEntries (entries : Entries) : Files :=
  ⟨Entries.find entries⟩

def none : Files :=
  ofEntries []

end TypedRecords.Files
