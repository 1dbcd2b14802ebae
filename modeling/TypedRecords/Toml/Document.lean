import TypedRecords.Toml.Scalar

/-!
Documents of TOML: the tables that headers and dotted keys open.  A table is
opened by a header at most once, and arrays and tables written as values are not
added to afterwards.  Arrays and tables may be nested at any depth, as in JSON.
-/

set_option autoImplicit false

namespace TypedRecords.Toml

abbrev Key := List String

abbrev Edit := Fields → Option Fields

def splitLast? : List Value → Option (List Value × Value)
  | [] => none
  | [item] => some ([], item)
  | item :: rest => (splitLast? rest).map fun (before, last) => (item :: before, last)

/-- Edits the fields at the end of a key; tables that are missing on the way are made.  With
`throughLists` a list on the way stands for its last item. -/
def editAt (throughLists : Bool) (edit : Edit) : Key → Fields → Option Fields
  | [], fields => edit fields
  | part :: rest, fields =>
    match Fields.get? fields part with
    | none => (editAt throughLists edit rest []).map fun inner =>
        Named.put part (.object inner) fields
    | some (.object inner) =>
      (editAt throughLists edit rest inner).map fun inner => Named.put part (.object inner) fields
    | some (.list items) =>
      if throughLists then
        match splitLast? items with
        | some (before, .object inner) =>
          (editAt throughLists edit rest inner).map fun inner =>
            Named.put part (.list (before ++ [.object inner])) fields
        | _ => none
      else none
    | some _ => none

def addField (name : String) (value : Value) : Edit := fun fields =>
  if Fields.has fields name then none else some (Named.put name value fields)

/-- Adds an empty table to a list of tables, which is made if it is missing. -/
def addTable (name : String) : Edit := fun fields =>
  match Fields.get? fields name with
  | none => some (Named.put name (.list [.object []]) fields)
  | some (.list items) => some (Named.put name (.list (items ++ [.object []])) fields)
  | some _ => none

/-- A document while it is read.  `pending` are the tables that dotted keys have opened since the
last header; they count as opened from the next header on. -/
structure Draft where
  fields : Fields
  header : Key
  opened : List Key
  pending : List Key
  frozen : List Key

def Draft.empty : Draft := ⟨[], [], [], [], []⟩

def isFrozen (frozen : List Key) (key : Key) : Bool :=
  frozen.any fun path => path.isPrefixOf key

/-- Whether a value is not added to: this is so for tables and arrays written as values. -/
def isComposite : Value → Bool
  | .object _ => true
  | .list _ => true
  | _ => false

/-- Adds the value of a key in a table written as a value; `frozen` are the keys of composite
values before it. -/
def addToTable (frozen : List Key) (key : Key) (value : Value) (fields : Fields) :
    Option Fields :=
  match splitKey? key with
  | none => none
  | some (parents, name) =>
    if isFrozen frozen key then none else editAt false (addField name value) parents fields
where
  /-- A key as the path to its last part and that part. -/
  splitKey? (key : Key) : Option (Key × String) :=
    key.getLast?.map fun name => (key.dropLast, name)

mutual

def readValue : Nat → List Char → Except Failure (Value × List Char)
  | 0, _ => .error .malformed
  | fuel + 1, cs =>
    match readText? cs with
    | some result => result.map fun (text, rest) => (.text text, rest)
    | none =>
      match cs with
      | '[' :: rest => do
        match ← skipLines false rest with
        | ']' :: behind => return (.list [], behind)
        | inside =>
          let (items, rest) ← readItems fuel inside
          return (.list items, rest)
      | '\x7b' :: rest =>
        match skipSpace rest with
        | '\x7d' :: behind => .ok (.object [], behind)
        | inside =>
          (readPairs fuel [] [] inside).map fun (fields, rest) => (.object fields, rest)
      | cs => readScalar cs

/-- Reads the items of an array up to its closing bracket; a comma may stand before it. -/
def readItems : Nat → List Char → Except Failure (List Value × List Char)
  | 0, _ => .error .malformed
  | fuel + 1, cs => do
    let (item, rest) ← readValue fuel cs
    match ← skipLines false rest with
    | ']' :: behind => return ([item], behind)
    | ',' :: behind =>
      match ← skipLines false behind with
      | ']' :: behind => return ([item], behind)
      | more =>
        let (items, rest) ← readItems fuel more
        return (item :: items, rest)
    | _ => .error .malformed

def readPairs : Nat → List Key → Fields → List Char → Except Failure (Fields × List Char)
  | 0, _, _, _ => .error .malformed
  | fuel + 1, frozen, fields, cs => do
    let (key, rest) ← readKey cs.length cs
    match rest with
    | '=' :: behind =>
      let (value, rest) ← readValue fuel (skipSpace behind)
      match addToTable frozen key value fields with
      | none => .error .malformed
      | some fields =>
        match skipSpace rest with
        | '\x7d' :: behind => return (fields, behind)
        | ',' :: behind =>
          readPairs fuel (if isComposite value then key :: frozen else frozen) fields
            (skipSpace behind)
        | _ => .error .malformed
    | _ => .error .malformed

end

/-- The beginnings of a key behind a header that are shorter than the key. -/
def shorterKeys (header key : Key) : List Key :=
  (List.range (key.length - 1)).map fun n => header ++ key.take (n + 1)

def Draft.addPair (draft : Draft) (key : Key) (value : Value) : Option Draft :=
  match key.getLast? with
  | none => none
  | some name =>
    let parents := draft.header ++ key.dropLast
    let tables := shorterKeys draft.header key
    if tables.any draft.opened.contains ∨ isFrozen draft.frozen parents then none
    else
      (editAt true (addField name value) parents draft.fields).map fun fields =>
        { draft with
          fields := fields
          pending := tables ++ draft.pending
          frozen := if isComposite value then (draft.header ++ key) :: draft.frozen
            else draft.frozen }

def Draft.settle (draft : Draft) : Draft :=
  { draft with opened := draft.pending ++ draft.opened, pending := [] }

def Draft.openTable (draft : Draft) (key : Key) : Option Draft :=
  if draft.opened.contains key ∨ isFrozen draft.frozen key then none
  else
    (editAt true some key draft.fields).map fun fields =>
      { draft with fields := fields, header := key, opened := key :: draft.opened }

/-- Opens a further table of a list with a header; what was known of the tables below it is
forgotten. -/
def Draft.openItem (draft : Draft) (key : Key) : Option Draft :=
  match key.getLast? with
  | none => none
  | some name =>
    if isFrozen draft.frozen key then none
    else
      let outside := fun (path : Key) => !key.isPrefixOf path
      (editAt true (addTable name) key.dropLast draft.fields).map fun fields =>
        { draft with
          fields := fields
          header := key
          opened := key :: draft.opened.filter outside
          frozen := draft.frozen.filter outside }

def need {α : Type} : Option α → Except Failure α
  | none => .error .malformed
  | some a => .ok a

def readPair (draft : Draft) (cs : List Char) : Except Failure (Draft × List Char) := do
  let (key, rest) ← readKey cs.length cs
  match rest with
  | '=' :: behind =>
    let (value, rest) ← readValue (2 * cs.length + 2) (skipSpace behind)
    return (← need (draft.addPair key value), rest)
  | _ => .error .malformed

def readHeader (draft : Draft) (cs : List Char) : Except Failure (Draft × List Char) := do
  let draft := draft.settle
  match cs with
  | '[' :: rest =>
    let (key, rest) ← readKey rest.length (skipSpace rest)
    let draft ← need (draft.openItem key)
    match rest with
    | ']' :: ']' :: behind => return (draft, behind)
    | _ => .error .malformed
  | rest =>
    let (key, rest) ← readKey rest.length (skipSpace rest)
    let draft ← need (draft.openTable key)
    match rest with
    | ']' :: behind => return (draft, behind)
    | _ => .error .malformed

def readStatement (draft : Draft) : List Char → Except Failure (Draft × List Char)
  | [] => .ok (draft, [])
  | c :: rest =>
    if c = '[' then readHeader draft rest
    else if c = '#' then .ok (draft, c :: rest)
    else if isBareKeyChar c ∨ c = '"' ∨ c = '\x27' then readPair draft (c :: rest)
    else .error .malformed

/-- Reads the statements that are left; `fuel` bounds the number of lines. -/
def readStatements : Nat → Draft → List Char → Except Failure Fields
  | 0, _, _ => .error .malformed
  | fuel + 1, draft, cs =>
    match skipSpace cs with
    | [] => .ok draft.fields
    | '\n' :: rest => readStatements fuel draft rest
    | cs => do
      let (draft, rest) ← readStatement draft cs
      match ← skipComment (skipSpace rest) with
      | [] => return draft.fields
      | '\n' :: rest => readStatements fuel draft rest
      | _ => .error .malformed

def read (text : String) : Except Failure Fields :=
  readStatements (text.length + 1) Draft.empty text.toList

end TypedRecords.Toml
