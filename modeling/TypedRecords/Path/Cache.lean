import TypedRecords.Path.Lookup

/-!
A bounded store of parsed paths.  When it is full the path that was touched
longest ago goes first; storing a path and finding it touch it.
-/

set_option autoImplicit false

namespace TypedRecords.Path

structure Entry where
  path : String
  segments : List String
  deriving DecidableEq

/-- The store: its entries from the one touched longest ago to the latest, and the numbers of
queries that found their path and that did not. -/
structure Cache where
  capacity : Nat
  entries : List Entry
  hits : Nat
  misses : Nat
  deriving DecidableEq

namespace Cache

def empty (capacity : Nat) : Cache :=
  { capacity, entries := [], hits := 0, misses := 0 }

def defaultCapacity : Nat := 256

/-- The capacity that a size stands for, or nothing if the size is negative. -/
def capacity? (size : Int) : Option Nat :=
  if 0 ≤ size then some size.toNat else none

def negativeSizeMessage : String := "maxsize must be >= 0"

def size (cache : Cache) : Nat :=
  cache.entries.length

def holds (cache : Cache) (path : String) : Bool :=
  cache.entries.any fun entry => entry.path == path

def others (path : String) (entries : List Entry) : List Entry :=
  entries.filter fun entry => entry.path != path

def get (cache : Cache) (path : String) : Option (List String) × Cache :=
  match cache.entries.find? fun entry => entry.path == path with
  | none => (none, { cache with misses := cache.misses + 1 })
  | some entry =>
    (some entry.segments,
      { cache with entries := others path cache.entries ++ [entry], hits := cache.hits + 1 })

def trim (capacity : Nat) (entries : List Entry) : List Entry :=
  entries.drop (entries.length - capacity)

/-- Stores a path, and lets go of the one touched longest ago if there is no room. -/
def put (cache : Cache) (path : String) (segments : List String) : Cache :=
  { cache with
    entries := trim cache.capacity (others path cache.entries ++ [⟨path, segments⟩]) }

def clear (cache : Cache) : Cache :=
  empty cache.capacity

/-- The segments of a path, taken from the store if it is there and else stored. -/
def parse (cache : Cache) (path : String) : List String × Cache :=
  match cache.get path with
  | (some found, cache) => (found, cache)
  | (none, cache) => (segments path, cache.put path (segments path))

/-- The part of a value that a path leads to, with the path taken from the store. -/
def lookup (cache : Cache) (value : Value) (path : String) : Except LongIndex Value × Cache :=
  let (parts, cache) := cache.parse path
  (follow value parts, cache)

end Cache

end TypedRecords.Path
