/-! Entries under keys in the order in which the keys first came. Putting a value under a key that
is there keeps the place and replaces the value. -/

namespace DataLayer

/-- Values under text keys, in the order of the first use of each key. -/
structure Keyed (α : Type) where
  entries : List (String × α) := []
deriving Repr

namespace Keyed

variable {α : Type}

/-- Replaces the value under a key, or adds the key at the end. -/
def putEntry (key : String) (value : α) : List (String × α) → List (String × α)
  | [] => [(key, value)]
  | entry :: rest =>
    if entry.1 = key then (key, value) :: rest else entry :: putEntry key value rest

/-- Puts a value under a key. -/
def put (keyed : Keyed α) (key : String) (value : α) : Keyed α :=
  ⟨putEntry key value keyed.entries⟩

/-- Puts the values of a list under their keys, one after the other. -/
def ofList (entries : List (String × α)) : Keyed α :=
  entries.foldl (fun keyed entry => keyed.put entry.1 entry.2) {}

/-- The value under a key. -/
def get? (keyed : Keyed α) (key : String) : Option α := keyed.entries.lookup key

/-- The keys in order. -/
def keys (keyed : Keyed α) : List String := keyed.entries.map (·.1)

/-- The values in order. -/
def values (keyed : Keyed α) : List α := keyed.entries.map (·.2)

/-- The number of keys. -/
def size (keyed : Keyed α) : Nat := keyed.entries.length

end Keyed

end DataLayer
