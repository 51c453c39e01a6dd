/-! Ordered tables: text keys with values, in the order in which the keys first came. -/

namespace Gamebook

/-- Entries in order; a lookup takes the first entry of a key. -/
abbrev Table (α : Type) := List (String × α)

namespace Table

variable {α : Type}

/-- The keys in order. -/
def keys (table : List (String × α)) : List String := table.map (·.1)

/-- The value stored under a key. -/
def get? (key : String) : List (String × α) → Option α
  | [] => none
  | (other, value) :: rest => if other = key then some value else get? key rest

/-- Whether a key is present. -/
def has (key : String) (table : List (String × α)) : Bool := (get? key table).isSome

/-- Stores a value under a key; a key already present keeps its place. -/
def put (key : String) (value : α) : List (String × α) → List (String × α)
  | [] => [(key, value)]
  | (other, old) :: rest =>
    if other = key then (other, value) :: rest else (other, old) :: put key value rest

/-- The table of a list of entries; a later entry of a key replaces the value of an earlier one. -/
def ofEntries (entries : List (String × α)) : List (String × α) :=
  entries.foldl (fun table entry => put entry.1 entry.2 table) []

end Table

end Gamebook
