import Gamebook.Yaml.Plain
import Gamebook.Yaml.Tree

/-! Trees whose scalars have values, and whose tables hold what their merge keys bring in. -/

namespace Gamebook.Yaml

/-- A tree in which each scalar has a value, or a fault in place of one. -/
inductive MergedTree where
  | scalar (value : Except Fault Node)
  | list (items : List MergedTree)
  -- The entries brought in come before a table's own, whose keys they may repeat. A table may
  -- misuse its merge keys.
  | table (misused : Bool) (merged own : List (MergedTree × MergedTree))

namespace MergedTree

/-- The entries that a table brings into another one, and whether it misuses its merge keys; there
are none of other trees. -/
def tableEntries? : MergedTree → Option (Bool × List (MergedTree × MergedTree))
  | .table misused merged own => some (misused, merged ++ own)
  | _ => none

/-- What the value of a merge key brings in: a table, or the tables of a list from its end on. -/
def broughtIn : MergedTree → Bool × List (MergedTree × MergedTree)
  | .list items =>
    let tables := items.map tableEntries?
    (tables.any fun table => table.all (·.1), (tables.reverse.map fun table =>
      (table.map (·.2)).getD []).flatten)
  | tree => (tree.tableEntries?).getD (true, [])

/-- A scalar by itself: a word for keys has no value. -/
def scalarValue (text : String) (plain : Bool) : Except Fault Node :=
  if plain then do
    match ← Meaning.ofPlain text with
    | .value node => return node
    | .merge | .unnamed => .error .malformed
  else .ok (.text text)

/-- Whether a tree is the merge key. -/
def isMergeKey : Tree → Bool
  | .scalar text plain => plain && text == "<<"
  | _ => false

/-- Whether a tree is the key for a value without a name. -/
def isUnnamedKey : Tree → Bool
  | .scalar text plain => plain && text == "="
  | _ => false

/-- A table with one more entry before the ones it has. -/
structure Entries where
  misused : Bool
  merged : List (MergedTree × MergedTree)
  own : List (MergedTree × MergedTree)

/-- Entries with what a merge key brings in; only one of them may bring in anything. -/
def Entries.merge (value : MergedTree) (entries : Entries) : Entries :=
  let (misused, brought) := value.broughtIn
  { entries with
    misused := misused || !entries.merged.isEmpty || entries.misused
    merged := entries.merged ++ brought }

mutual

/-- A tree with the values of its scalars. -/
def ofTree : Tree → MergedTree
  | .scalar text plain => .scalar (scalarValue text plain)
  | .list items => .list (ofItems items)
  | .table entries =>
    let entries := ofEntries ⟨false, [], []⟩ entries
    .table entries.misused entries.merged entries.own

/-- The items of a list with the values of their scalars. -/
def ofItems : List Tree → List MergedTree
  | [] => []
  | item :: rest => ofTree item :: ofItems rest

/-- The entries of a table after the ones before them. -/
def ofEntries (entries : Entries) : List (Tree × Tree) → Entries
  | [] => entries
  | (key, value) :: rest =>
    let value := ofTree value
    if isMergeKey key then ofEntries (entries.merge value) rest
    else
      let key := if isUnnamedKey key then .scalar (.ok (.text "=")) else ofTree key
      ofEntries { entries with own := entries.own ++ [(key, value)] } rest

end

end MergedTree

end Gamebook.Yaml
