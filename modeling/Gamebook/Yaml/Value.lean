import Gamebook.Yaml.Merge

/-! The value of a tree, and the faults in it.

A tree is worked through in rounds. A round gives values to scalars and keys, and leaves the items
of collections that are values to the next round. So a fault in a value may be met before one that
stands earlier in the text but deeper. -/

namespace Gamebook.Yaml

/-- The value of a tree, with the faults that each round meets. -/
structure Worked where
  node : Node
  faults : List (List Fault)

namespace Worked

/-- The faults of two parts, round by round. -/
def together : List (List Fault) → List (List Fault) → List (List Fault)
  | [], faults => faults
  | faults, [] => faults
  | first :: rest, second :: further => (first ++ second) :: together rest further

/-- The faults of a collection's parts: met at once where that is wanted, or from the next round
on. -/
def postponed (atOnce : Bool) (faults : List (List Fault)) : List (List Fault) :=
  if atOnce then [faults.flatten] else [] :: faults

/-- The collections in a list that is a key, which cannot be compared. -/
def keyHoldings (items : List Node) : List Fault :=
  items.filterMap fun
    | .list _ => some (.keyHolds .list)
    | .table _ => some (.keyHolds .table)
    | _ => none

/-- What is wrong with a key by itself before its value is looked at. -/
def keyFaults : Node → List Fault
  | .table _ => [.malformed]
  | _ => []

/-- What is wrong with a key once its value is known: it may hold collections, or repeat a key among
the entries before it. -/
def entryFaults (unique : Bool) (entries : List (Node × Node)) (key : Node) (writable : Bool) :
    List Fault :=
  let holdings := match key with
    | .list items => keyHoldings items
    | _ => []
  if !holdings.isEmpty then holdings
  else if unique && Node.hasKey key entries then
    [if writable && key.isWritable then .malformed else .integerUnwritten]
  else []

/-- Whether the report of a repeated key can show a value: one that is left to the next round is
shown as if it were empty. -/
def isShowable (atOnce : Bool) : Node → Bool
  | .list items => !atOnce || (Node.list items).isWritable
  | .table entries => !atOnce || (Node.table entries).isWritable
  | node => node.isWritable

/-- Whether the report of a repeated key can show the value it has, and the one it had before. -/
def areShowable (atOnce : Bool) (entries : List (Node × Node)) (key value : Node) : Bool :=
  isShowable atOnce value && entries.all fun entry =>
    !Node.sameKey key entry.1 || isShowable atOnce entry.2

mutual

/-- The value of a tree. Keys are worked through at once. -/
def ofMerged (atOnce : Bool) : MergedTree → Worked
  | .scalar (.ok node) => ⟨node, []⟩
  | .scalar (.error fault) => ⟨.null, [[fault]]⟩
  | .list items =>
    let (nodes, faults) := ofItems atOnce items
    ⟨.list nodes, postponed atOnce faults⟩
  | .table misused merged own =>
    let unique := merged.isEmpty
    let (entries, first) := ofEntries atOnce unique [] merged
    let (entries, second) := ofEntries atOnce unique entries own
    let misuse := if misused then [[.malformed]] else []
    ⟨.table entries, postponed atOnce (together misuse (together first second))⟩

/-- The values of the items of a list, with their faults. -/
def ofItems (atOnce : Bool) : List MergedTree → List Node × List (List Fault)
  | [] => ([], [])
  | item :: rest =>
    let worked := ofMerged atOnce item
    let (nodes, faults) := ofItems atOnce rest
    (worked.node :: nodes, together worked.faults faults)

/-- The entries of a table after the ones before them, with their faults. -/
def ofEntries (atOnce unique : Bool) (entries : List (Node × Node)) :
    List (MergedTree × MergedTree) → List (Node × Node) × List (List Fault)
  | [] => (entries, [])
  | (key, value) :: rest =>
    let key := ofMerged true key
    let value := ofMerged atOnce value
    let showable := areShowable atOnce entries key.node value.node
    let own := together [key.faults.flatten ++ keyFaults key.node]
      (together value.faults [entryFaults unique entries key.node showable])
    let (entries, further) := ofEntries atOnce unique (Node.put key.node value.node entries) rest
    (entries, together own further)

end

end Worked

/-- The value of a tree, or the first fault that is met. -/
def Tree.node (tree : Tree) : Except Fault Node :=
  let worked := Worked.ofMerged false (.ofTree tree)
  match worked.faults.flatten with
  | [] => .ok worked.node
  | fault :: _ => .error fault

end Gamebook.Yaml
