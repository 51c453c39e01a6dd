import Gamebook.Json.Number
import Gamebook.Json.Shown
import Gamebook.Text.Integer
import Gamebook.Yaml.Timestamp

/-! Values of YAML texts; every JSON value is one of them. -/

namespace Gamebook.Yaml

/-- A value of a YAML text, where a table may have keys that are no texts. -/
inductive Node where
  | null
  | bool (value : Bool)
  | int (value : Int)
  | real (value : Binary64)
  | text (value : String)
  | time (value : Timestamp)
  | list (items : List Node)
  | table (entries : List (Node × Node))
  deriving Repr, Inhabited

namespace Node

mutual

/-- A JSON value as a node. -/
def ofJson : Json → Node
  | .null => .null
  | .bool value => .bool value
  | .int value => .int value
  | .real value => .real value
  | .text value => .text value
  | .list items => .list (ofItems items)
  | .object members => .table (ofMembers members)

/-- The items of a JSON list as nodes. -/
def ofItems : List Json → List Node
  | [] => []
  | item :: rest => ofJson item :: ofItems rest

/-- The members of a JSON object as entries. -/
def ofMembers : List (String × Json) → List (Node × Node)
  | [] => []
  | (key, value) :: rest => (.text key, ofJson value) :: ofMembers rest

end

/-- The entries of a table whose keys are texts. -/
def textEntries (entries : List (Node × Node)) : Table Node :=
  entries.filterMap fun (key, value) => match key with
    | .text name => some (name, value)
    | _ => none

/-- A scalar as keys are compared: a switch counts as a number. -/
def scalarKey? : Node → Option Json
  | .null => some .null
  | .bool value => some (.int (if value then 1 else 0))
  | .int value => some (.int value)
  | .real value => some (.real value)
  | .text value => some (.text value)
  | .time _ | .list _ | .table _ => none

mutual

/-- Whether two nodes are the same key. Not-a-number is the same key as itself. -/
def sameKey : Node → Node → Bool
  | .real .nan, .real .nan => true
  | .time a, .time b => a.same b
  | .list as, .list bs => sameKeys as bs
  | a, b => match a.scalarKey?, b.scalarKey? with
    | some a, some b => Json.same a b
    | _, _ => false

/-- Whether two lists hold the same keys, place by place. -/
def sameKeys : List Node → List Node → Bool
  | [], [] => true
  | a :: as, b :: bs => sameKey a b && sameKeys as bs
  | _, _ => false

end

/-- Whether entries have a key. -/
def hasKey (key : Node) (entries : List (Node × Node)) : Bool :=
  entries.any fun entry => sameKey key entry.1

/-- Entries with a value under a key; a key already present keeps its place and its spelling. -/
def put (key value : Node) : List (Node × Node) → List (Node × Node)
  | [] => [(key, value)]
  | (other, old) :: rest =>
    if sameKey key other then (other, value) :: rest else (other, old) :: put key value rest

/-- The brackets of a list that is a key; one item alone is followed by a comma. -/
def bracketed (shown : List String) : String :=
  match shown with
  | [item] => "(" ++ item ++ ",)"
  | shown => "(" ++ String.intercalate ", " shown ++ ")"

mutual

/-- A node inside a message: text in quotes, lists and tables in brackets. -/
def shown : Node → String
  | .null => Json.null.shown
  | .bool value => (Json.bool value).shown
  | .int value => (Json.int value).shown
  | .real value => (Json.real value).shown
  | .text value => (Json.text value).shown
  | .time value => value.shown
  | .list items => "[" ++ String.intercalate ", " (shownItems items) ++ "]"
  | .table entries => "\x7b" ++ String.intercalate ", " (shownEntries entries) ++ "\x7d"

/-- The items of a list as a message shows them. -/
def shownItems : List Node → List String
  | [] => []
  | item :: rest => shown item :: shownItems rest

/-- The entries of a table as a message shows them. -/
def shownEntries : List (Node × Node) → List String
  | [] => []
  | (.list items, value) :: rest =>
    (bracketed (shownItems items) ++ ": " ++ shown value) :: shownEntries rest
  | (key, value) :: rest => (shown key ++ ": " ++ shown value) :: shownEntries rest

end

/-- A node as plain text: as messages show it, but without quotes around bare text. -/
def plain : Node → String
  | .text value => value
  | .time value => value.plain
  | node => shown node

mutual

/-- Whether a node can be written out: no integer in it has too many digits. -/
def isWritable : Node → Bool
  | .int value => (toString value.natAbs).length ≤ Text.integerDigitLimit
  | .list items => areWritable items
  | .table entries => entriesWritable entries
  | _ => true

/-- Whether every item of a list can be written out. -/
def areWritable : List Node → Bool
  | [] => true
  | item :: rest => isWritable item && areWritable rest

/-- Whether every key and value can be written out. -/
def entriesWritable : List (Node × Node) → Bool
  | [] => true
  | (key, value) :: rest => isWritable key && isWritable value && entriesWritable rest

end

end Node

end Gamebook.Yaml
