import Gamebook.SceneIndex
import Gamebook.Links.Search
import Gamebook.Links.Cycle

/-! Which declared scenes some chain of transitions from the start leads to. -/

namespace Gamebook

/-- Why no chain of transitions leads to a scene. -/
inductive UnreachableReason where
  | noIncomingLinks
  | disconnected
  deriving DecidableEq, Repr

/-- The word for a reason. -/
def UnreachableReason.name : UnreachableReason → String
  | noIncomingLinks => "no-incoming-links"
  | disconnected => "disconnected"

/-- A declared scene that is not reached, with the other scenes that lead to it. -/
structure UnreachableScene where
  id : String
  reason : UnreachableReason
  sources : List String
  deriving DecidableEq, Repr

/-- The reachability of the declared scenes of a corpus. -/
structure Reachability where
  start : Option String
  declaredCount : Nat
  reachable : IdSet
  unreachable : List UnreachableScene
  exempt : List String
  cycles : List (List String)

namespace Reachability

/-- The greatest number of transitions followed by default. -/
def defaultMaxDepth : Int := 1000

/-- Whether there is a start from which every declared scene is reached. -/
def isValid (report : Reachability) : Bool := report.start.isSome && report.unreachable.isEmpty

/-- The report of a scene that is not reached. -/
def describe (incoming : Table IdSet) (id : String) : UnreachableScene :=
  let sources := ((Table.get? id incoming).getD .empty).ids
  ⟨id, if sources.isEmpty then .noIncomingLinks else .disconnected, sources⟩

/-- Follows the transitions of loaded scenes from a start. -/
def ofCorpus (index : SceneIndex) (start : Option String) (scenes : Table Json) (maxDepth : Int)
    (following : Following) : Reachability :=
  let links := Links.ofScenes scenes (Table.keys index.entries) following
  let reachable := links.reachable start maxDepth
  let incoming := links.incoming
  let unreached := (sortIds (Table.keys index.entries)).filter fun id => !reachable.contains id
  { start := start.filter (· ≠ "")
    declaredCount := index.entries.length
    reachable
    unreachable := (unreached.filter fun id => !index.isExempt id).map (describe incoming)
    exempt := unreached.filter index.isExempt
    cycles := links.cycles }

/-- A scene that is not reached, as a document. -/
def unreachableDocument (scene : UnreachableScene) : Json :=
  .object [("sceneId", .text scene.id), ("reason", .text scene.reason.name),
    ("fromScenes", .list (scene.sources.map .text))]

/-- The members of a report document. -/
def documentMembers (report : Reachability) : List (String × Json) :=
  [("valid", .bool report.isValid),
    ("startingScene", (report.start.map Json.text).getD .null),
    ("totalScenes", .int report.declaredCount),
    ("reachableScenes", .list (report.reachable.ids.map .text)),
    ("unreachableScenes", .list (report.unreachable.map unreachableDocument)),
    ("exemptScenes", .list (report.exempt.map .text)),
    ("cycles", .list (report.cycles.map fun cycle => .list (cycle.map .text)))]

end Reachability

end Gamebook
