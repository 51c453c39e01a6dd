import Gamebook.Links

/-! Cycles of a graph, found by depth-first search. -/

namespace Gamebook

/-- How far a depth-first search is with a scene. -/
inductive Mark where
  | unseen
  | onPath
  | finished
  deriving DecidableEq, Repr

/-- A scene on the path of a search, with the successors that are still to be examined. -/
structure Frame where
  scene : String
  pending : List String
  deriving DecidableEq, Repr

/-- A depth-first search under way. -/
structure CycleSearch where
  -- Scenes from which a search may still have to start.
  roots : List String
  marks : Table Mark
  -- The path, its deepest scene first.
  frames : List Frame
  -- The cycles found so far, the latest first.
  cycles : List (List String)

namespace CycleSearch

/-- A search that has seen nothing. -/
def start (links : Links) : CycleSearch :=
  ⟨sortIds (Table.keys links), links.map fun (id, _) => (id, .unseen), [], []⟩

/-- The scenes of the path, the deepest first. -/
def path (search : CycleSearch) : List String := search.frames.map (·.scene)

/-- The part of a path from a scene that is entered again to the deepest one. -/
def closedBy (id : String) (path : List String) : List String :=
  (path.takeWhile (· ≠ id) ++ [id]).reverse

/-- Enters a scene. -/
def enter (links : Links) (id : String) (search : CycleSearch) : CycleSearch :=
  { search with
    marks := Table.put id .onPath search.marks
    frames := ⟨id, links.successors id⟩ :: search.frames }

/-- One move: to the next root, back from a scene whose successors are done, or along a link.
There is none when every root is done. -/
def step (links : Links) (search : CycleSearch) : Option CycleSearch :=
  match search.frames with
  | [] =>
    match search.roots with
    | [] => none
    | root :: roots =>
      let search := { search with roots }
      some (if Table.get? root search.marks = some .unseen then search.enter links root else search)
  | ⟨scene, []⟩ :: frames =>
    some { search with marks := Table.put scene .finished search.marks, frames }
  | ⟨scene, successor :: pending⟩ :: frames =>
    let search := { search with frames := ⟨scene, pending⟩ :: frames }
    match (Table.get? successor search.marks : Option Mark) with
    | some .onPath => some { search with cycles := closedBy successor search.path :: search.cycles }
    | some .unseen => some (search.enter links successor)
    | _ => some search

/-- Makes up to `fuel` moves. -/
def run (links : Links) : Nat → CycleSearch → CycleSearch
  | 0, search => search
  | fuel + 1, search =>
    match search.step links with
    | none => search
    | some next => run links fuel next

end CycleSearch

namespace Links

/-- The cycles of a graph, one for each link back to a scene of the path that led to it. -/
def cycles (links : Links) : List (List String) :=
  -- Each scene is a root once and is left once, and each link is examined once.
  ((CycleSearch.start links).run links (2 * links.length + links.edgeCount + 1)).cycles.reverse

end Links

end Gamebook
