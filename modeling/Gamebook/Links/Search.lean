import Gamebook.Links

/-! Breadth-first search from one scene, with a limit on the number of transitions. -/

namespace Gamebook

/-- A search under way. -/
structure Search where
  -- The number of transitions to each scene that has been seen.
  depths : Table Nat
  -- Seen scenes that wait for their turn, in order of depth.
  queue : List String
  -- Scenes that had their turn below the limit.
  reached : IdSet

namespace Search

/-- A search that has seen only its start. -/
def start (id : String) : Search := ⟨[(id, 0)], [id], .empty⟩

/-- Records a successor that has not been seen, and lets it wait for its turn. -/
def discover (depth : Nat) (search : Search) (successor : String) : Search :=
  if Table.has successor search.depths then search
  else { search with
    depths := Table.put successor depth search.depths
    queue := search.queue ++ [successor] }

/-- The turn of the first waiting scene, or nothing when no scene waits.
At the limit a scene is neither counted nor followed. -/
def step (links : Links) (limit : Int) (search : Search) : Option Search :=
  match search.queue with
  | [] => none
  | current :: waiting =>
    let depth := (Table.get? current search.depths).getD 0
    let search := { search with queue := waiting }
    if limit ≤ depth then some search
    else some ((links.successors current).foldl (discover (depth + 1))
      { search with reached := search.reached.insert current })

/-- Takes up to `fuel` turns. -/
def run (links : Links) (limit : Int) : Nat → Search → Search
  | 0, search => search
  | fuel + 1, search =>
    match search.step links limit with
    | none => search
    | some next => run links limit fuel next

end Search

namespace Links

/-- The scenes found within fewer than `limit` transitions from a start. -/
def reachable (links : Links) (start : Option String) (limit : Int) : IdSet :=
  match start with
  | none => .empty
  | some id =>
    if id = "" then .empty
    -- Beyond the start, each transition lets at most one scene wait.
    else ((Search.start id).run links limit (links.edgeCount + 1)).reached

end Links

end Gamebook
