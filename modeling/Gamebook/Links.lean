import Gamebook.Reference.Scene

/-! The graph of transitions between scenes. -/

namespace Gamebook

/-- For each scene of a graph, the scenes that it leads to. -/
abbrev Links := Table (List String)

namespace Links

/-- The successors of a scene; one that is not a node of the graph has none. -/
def successors (links : Links) (id : String) : List String := (Table.get? id links).getD []

/-- The graph of loaded scenes; further nodes come first and lead nowhere by themselves. -/
def ofScenes (scenes : Table Json) (nodes : List String) (following : Following) : Links :=
  scenes.foldl (fun links (id, scene) => Table.put id (sceneReferences following scene).ids links)
    (Table.ofEntries (nodes.map (·, [])))

/-- The number of transitions written in a graph. -/
def edgeCount (links : Links) : Nat :=
  links.foldr (fun (_, targets) total => targets.length + total) 0

/-- The sources that lead to each scene other than themselves, by target. -/
def incoming (links : Links) : Table IdSet :=
  links.foldl (fun table (source, targets) =>
    targets.foldl (fun table target =>
      if target = source then table
      else Table.put target (((Table.get? target table).getD .empty).insert source) table) table) []

/-- The graph turned around: under each scene that another one leads to, those that do, in order. -/
def inverse (links : Links) : Links :=
  links.incoming.map fun (target, sources) => (target, sources.ids)

end Links

end Gamebook
