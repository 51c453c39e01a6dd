import Gamebook.SceneIndex

/-! References of a whole corpus against the scenes that are declared or loaded. -/

namespace Gamebook

/-- What the references of a corpus say about its scenes. -/
structure CrossReference where
  -- Every scene that is seeded or referred to.
  referenced : IdSet
  -- Referenced scenes that are neither declared nor loaded.
  missing : IdSet
  -- Declared scenes that nothing refers to and that are not exempt.
  unreachable : IdSet

namespace CrossReference

/-- No reference at all. -/
def empty : CrossReference := ⟨.empty, .empty, .empty⟩

/-- Whether every reference resolves. -/
def isConsistent (found : CrossReference) : Bool := found.missing.isEmpty

/-- Compares the references of a corpus with its declared and its loaded scenes. -/
def ofCorpus (declared : Table Json) (loaded : List String) (references : List IdSet)
    (seeded : IdSet) : CrossReference :=
  let referenced := references.foldl IdSet.union seeded
  { referenced
    missing := referenced.filter fun id => !Table.has id declared && !loaded.contains id
    unreachable := IdSet.ofList ((declared.filter fun (id, entry) =>
      !referenced.contains id && !SceneIndex.exempts entry).map (·.1)) }

end CrossReference

end Gamebook
