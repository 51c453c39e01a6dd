import Gamebook.IdSet
import Gamebook.Json

/-! The scenes that a manifest declares, and those it makes reachable by declaration. -/

namespace Gamebook

/-- The declared scenes of a manifest. -/
structure SceneIndex where
  -- Entries by identifier, in order of first declaration.
  entries : Table Json
  -- The starting scene and the targets of endings.
  seeded : IdSet
  -- Keys whose entry names another identifier, with that identifier.
  keyMismatches : List (String × String)

namespace SceneIndex

/-- The index that declares nothing. -/
def empty : SceneIndex := ⟨[], .empty, []⟩

/-- Whether a scene is declared. -/
def declares (id : String) (index : SceneIndex) : Bool := Table.has id index.entries

/-- Whether an entry says that nothing links to its scene on purpose. -/
def exempts (entry : Json) : Bool := (entry.get? "unreachable").any Json.isTrue

/-- Whether a declared scene is exempt from reachability. -/
def isExempt (id : String) (index : SceneIndex) : Bool :=
  (Table.get? id index.entries).any exempts

/-- The identifier of an entry: its own, or else the key it stands under. -/
def effectiveId (key : String) (entry : Json) : String :=
  ((entry.get? "id").bind Json.nonemptyText?).getD key

/-- The members of the scene index of a manifest that are objects. -/
def declarations (manifest : Json) : List (String × Json) :=
  ((manifest.get? "sceneIndex").getD .null).members.filter (·.2.isObject)

/-- The texts that seed the index: the starting scene, then the targets of endings. -/
def seeds (manifest : Json) : List String :=
  let start := (manifest.get? "startingScene").bind Json.nonemptyText?
  let endings := match manifest.get? "endings" with
    | some (.list endings) => endings
    | _ => []
  start.toList ++ endings.filterMap fun ending => (ending.get? "sceneId").bind Json.nonemptyText?

/-- The index of a manifest; members of the wrong type contribute nothing. -/
def ofManifest (manifest : Json) : SceneIndex :=
  let declared := declarations manifest
  { entries := Table.ofEntries (declared.map fun (key, entry) => (effectiveId key entry, entry))
    seeded := IdSet.ofList (seeds manifest)
    keyMismatches := (declared.map fun (key, entry) => (key, effectiveId key entry)).filter
      fun (key, id) => id ≠ key }

end SceneIndex

end Gamebook
