import Gamebook.Story.Scene

/-! Manifests: the start, the endings and the declared scenes of a story. -/

namespace Gamebook.Story

/-- What names an ending. -/
inductive EndingId where
  | number (value : Int)
  | word (value : String)
  deriving DecidableEq, Repr

/-- An ending. -/
structure Ending where
  id : Option EndingId
  scene : Option String
  title : Option String
  extra : List (String × Json)

/-- A declared scene. -/
structure IndexEntry where
  id : Option String
  unreachable : Bool
  extra : List (String × Json)

/-- A manifest. -/
structure Manifest where
  start : String
  endings : List Ending
  index : Table IndexEntry
  extra : List (String × Json)

namespace EndingId

/-- What names an ending: a text as it is, or else an integer. -/
def read (value : Json) : Checked EndingId :=
  match value.text?, readInteger value with
  | some name, _ => .accepted (.word name)
  | none, .accepted value => .accepted (.number value)
  | none, .refused issues =>
    .refused (issues.map (Issue.under (.key "int")) ++ [⟨[.key "str"], .notText⟩])

/-- What names an ending, as a document. -/
def write : EndingId → Json
  | number value => .int value
  | word value => .text value

end EndingId

namespace Ending

/-- The field of the scene of an ending. -/
def sceneField : Field := ⟨"sceneId", "scene_id"⟩

/-- An ending. -/
def read : Json → Checked Ending :=
  readShape "Ending" fun members =>
    (fun id scene title =>
        ⟨id, scene, title, extras [idField, sceneField, titleField] members⟩)
      <$> idField.optional none (orNull EndingId.read) members
      <*> sceneField.optional none (orNull readName) members
      <*> titleField.optional none (orNull readText) members

/-- An ending as a document. -/
def write (ending : Ending) : Json :=
  .object ([("id", writtenOrNull EndingId.write ending.id),
    ("sceneId", writtenOrNull .text ending.scene),
    ("title", writtenOrNull .text ending.title)] ++ ending.extra)

end Ending

namespace IndexEntry

/-- The field that exempts a scene from reachability. -/
def unreachableField : Field := .named "unreachable"

/-- A declared scene. -/
def read : Json → Checked IndexEntry :=
  readShape "SceneIndexEntry" fun members =>
    (fun id unreachable => ⟨id, unreachable, extras [idField, unreachableField] members⟩)
      <$> idField.optional none (orNull readName) members
      <*> unreachableField.optional false readBool members

/-- A declared scene as a document. -/
def write (entry : IndexEntry) : Json :=
  .object ([("id", writtenOrNull .text entry.id), ("unreachable", .bool entry.unreachable)]
    ++ entry.extra)

end IndexEntry

namespace Manifest

/-- The field of the starting scene. -/
def startField : Field := ⟨"startingScene", "starting_scene"⟩
/-- The field of the endings. -/
def endingsField : Field := .named "endings"
/-- The field of the declared scenes. -/
def indexField : Field := ⟨"sceneIndex", "scene_index"⟩

/-- A manifest. -/
def read : Json → Checked Manifest :=
  readShape "Manifest" fun members =>
    (fun start endings index =>
        ⟨start, endings, index, extras [startField, endingsField, indexField] members⟩)
      <$> startField.required readName members
      <*> endingsField.optional [] (readList Ending.read) members
      <*> indexField.optional [] (readTable IndexEntry.read) members

/-- A manifest as a document. -/
def write (manifest : Manifest) : Json :=
  .object ([("startingScene", .text manifest.start),
    ("endings", .list (manifest.endings.map Ending.write)),
    ("sceneIndex", .object (manifest.index.map fun (key, entry) => (key, entry.write)))]
    ++ manifest.extra)

end Manifest

end Gamebook.Story
