import Gamebook.Corpus
import Gamebook.Fault

/-! Loading the manifest and the scenes of a corpus. -/

namespace Gamebook

/-- Why a run ends without a result. -/
inductive RunFailure where
  -- The schemas or the manifest cannot be loaded.
  | cannotValidate (path : Path) (reason : String)
  | ended (fault : Fault)

/-- The report of a run that cannot start. -/
def cannotValidateMessage (path : Path) (reason : String) : String :=
  s!"Cannot validate content: {path.text}: {reason}"

/-- Scene documents by identifier, with their files, and the files that could not be read. -/
structure LoadedScenes where
  scenes : Table Json
  sources : Table Path
  failures : List (Path × String)

namespace Corpus

/-- The manifest of a corpus. -/
def readManifest (corpus : Corpus) (disk : Disk) : Except RunFailure Json :=
  match disk.readJson corpus.manifestPath with
  | .ok manifest => .ok manifest
  | .error .notFound => .error (.cannotValidate corpus.manifestPath "Manifest not found")
  | .error (.unparsable reason) => .error (.cannotValidate corpus.manifestPath reason)
  | .error (.integerTooLong digits) => .error (.ended (.integerTooLong digits))

/-- The identifier under which a scene is loaded: its own, or else the stem of its file. -/
def loadingId (path : Path) (scene : Json) : String := (declaredId? scene).getD path.stem

/-- Adds a scene, unless its identifier is taken. -/
def addScene (loaded : LoadedScenes) (path : Path) (scene : Json) : LoadedScenes :=
  let id := loadingId path scene
  if Table.has id loaded.scenes then loaded
  else { loaded with
    scenes := loaded.scenes ++ [(id, scene)]
    sources := loaded.sources ++ [(id, path)] }

/-- Loads scene files in order, after those already loaded. -/
def loadFiles (disk : Disk) : List Path → LoadedScenes → Except Fault LoadedScenes
  | [], loaded => .ok loaded
  | path :: rest, loaded =>
    match disk.readJson path with
    | .ok scene => loadFiles disk rest (addScene loaded path scene)
    | .error (.unparsable reason) =>
      loadFiles disk rest { loaded with failures := loaded.failures ++ [(path, reason)] }
    | .error (.integerTooLong digits) => .error (.integerTooLong digits)
    -- A file that is listed is there.
    | .error .notFound => loadFiles disk rest loaded

/-- Loads every scene of a corpus. -/
def loadScenes (corpus : Corpus) (disk : Disk) : Except Fault LoadedScenes :=
  loadFiles disk (corpus.scenePaths disk) ⟨[], [], []⟩

end Corpus

end Gamebook
