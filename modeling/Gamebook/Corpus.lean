import Gamebook.Document

/-! The files of a content directory: a manifest, scenes, and documents that may be left out. -/

namespace Gamebook

/-- Where content lies: its root directory and the directory of its scenes. -/
structure Corpus where
  root : Path
  scenes : Path
  deriving DecidableEq, Repr

/-- Why a content file gives no document. -/
inductive ReadFailure where
  | notFound
  | unparsable (reason : String)
  | integerTooLong (digits : Nat)
  deriving DecidableEq, Repr

/-- Why the bytes of a content file give no document. -/
def ReadFailure.ofFault : DocumentFault → ReadFailure
  | .undecodable fault => .unparsable fault.message
  | .malformed problem _ line column =>
    .unparsable s!"{problem.message} (line {line}, column {column})"
  | .integerTooLong digits => .integerTooLong digits

/-- The document that a file holds. -/
def FileContents.document : FileContents → Except ReadFailure Json
  | .refused report => .error (.unparsable report)
  | .bytes held => (Document.ofBytes held).mapError ReadFailure.ofFault

/-- The document of a content file. -/
def Disk.readJson (disk : Disk) (path : Path) : Except ReadFailure Json :=
  match disk.contents? path with
  | none => .error .notFound
  | some contents => contents.document

namespace Corpus

/-- The name of the manifest. -/
def manifestName : String := "manifest.json"

/-- The name of the optional document of items. -/
def itemsName : String := "items.json"

/-- The name of the optional document of stats. -/
def statsName : String := "stats.json"

/-- The usual directory of scenes. -/
def defaultScenes : String := "scenes"

/-- The corpus in a content directory, with its scenes in a directory below it. -/
def below (root : Path) (scenes : String) : Corpus := ⟨root, root.join (.ofText scenes)⟩

/-- The path of the manifest. -/
def manifestPath (corpus : Corpus) : Path := corpus.root.child manifestName

/-- Whether a file name is that of a scene document. -/
def isSceneName (name : String) : Bool := ".json".toList.isSuffixOf name.toList

/-- The paths of the scene documents, by increasing file name. -/
def scenePaths (corpus : Corpus) (disk : Disk) : List Path :=
  ((disk.fileNames corpus.scenes).filter isSceneName).map corpus.scenes.child

/-- The name of a file as seen from the content directory. -/
def relativeName (corpus : Corpus) (path : Path) : String :=
  match Path.relativeTo? corpus.root path with
  | some relative => relative.text
  | none => path.text

/-- The path of an optional document, if it is there. -/
def optionalPath? (corpus : Corpus) (disk : Disk) (name : String) : Option Path :=
  let path := corpus.root.join (.ofText name)
  if disk.isFile path then some path else none

/-- The identifier that a scene document declares. -/
def declaredId? (scene : Json) : Option String := (scene.get? "id").bind Json.nonemptyText?

end Corpus

end Gamebook
