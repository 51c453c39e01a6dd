import Gamebook.Corpus.Load
import Gamebook.Proofs.Reference
import Gamebook.Proofs.Table

/-! What a content directory holds, and what loading its scenes keeps. -/

namespace Gamebook

/-- A scene document declares an identifier. -/
def DeclaresId (scene : Json) (id : String) : Prop := scene.get? "id" = some (.text id) ∧ id ≠ ""

/-- No fault of a file that is there is reported as a missing file. -/
theorem FileContents.document_ne_notFound (contents : FileContents) :
    contents.document ≠ .error .notFound := by
  cases contents with
  | refused report => simp [document]
  | bytes bytes =>
    rw [document]
    -- Every fault of reading has a failure of its own, and that a file is absent is none of them.
    cases Document.ofBytes bytes with
    | ok document => simp [Except.mapError]
    | error fault => cases fault <;> simp [Except.mapError, ReadFailure.ofFault]

/-- A file is there exactly when reading it does not report that it is missing. -/
theorem Disk.readJson_eq_notFound_iff {disk : Disk} {path : Path} :
    disk.readJson path = .error .notFound ↔ disk.isFile path = false := by
  rw [readJson, isFile]
  cases disk.contents? path with
  | none => simp
  | some contents =>
    -- A file that is there may fail otherwise, but it is found.
    simp only [Option.isSome_some, Bool.true_eq_false, iff_false]
    exact contents.document_ne_notFound

/-- A file that gives a document is there. -/
theorem Disk.isFile_of_readJson {disk : Disk} {path : Path} {document : Json}
    (read : disk.readJson path = .ok document) : disk.isFile path = true := by
  rw [← Bool.not_eq_false, ← readJson_eq_notFound_iff, read]
  simp

namespace Disk

variable {disk : Disk} {path : Path} {paths : List Path} {document : Json}

/-- A file that cannot be read is there all the same. -/
theorem isFile_of_unparsable {reason : String}
    (unread : disk.readJson path = .error (.unparsable reason)) : disk.isFile path = true := by
  rw [← Bool.not_eq_false, ← readJson_eq_notFound_iff, unread]
  simp

/-- What the contents of a file read as, if there is a file. -/
def readingOf : Option FileContents → Except ReadFailure Json
  | none => .error .notFound
  | some contents => contents.document

/-- A file reads as its contents do. -/
theorem readJson_eq_readingOf (disk : Disk) (path : Path) :
    disk.readJson path = readingOf (disk.contents? path) := by
  rw [readJson]
  cases disk.contents? path <;> rfl

/-- What reading a file gives depends on its contents. -/
theorem readJson_congr {other : Disk} (same : disk.contents? path = other.contents? path) :
    disk.readJson path = other.readJson path := by
  rw [readJson_eq_readingOf, readJson_eq_readingOf, same]

/-- The documents of those files of a list that can be read, with their paths. -/
def readable (disk : Disk) (paths : List Path) : List (Path × Json) :=
  paths.filterMap fun path => (disk.readJson path).toOption.map (path, ·)

/-- A file that can be read comes before the later ones. -/
theorem readable_cons_of_ok (read : disk.readJson path = .ok document) :
    disk.readable (path :: paths) = (path, document) :: disk.readable paths := by
  simp [readable, read, Except.toOption]

/-- A file that cannot be read is passed over. -/
theorem readable_cons_of_error {failure : ReadFailure}
    (unread : disk.readJson path = .error failure) :
    disk.readable (path :: paths) = disk.readable paths := by
  rw [readable, List.filterMap_cons, unread]
  rfl

/-- A file that cannot be read may be left out of a list. -/
theorem readable_filter_ne {failure : ReadFailure}
    (unread : disk.readJson path = .error failure) :
    disk.readable (paths.filter (· ≠ path)) = disk.readable paths := by
  rw [readable, readable, List.filterMap_filter]
  congr 1
  funext other
  -- The path that is left out would have given nothing.
  by_cases same : other = path
  · simp [same, unread, Except.toOption]
  · simp [same]

/-- Lists of files that read alike have the same readable documents. -/
theorem readable_congr {other : Disk}
    (same : ∀ path ∈ paths, (disk.readJson path).toOption = (other.readJson path).toOption) :
    disk.readable paths = other.readable paths := by
  refine List.filterMap_congr fun path listed => ?_
  rw [same path listed]

/-- The readable documents are what reading the listed files gives. -/
theorem mem_readable_iff :
    (path, document) ∈ disk.readable paths ↔ path ∈ paths ∧ disk.readJson path = .ok document := by
  simp only [readable, List.mem_filterMap, Option.map_eq_some_iff, Prod.mk.injEq]
  -- A path gives a pair exactly where its file can be read.
  constructor
  · rintro ⟨_, listed, _, read, rfl, rfl⟩
    refine ⟨listed, ?_⟩
    cases result : disk.readJson _ with
    | error failure => simp [result, Except.toOption] at read
    | ok found =>
      rw [result] at read
      cases read
      rfl
  · rintro ⟨listed, read⟩
    exact ⟨path, listed, document, by rw [read]; rfl, rfl, rfl⟩

/-- The readable documents are the documents among what reading the listed files gives. -/
theorem map_snd_readable :
    (disk.readable paths).map Prod.snd =
      (paths.map fun path => disk.readJson path).filterMap Except.toOption := by
  rw [readable, List.map_filterMap, List.filterMap_map]
  congr 1
  -- Each path gives a document in the one way where it does in the other.
  funext path
  rw [Function.comp_apply]
  cases disk.readJson path <;> rfl

end Disk

namespace Corpus

/-- The identifier of a document is the one it declares. -/
theorem declaredId?_eq_some_iff {scene : Json} {id : String} :
    declaredId? scene = some id ↔ DeclaresId scene id :=
  Json.bind_nonemptyText?_eq_some_iff

/-- The path of a document that may be left out. -/
def optionalPath (corpus : Corpus) (file : String) : Path := corpus.root.join (.ofText file)

/-- The scene documents that can be read, with their paths, by increasing file name. -/
def readableScenes (corpus : Corpus) (disk : Disk) : List (Path × Json) :=
  disk.readable (corpus.scenePaths disk)

/-- Some readable scene document refers to a scene. -/
def Mentions (corpus : Corpus) (disk : Disk) (id : String) : Prop :=
  ∃ scene ∈ corpus.readableScenes disk, id ∈ sceneReferences .everything scene.2

/-- Some readable scene document declares an identifier. -/
def Defines (corpus : Corpus) (disk : Disk) (id : String) : Prop :=
  ∃ scene ∈ corpus.readableScenes disk, DeclaresId scene.2 id

/-- What the scenes of a corpus refer to is told by their documents. -/
theorem mentions_iff {corpus : Corpus} {disk : Disk} {id : String} :
    corpus.Mentions disk id ↔ ∃ document ∈ (corpus.readableScenes disk).map Prod.snd,
      id ∈ sceneReferences .everything document := by
  simp only [Mentions, List.mem_map, exists_exists_and_eq_and]

/-- What the scenes of a corpus declare is told by their documents. -/
theorem defines_iff {corpus : Corpus} {disk : Disk} {id : String} :
    corpus.Defines disk id ↔ ∃ document ∈ (corpus.readableScenes disk).map Prod.snd,
      DeclaresId document id := by
  simp only [Defines, List.mem_map, exists_exists_and_eq_and]

end Corpus

end Gamebook
