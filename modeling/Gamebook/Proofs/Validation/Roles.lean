import Gamebook.Proofs.Disk
import Gamebook.Proofs.Schema.Registry
import Gamebook.Proofs.Validation.Survey

/-! The files of a run, and scene files that have no other part in it. -/

namespace Gamebook

variable {disk other : Disk} {name : String} {path : Path}

namespace Schema.Registry

variable {content : Path} {schemas : Option Path}

/-- The name of the file of a schema is a path of one part. -/
theorem ofText_fileName (listed : name ∈ Table.keys standards) :
    Path.ofText (fileName name) = ⟨"", [fileName name]⟩ := by
  -- There are four standard names to look at.
  have each : ∀ name ∈ Table.keys standards,
      Path.ofText (fileName name) = ⟨"", [fileName name]⟩ := by decide +kernel
  exact each name listed

/-- The file of a schema has a name of its own, which does not lead back up. -/
theorem fileName_ne (listed : name ∈ Table.keys standards) :
    fileName name ≠ ".." ∧ fileName name ≠ Corpus.itemsName ∧ fileName name ≠ Corpus.statsName := by
  -- There are four standard names to look at.
  have each : ∀ name ∈ Table.keys standards, fileName name ≠ ".." ∧
      fileName name ≠ Corpus.itemsName ∧ fileName name ≠ Corpus.statsName := by decide +kernel
  exact each name listed

/-- The file of a schema stands in the directory that is given, or else in that of the content. -/
theorem eq_child_of_source (listed : name ∈ Table.keys standards)
    (own : source disk content schemas name = .file path) :
    path = (schemas.getD (content.child "schemas")).child (fileName name) := by
  unfold source at own
  rw [ofText_fileName listed] at own
  -- A named directory always has the schema; the usual one only if the file is there.
  cases schemas with
  | some directory =>
    cases own
    rfl
  | none =>
    dsimp only at own
    split at own
    · cases own
      rfl
    · cases own

/-- A schema that one tree takes from a file is taken from it in any tree that holds the file. -/
theorem source_of_isFile (listed : name ∈ Table.keys standards)
    (own : source other content schemas name = .file path) (held : disk.isFile path = true) :
    source disk content schemas name = .file path := by
  have named := eq_child_of_source listed own
  unfold source
  rw [ofText_fileName listed]
  -- Under the usual directory the file's presence is what makes it the source.
  cases schemas with
  | some directory =>
    rw [named]
    rfl
  | none =>
    have there : (content.child "schemas").join ⟨"", [fileName name]⟩ = path := by
      rw [named]
      rfl
    dsimp only
    rw [there, if_pos held]

/-- The schema for one kind of document loads alike from trees that hold the same where either of
them has the file of the schema. -/
theorem loadOne_congr {standard : Json}
    (forth : ∀ path, source disk content schemas name = .file path →
      disk.contents? path = other.contents? path)
    (back : ∀ path, source other content schemas name = .file path →
      disk.contents? path = other.contents? path) :
    loadOne disk content schemas name standard = loadOne other content schemas name standard := by
  have sources : source disk content schemas name = source other content schemas name := by
    unfold source at forth back ⊢
    cases schemas with
    | some directory => rfl
    | none =>
      -- If one tree holds the file in the content, then so does the other.
      dsimp only at forth back ⊢
      by_cases here : disk.isFile ((content.child "schemas").join (.ofText (fileName name))) = true
      · have there : other.isFile
            ((content.child "schemas").join (.ofText (fileName name))) = true := by
          rw [Disk.isFile, ← forth _ (if_pos here)]
          exact here
        rw [if_pos here, if_pos there]
      · by_cases there : other.isFile
            ((content.child "schemas").join (.ofText (fileName name))) = true
        · rw [Disk.isFile, back _ (if_pos there)] at here
          exact absurd there here
        · rw [if_neg here, if_neg there]
  rw [loadOne, loadOne, ← sources]
  -- A bundled schema is the same everywhere, and a file is read by its contents.
  cases own : source disk content schemas name with
  | standard path => rfl
  | file path =>
    dsimp only
    rw [forth path own]

/-- The schemas of a run load alike from trees that hold the same where either of them has the file
of a schema. -/
theorem load_congr
    (forth : ∀ name ∈ Table.keys standards, ∀ path,
      source disk content schemas name = .file path → disk.contents? path = other.contents? path)
    (back : ∀ name ∈ Table.keys standards, ∀ path,
      source other content schemas name = .file path → disk.contents? path = other.contents? path) :
    load disk content schemas = load other content schemas := by
  rw [load, load]
  have each : ∀ entry ∈ standards, loadOne disk content schemas entry.1 entry.2 =
      loadOne other content schemas entry.1 entry.2 := by
    intro entry member
    have listed : entry.1 ∈ Table.keys standards := List.mem_map_of_mem member
    exact loadOne_congr (forth entry.1 listed) (back entry.1 listed)
  -- By induction on the list of schemas, whichever they are.
  generalize standards = entries at each
  induction entries with
  | nil => rfl
  | cons entry rest ih =>
    have first := each entry List.mem_cons_self
    have later := ih fun later member => each later (List.mem_cons_of_mem _ member)
    rw [List.mapM_cons, List.mapM_cons, later]
    dsimp only
    rw [first]

end Schema.Registry

namespace Corpus

variable {corpus : Corpus}

/-- The path of a scene document is a scene name below the directory of scenes. -/
theorem mem_scenePaths_iff : path ∈ corpus.scenePaths disk ↔
    ∃ name ∈ disk.fileNames corpus.scenes, isSceneName name = true ∧
      path = corpus.scenes.child name := by
  -- The directory's files with a scene's name, each placed below it.
  simp only [scenePaths, List.mem_map, List.mem_filter]
  constructor
  · rintro ⟨name, ⟨listed, fits⟩, rfl⟩
    exact ⟨name, listed, fits, rfl⟩
  · rintro ⟨name, listed, fits, rfl⟩
    exact ⟨name, ⟨listed, fits⟩, rfl⟩

/-- The name of a scene document does not lead back up. -/
theorem ne_dots_of_isSceneName (fits : isSceneName name = true) : name ≠ ".." := by
  rintro rfl
  revert fits
  decide

/-- The documents that may be left out stand in the root of the content. -/
theorem mem_optionalPaths_iff : path ∈ Validation.optionalPaths corpus ↔
    path = corpus.root.child itemsName ∨ path = corpus.root.child statsName := by
  -- Both files lie at the root of the corpus.
  have items : optionalPath corpus itemsName = corpus.root.child itemsName := rfl
  have stats : optionalPath corpus statsName = corpus.root.child statsName := rfl
  simp [Validation.optionalPaths, Validation.optionalFiles, items, stats]

/-- The documents that may be left out have different paths. -/
theorem nodup_optionalPaths (corpus : Corpus) : (Validation.optionalPaths corpus).Nodup := by
  have paths : Validation.optionalPaths corpus =
      [corpus.root.child itemsName, corpus.root.child statsName] := rfl
  -- The two files have different names.
  have apart : corpus.root.child itemsName ≠ corpus.root.child statsName := by
    intro same
    have last := congrArg Path.name same
    simp [Path.child, Path.name, itemsName, statsName] at last
  rw [paths]
  simp [apart]

/-- Where no place has two entries, scene documents have different paths. -/
theorem nodup_scenePaths (corpus : Corpus) (unambiguous : disk.IsUnambiguous) :
    (corpus.scenePaths disk).Nodup := by
  -- Names below one directory are told apart by their last part.
  refine List.Nodup.map_on ?_ ((unambiguous.nodup_fileNames corpus.scenes).filter _)
  intro first _ second _ same
  have last := congrArg Path.name same
  simpa [Path.child, Path.name] using last

/-- A path that a scene document or a document that may be left out can have. -/
def IsContentPath (corpus : Corpus) (path : Path) : Prop :=
  (∃ name, isSceneName name = true ∧ path = corpus.scenes.child name) ∨
    path ∈ Validation.optionalPaths corpus

/-- The paths of scene documents are content paths. -/
theorem isContentPath_of_mem_scenePaths (listed : path ∈ corpus.scenePaths disk) :
    corpus.IsContentPath path := by
  -- A listed scene is named as one, below the directory of scenes.
  obtain ⟨name, -, fits, same⟩ := mem_scenePaths_iff.1 listed
  exact .inl ⟨name, fits, same⟩

/-- A content path is a name below a directory, and the name does not lead back up. -/
theorem IsContentPath.exists_child (content : corpus.IsContentPath path) :
    ∃ (directory : Path) (name : String), name ≠ ".." ∧ path = directory.child name := by
  -- No name with a fixed ending is the step upwards.
  rcases content with ⟨name, fits, rfl⟩ | optional
  · exact ⟨_, name, ne_dots_of_isSceneName fits, rfl⟩
  · rcases mem_optionalPaths_iff.1 optional with rfl | rfl
    · exact ⟨_, itemsName, by decide, rfl⟩
    · exact ⟨_, statsName, by decide, rfl⟩

end Corpus

/-- The scenes of a corpus have a directory to themselves: it is neither the root of the content nor
a directory that a schema of the run is read from. -/
structure Settings.KeepsApart (disk : Disk) (settings : Settings) : Prop where
  root : ¬ disk.Meet settings.corpus.scenes settings.content
  schemas : ∀ name ∈ Table.keys Schema.Registry.standards, ∀ path,
    Schema.Registry.source disk settings.content settings.schemas name = .file path →
      ¬ disk.Meet settings.corpus.scenes path.parent

namespace Settings

variable {settings : Settings} {first second : Path}

/-- The directory of a named entry is its parent. -/
theorem parent_child (directory : Path) (name : String) :
    (directory.child name).parent = directory := by
  simp [Path.child, Path.parent]

/-- Scenes that lie neither in the root nor where schemas are looked for have a directory to
themselves. -/
theorem keepsApart_of_not_meet (root : ¬ disk.Meet settings.corpus.scenes settings.content)
    (schemas : ¬ disk.Meet settings.corpus.scenes
      (settings.schemas.getD (settings.content.child "schemas"))) :
    settings.KeepsApart disk := by
  -- Every schema of its own lies in the schema directory.
  refine ⟨root, ?_⟩
  intro name listed path own
  rw [Schema.Registry.eq_child_of_source listed own, parent_child]
  exact schemas

namespace KeepsApart

variable (apart : settings.KeepsApart disk)

include apart

/-- No scene file is an entry of the root of the content. -/
theorem not_meet_child {scene : String} (fits : Corpus.isSceneName scene = true)
    (down : name ≠ "..") :
    ¬ disk.Meet (settings.corpus.scenes.child scene) (settings.content.child name) := by
  -- Paths of one file that end in names lie in one directory.
  intro meet
  exact apart.root (Disk.meet_of_meet_child (Corpus.ne_dots_of_isSceneName fits) down meet).1

/-- No scene file is a document that may be left out. -/
theorem not_mem_optionalPaths (file : disk.isFile path = true)
    (scene : path ∈ settings.corpus.scenePaths disk) :
    path ∉ Validation.optionalPaths settings.corpus := by
  obtain ⟨name, -, fits, rfl⟩ := Corpus.mem_scenePaths_iff.1 scene
  obtain ⟨place, placed, -⟩ := Disk.meet_self_of_isFile file
  -- The file would be an entry of the root as well.
  have root (entry : String) (down : entry ≠ "..") :
      settings.corpus.scenes.child name ≠ settings.content.child entry := by
    intro same
    exact apart.not_meet_child fits down ⟨place, placed, same ▸ placed⟩
  rw [Corpus.mem_optionalPaths_iff, not_or]
  exact ⟨root _ (by decide), root _ (by decide)⟩

/-- No content file is the manifest. -/
theorem not_meet_manifest (content : settings.corpus.IsContentPath path) :
    ¬ disk.Meet path settings.corpus.manifestPath := by
  have down : Corpus.manifestName ≠ ".." := by decide
  rcases content with ⟨scene, fits, rfl⟩ | optional
  · exact apart.not_meet_child fits down
  · -- Entries of the root are told apart by their names.
    intro meet
    rcases Corpus.mem_optionalPaths_iff.1 optional with rfl | rfl
    · exact absurd (Disk.meet_of_meet_child (by decide) down meet).2 (by decide)
    · exact absurd (Disk.meet_of_meet_child (by decide) down meet).2 (by decide)

/-- No content file is the file of a schema. -/
theorem not_meet_schema (content : settings.corpus.IsContentPath path)
    (listed : name ∈ Table.keys Schema.Registry.standards) {schema : Path}
    (own : Schema.Registry.source disk settings.content settings.schemas name = .file schema) :
    ¬ disk.Meet path schema := by
  obtain ⟨down, notItems, notStats⟩ := Schema.Registry.fileName_ne listed
  have named := Schema.Registry.eq_child_of_source listed own
  intro meet
  rcases content with ⟨scene, fits, rfl⟩ | optional
  · -- The directory of scenes would be the one of the schema.
    have parent := apart.schemas name listed schema own
    rw [named] at meet parent
    rw [parent_child] at parent
    exact parent (Disk.meet_of_meet_child (Corpus.ne_dots_of_isSceneName fits) down meet).1
  · rw [named] at meet
    rcases Corpus.mem_optionalPaths_iff.1 optional with rfl | rfl
    · exact notItems (Disk.meet_of_meet_child (by decide) down meet).2.symm
    · exact notStats (Disk.meet_of_meet_child (by decide) down meet).2.symm

/-- Content paths that lead to one file are the same path. -/
theorem eq_of_meet (content : settings.corpus.IsContentPath first)
    (content' : settings.corpus.IsContentPath second) (meet : disk.Meet first second) :
    first = second := by
  -- Two scene files, a scene file and another document, or two other documents.
  rcases content with ⟨scene, fits, rfl⟩ | optional
  · rcases content' with ⟨other, fits', rfl⟩ | optional'
    · rw [(Disk.meet_of_meet_child (Corpus.ne_dots_of_isSceneName fits)
        (Corpus.ne_dots_of_isSceneName fits') meet).2]
    · rcases Corpus.mem_optionalPaths_iff.1 optional' with rfl | rfl
      · exact absurd meet (apart.not_meet_child fits (by decide))
      · exact absurd meet (apart.not_meet_child fits (by decide))
  · rcases content' with ⟨scene, fits, rfl⟩ | optional'
    · rcases Corpus.mem_optionalPaths_iff.1 optional with rfl | rfl
      · exact absurd meet.symm (apart.not_meet_child fits (by decide))
      · exact absurd meet.symm (apart.not_meet_child fits (by decide))
    · rcases Corpus.mem_optionalPaths_iff.1 optional with rfl | rfl
      · rcases Corpus.mem_optionalPaths_iff.1 optional' with rfl | rfl
        · rfl
        · exact absurd (Disk.meet_of_meet_child (by decide) (by decide) meet).2 (by decide)
      · rcases Corpus.mem_optionalPaths_iff.1 optional' with rfl | rfl
        · exact absurd (Disk.meet_of_meet_child (by decide) (by decide) meet).2 (by decide)
        · rfl

end KeepsApart

end Settings

end Gamebook
