import Gamebook.Proofs.Validation.Unreadable

/-! The names of the scene files do not matter to a verdict. -/

namespace Gamebook

variable {disk : Disk} {directory path : Path} {place : List String} {rename : String → String}
  {entry : List String × DiskEntry}

namespace Disk

section Entries

/-- The scene file of an entry right below a place: its name and its contents. -/
def sceneBelow? (place : List String) : List String × DiskEntry → Option (String × FileContents)
  | (other, .file contents) =>
      ((nameBelow? place (other, .file contents)).filter Corpus.isSceneName).map
      fun name => (name, contents)
  | (_, .directory) => none

/-- An entry with a new name if it is that of a scene file right below a place. -/
def renamedEntry (place : List String) (rename : String → String)
    (entry : List String × DiskEntry) : List String × DiskEntry :=
  match sceneBelow? place entry with
  | some (name, contents) => (place ++ [rename name], .file contents)
  | none => entry

/-- A tree with new names for the scene files of a directory. -/
def renameScenes (directory : Path) (rename : String → String) (disk : Disk) : Disk :=
  match disk.place? directory with
  | some place => ⟨disk.entries.map (renamedEntry place rename)⟩
  | none => disk

/-- An entry is a scene file right below a place exactly when it is a file with a scene name there.
-/
theorem sceneBelow?_eq_some_iff {name : String} {contents : FileContents} :
    sceneBelow? place entry = some (name, contents) ↔
      entry = (place ++ [name], .file contents) ∧ Corpus.isSceneName name = true := by
  obtain ⟨other, kind⟩ := entry
  -- Only a file below the place has a scene's name there.
  cases kind with
  | directory => simp [sceneBelow?]
  | file held =>
    rw [sceneBelow?, Option.map_eq_some_iff]
    constructor
    · rintro ⟨found, named, same⟩
      rw [Option.filter_eq_some_iff, nameBelow?_eq_some_iff] at named
      obtain ⟨⟨_, stands⟩, fits⟩ := named
      cases stands
      cases same
      exact ⟨rfl, fits⟩
    · rintro ⟨stands, fits⟩
      cases stands
      refine ⟨name, ?_, rfl⟩
      rw [Option.filter_eq_some_iff, nameBelow?_eq_some_iff]
      exact ⟨⟨contents, rfl⟩, fits⟩

/-- A scene file right below the place of a directory is a file of the directory. -/
theorem mem_fileNames_of_sceneBelow? {name : String} {contents : FileContents}
    (reached : disk.place? directory = some place) (listed : entry ∈ disk.entries)
    (below : sceneBelow? place entry = some (name, contents)) :
    name ∈ disk.fileNames directory ∧ Corpus.isSceneName name = true := by
  -- The entry is listed by the name that it has below the place.
  obtain ⟨stands, scene⟩ := sceneBelow?_eq_some_iff.1 below
  rw [fileNames_eq reached, mem_sortIds, List.mem_filterMap]
  exact ⟨⟨entry, listed, nameBelow?_eq_some_iff.2 ⟨contents, stands⟩⟩, scene⟩

/-- What an entry of a renamed tree can be: a scene file with its new name, or an entry as before.
-/
theorem renamedEntry_cases :
    (∃ name contents, entry = (place ++ [name], .file contents) ∧ Corpus.isSceneName name = true ∧
        renamedEntry place rename entry = (place ++ [rename name], .file contents)) ∨
      sceneBelow? place entry = none ∧ renamedEntry place rename entry = entry := by
  rw [renamedEntry]
  -- An entry is renamed when it is a scene of the directory, and is kept otherwise.
  cases found : sceneBelow? place entry with
  | none => exact .inr ⟨rfl, rfl⟩
  | some scene =>
    obtain ⟨name, contents⟩ := scene
    obtain ⟨stands, fits⟩ := sceneBelow?_eq_some_iff.1 found
    exact .inl ⟨name, contents, stands, fits, rfl⟩

/-- Unless they are scene files right below the place, entries stay as they are. -/
theorem mem_map_renamedEntry_iff {entries : List (List String × DiskEntry)}
    (plain : sceneBelow? place entry = none)
    (fits : ∀ other ∈ entries, ∀ name contents, sceneBelow? place other = some (name, contents) →
      Corpus.isSceneName (rename name) = true) :
    entry ∈ entries.map (renamedEntry place rename) ↔ entry ∈ entries := by
  rw [List.mem_map]
  constructor
  · rintro ⟨before, listed, rfl⟩
    rcases renamedEntry_cases with ⟨name, contents, stands, scene, renamed⟩ | ⟨-, kept⟩
    · -- A new name is a scene name, too.
      have new := fits before listed name contents (sceneBelow?_eq_some_iff.2 ⟨stands, scene⟩)
      rw [renamed, sceneBelow?_eq_some_iff.2 ⟨rfl, new⟩] at plain
      cases plain
    · rw [kept]
      exact listed
  · intro listed
    refine ⟨entry, listed, ?_⟩
    rw [renamedEntry, plain]

end Entries

section Renamed

variable (unambiguous : disk.IsUnambiguous)
  (renamed : (disk.renameScenes directory rename).IsUnambiguous)
  (fits : ∀ name ∈ disk.fileNames directory, Corpus.isSceneName name = true →
    Corpus.isSceneName (rename name) = true)

include unambiguous renamed fits

/-- What is no scene file of the directory stands where it stood. -/
theorem entryAt?_renameScenes {kind : DiskEntry} {asked : List String} (elsewhere : asked ≠ [])
    (plain : ∀ place, disk.place? directory = some place → sceneBelow? place (asked, kind) = none) :
    (disk.renameScenes directory rename).entryAt? asked = some kind ↔
      disk.entryAt? asked = some kind := by
  rw [renamed.entryAt?_eq_some_iff elsewhere, unambiguous.entryAt?_eq_some_iff elsewhere]
  -- Both trees hold at a place what their entries say, so it is enough to compare the entries.
  cases reached : disk.place? directory with
  | none => rw [renameScenes, reached]
  | some place =>
    rw [renameScenes, reached]
    apply mem_map_renamedEntry_iff (plain place reached)
    intro other listed name contents below
    obtain ⟨file, scene⟩ := mem_fileNames_of_sceneBelow? reached listed below
    exact fits name file scene

/-- New names for scene files leave every directory. -/
theorem sameDirectories_renameScenes :
    (disk.renameScenes directory rename).SameDirectories disk := by
  intro asked
  -- The working directory is always there, and every other one is an entry.
  by_cases working : asked = []
  · subst working
    exact iff_of_true rfl rfl
  · exact entryAt?_renameScenes unambiguous renamed fits working fun _ _ => rfl

/-- New names for scene files leave the files that none of them leads to. -/
theorem contents?_renameScenes {above : Path} {name : String} (down : name ≠ "..")
    (apart : ∀ scene, Corpus.isSceneName scene = true →
      ¬ disk.Meet (directory.child scene) (above.child name)) :
    (disk.renameScenes directory rename).contents? (above.child name) =
      disk.contents? (above.child name) := by
  rw [contents?, contents?, find?, find?,
    (sameDirectories_renameScenes unambiguous renamed fits).place?_eq]
  cases placed : disk.place? (above.child name) with
  | none => rfl
  | some asked =>
    have leads := placed
    rw [place?_child down, Option.bind_eq_some_iff] at leads
    obtain ⟨there, reached, last⟩ := leads
    split at last
    · next stands =>
      cases last
      -- What stands there is no scene file, so it is the same in both trees.
      have same : (disk.renameScenes directory rename).entryAt? (there ++ [name]) =
          disk.entryAt? (there ++ [name]) := by
        ext kind
        apply entryAt?_renameScenes unambiguous renamed fits (by simp)
        intro place found
        rw [Option.eq_none_iff_forall_ne_some]
        rintro ⟨scene, contents⟩ below
        obtain ⟨same, named⟩ := sceneBelow?_eq_some_iff.1 below
        apply apart scene named
        apply Meet.symm
        rw [meet_child_iff (Corpus.ne_dots_of_isSceneName named) placed stands found]
        exact (congrArg Prod.fst same).symm
      simp only [Option.bind_some, same]
    · cases last

end Renamed

section Bytes

/-- The contents of a listed file are found at its path if there is a directory for it. -/
theorem contents?_child_of_mem (unambiguous : disk.IsUnambiguous)
    (reached : disk.place? directory = some place) {name : String} {contents : FileContents}
    (listed : (place ++ [name], .file contents) ∈ disk.entries) (down : name ≠ "..") :
    disk.contents? (directory.child name) =
      if disk.entryAt? place = some .directory then some contents else none := by
  -- Names are unambiguous, so the listed entry is the one that is found.
  have held : disk.entryAt? (place ++ [name]) = some (.file contents) :=
    unambiguous.entryAt?_eq (by simp) listed
  rw [contents?, find?, place?_child down, reached, Option.bind_some]
  by_cases stands : disk.entryAt? place = some .directory
  · simp [stands, held]
  · simp [stands]

/-- The contents of the scene files of a corpus are those of the entries below its directory of
scenes, in the order of their names. -/
theorem map_contents?_scenePaths_perm {corpus : Corpus} (unambiguous : disk.IsUnambiguous)
    (reached : disk.place? corpus.scenes = some place) :
    ((corpus.scenePaths disk).map fun path => disk.contents? path).Perm
      ((disk.entries.filterMap fun entry => (sceneBelow? place entry).map Prod.snd).map
        fun contents =>
        if disk.entryAt? place = some .directory then some contents else none) := by
  have names : (disk.fileNames corpus.scenes).Perm (disk.entries.filterMap (nameBelow? place)) := by
    rw [fileNames_eq reached]
    exact List.mergeSort_perm _ _
  have sorted := (names.filter Corpus.isSceneName).map fun name =>
    disk.contents? (corpus.scenes.child name)
  rw [Corpus.scenePaths, List.map_map]
  -- Sorting the names is the only thing that moves anything; the rest is entry by entry.
  refine sorted.trans (.of_eq ?_)
  rw [List.filter_filterMap, List.map_filterMap, List.map_filterMap]
  refine List.filterMap_congr fun entry listed => ?_
  obtain ⟨other, kind⟩ := entry
  cases kind with
  | directory => rfl
  | file contents =>
    rw [sceneBelow?, Option.map_map, Option.map_map]
    refine Option.map_congr fun name found => ?_
    rw [Option.filter_eq_some_iff, nameBelow?_eq_some_iff] at found
    obtain ⟨⟨_, stands⟩, fits⟩ := found
    cases stands
    exact contents?_child_of_mem unambiguous reached listed (Corpus.ne_dots_of_isSceneName fits)

/-- New names for scene files keep their contents. -/
theorem map_snd_sceneBelow?_renamedEntry
    (fits : ∀ name contents, sceneBelow? place entry = some (name, contents) →
      Corpus.isSceneName (rename name) = true) :
    (sceneBelow? place (renamedEntry place rename entry)).map Prod.snd =
      (sceneBelow? place entry).map Prod.snd := by
  -- A renamed scene is still a scene, and it keeps its contents.
  rcases renamedEntry_cases with ⟨name, contents, stands, scene, renamed⟩ | ⟨-, kept⟩
  · have below := sceneBelow?_eq_some_iff.2 ⟨stands, scene⟩
    rw [renamed, below, sceneBelow?_eq_some_iff.2 ⟨rfl, fits name contents below⟩]
    rfl
  · rw [kept]

/-- New names for the scene files of a corpus keep the contents of these files, in some order. -/
theorem map_contents?_renameScenes_perm {corpus : Corpus} (unambiguous : disk.IsUnambiguous)
    (renamed : (disk.renameScenes corpus.scenes rename).IsUnambiguous)
    (fits : ∀ name ∈ disk.fileNames corpus.scenes, Corpus.isSceneName name = true →
      Corpus.isSceneName (rename name) = true) :
    ((corpus.scenePaths disk).map fun path => disk.contents? path).Perm
      ((corpus.scenePaths (disk.renameScenes corpus.scenes rename)).map fun path =>
        (disk.renameScenes corpus.scenes rename).contents? path) := by
  have directories := sameDirectories_renameScenes unambiguous renamed fits
  cases reached : disk.place? corpus.scenes with
  | none => rw [renameScenes, reached]
  | some place =>
    have still : (disk.renameScenes corpus.scenes rename).place? corpus.scenes = some place := by
      rw [directories.place?_eq, reached]
    have entries : (disk.renameScenes corpus.scenes rename).entries =
        disk.entries.map (renamedEntry place rename) := by
      rw [renameScenes, reached]
    -- Entry by entry the renamed tree holds the same contents.
    have held : ((disk.renameScenes corpus.scenes rename).entries.filterMap fun entry =>
          (sceneBelow? place entry).map Prod.snd) =
        disk.entries.filterMap fun entry => (sceneBelow? place entry).map Prod.snd := by
      rw [entries, List.filterMap_map]
      refine List.filterMap_congr fun entry listed => ?_
      apply map_snd_sceneBelow?_renamedEntry
      intro name contents below
      obtain ⟨file, scene⟩ := mem_fileNames_of_sceneBelow? reached listed below
      exact fits name file scene
    have perm := map_contents?_scenePaths_perm renamed still
    rw [held] at perm
    simp only [directories place] at perm
    exact (map_contents?_scenePaths_perm unambiguous reached).trans perm.symm

end Bytes

end Disk

namespace Validation

variable {settings : Settings}

/-- Where the scenes have a directory to themselves before and after, content with new names for its
scene files reads alike. -/
theorem readsAlike_renameScenes (unambiguous : disk.IsUnambiguous)
    (renamed : (disk.renameScenes settings.corpus.scenes rename).IsUnambiguous)
    (fits : ∀ name ∈ disk.fileNames settings.corpus.scenes, Corpus.isSceneName name = true →
      Corpus.isSceneName (rename name) = true)
    (apart : settings.KeepsApart disk)
    (apart' : settings.KeepsApart (disk.renameScenes settings.corpus.scenes rename)) :
    ReadsAlike disk (disk.renameScenes settings.corpus.scenes rename) settings := by
  have directories := Disk.sameDirectories_renameScenes unambiguous renamed fits
  have schema {name : String} (listed : name ∈ Table.keys Schema.Registry.standards) {path : Path}
      (named : path = (settings.schemas.getD (settings.content.child "schemas")).child
        (Schema.Registry.fileName name))
      (away : ∀ scene, Corpus.isSceneName scene = true →
        ¬ disk.Meet (settings.corpus.scenes.child scene) path) :
      disk.contents? path = (disk.renameScenes settings.corpus.scenes rename).contents? path := by
    subst named
    exact (Disk.contents?_renameScenes unambiguous renamed fits
      (Schema.Registry.fileName_ne listed).1 away).symm
  -- No scene file is an entry of the root, so what stands there keeps its contents.
  have root {name : String} (down : name ≠ "..") :
      disk.contents? (settings.content.child name) =
        (disk.renameScenes settings.corpus.scenes rename).contents? (settings.content.child name) :=
    (Disk.contents?_renameScenes unambiguous renamed fits down fun scene named =>
      apart.not_meet_child named down).symm
  constructor
  case schemas =>
    apply Schema.Registry.load_congr
    · intro name listed path own
      apply schema listed (Schema.Registry.eq_child_of_source listed own)
      intro scene named
      exact apart.not_meet_schema (.inl ⟨scene, named, rfl⟩) listed own
    · intro name listed path own
      apply schema listed (Schema.Registry.eq_child_of_source listed own)
      intro scene named
      rw [← directories.meet_iff]
      exact apart'.not_meet_schema (.inl ⟨scene, named, rfl⟩) listed own
  case manifest => exact root (by decide)
  case scenes =>
    -- What a file reads as depends on its contents, and these are kept.
    have contents :=
      (Disk.map_contents?_renameScenes_perm unambiguous renamed fits).map Disk.readingOf
    rw [List.map_map, List.map_map] at contents
    simp only [Disk.readJson_eq_readingOf]
    exact contents
  case optional =>
    intro path member
    rcases Corpus.mem_optionalPaths_iff.1 member with rfl | rfl
    · exact root (by decide)
    · exact root (by decide)

/-- New names for the scene files do not affect a verdict: if the content comes to a verdict under
the old names it comes to one under the new names that agrees with it, and the other way round. The
scenes have a directory to themselves under both names wherever it is neither the root nor the one
where schemas are looked for; otherwise a new name could turn a scene file into a schema. -/
theorem verdict_renameScenes (unambiguous : disk.IsUnambiguous)
    (renamed : (disk.renameScenes settings.corpus.scenes rename).IsUnambiguous)
    (fits : ∀ name ∈ disk.fileNames settings.corpus.scenes, Corpus.isSceneName name = true →
      Corpus.isSceneName (rename name) = true)
    (apart : settings.KeepsApart disk)
    (apart' : settings.KeepsApart (disk.renameScenes settings.corpus.scenes rename)) :
    (∀ first, Validation.verdict disk settings = .ok first →
      ∃ second, Validation.verdict (disk.renameScenes settings.corpus.scenes rename) settings =
        .ok second ∧ first.AgreesWith second) ∧
    ∀ second, Validation.verdict (disk.renameScenes settings.corpus.scenes rename) settings =
      .ok second → ∃ first, Validation.verdict disk settings = .ok first ∧
        second.AgreesWith first := by
  -- The two trees read alike, which is all that a run can tell them by.
  have alike := readsAlike_renameScenes unambiguous renamed fits apart apart'
  constructor
  · intro first ended
    exact alike.exists_verdict ended
  · intro second ended
    exact alike.symm.exists_verdict ended

/-- Content with two scene files that declare the same scene. -/
def twinDisk : Disk := openDisk [
  jsonFile ["manifest.json"] (.object [("startingScene", .text "a")]),
  jsonFile ["scenes", "a.json"] (.object [("id", .text "a")]),
  jsonFile ["scenes", "b.json"] (.object [("id", .text "a")])]

/-- The path of the second of these files. -/
def secondTwin : Path := openSettings.corpus.scenes.child "b.json"

/-- A new name for the first of these files, which puts it behind the second. -/
def turned (name : String) : String := if name = "a.json" then "z.json" else name

/-- With the files in another order the content comes to a verdict that agrees with the first one.
-/
theorem verdict_renameScenes_twins :
    ∃ first second, Validation.verdict twinDisk openSettings = .ok first ∧
      Validation.verdict (twinDisk.renameScenes openSettings.corpus.scenes turned) openSettings =
        .ok second ∧ first.AgreesWith second := by
  have names (name : String) :
      name ∈ twinDisk.fileNames openSettings.corpus.scenes ↔ name = "a.json" ∨ name = "b.json" := by
    have placed : twinDisk.place? openSettings.corpus.scenes = some ["content", "scenes"] := by
      decide +kernel
    have below : twinDisk.entries.filterMap (Disk.nameBelow? ["content", "scenes"]) =
        ["a.json", "b.json"] := by decide +kernel
    rw [Disk.fileNames_eq placed, mem_sortIds, below, List.mem_pair]
  have kept : ∀ disk ∈ [twinDisk, twinDisk.renameScenes openSettings.corpus.scenes turned],
      disk.IsUnambiguous ∧ openSettings.KeepsApart disk := by
    intro disk member
    simp only [List.mem_cons, List.not_mem_nil, or_false] at member
    rcases member with rfl | rfl
    · exact ⟨by decide +kernel,
        Settings.keepsApart_of_not_meet (by decide +kernel) (by decide +kernel)⟩
    · exact ⟨by decide +kernel,
        Settings.keepsApart_of_not_meet (by decide +kernel) (by decide +kernel)⟩
  obtain ⟨unambiguous, apart⟩ := kept _ List.mem_cons_self
  obtain ⟨renamed, apart'⟩ := kept _ (List.mem_cons_of_mem _ List.mem_cons_self)
  -- Each file reads like one of the content without the second scene file, which has a verdict.
  obtain ⟨single, ended, -⟩ : ∃ single,
      Validation.verdict (twinDisk.remove secondTwin) openSettings = .ok single ∧
        single.passed = true := exists_verdict (by decide +kernel)
  obtain ⟨first, ended⟩ : ∃ first, Validation.verdict twinDisk openSettings = .ok first := by
    have content : openSettings.corpus.IsContentPath secondTwin := .inl ⟨"b.json", rfl, rfl⟩
    have file : twinDisk.isFile secondTwin = true := by decide +kernel
    apply exists_verdict_of_readsLike ended
    · exact apart.load_remove content file
    · exact Disk.readJson_congr (apart.contents?_manifest_remove content file)
    · intro path member
      refine .inl ⟨openSettings.corpus.scenes.child "a.json", by decide +kernel, ?_⟩
      obtain ⟨name, listed, -, rfl⟩ := Corpus.mem_scenePaths_iff.1 member
      rcases (names name).1 listed with rfl | rfl <;> rfl
    · intro path member
      refine .inl ⟨path, List.mem_singleton_self path, ?_⟩
      rcases Corpus.mem_optionalPaths_iff.1 member with rfl | rfl <;> rfl
  have fits : ∀ name ∈ twinDisk.fileNames openSettings.corpus.scenes,
      Corpus.isSceneName name = true → Corpus.isSceneName (turned name) = true := by
    intro name listed _
    rcases (names name).1 listed with rfl | rfl
    · decide +kernel
    · decide +kernel
  obtain ⟨second, ended', agrees⟩ :=
    (verdict_renameScenes unambiguous renamed fits apart apart').1 first ended
  exact ⟨first, second, ended, ended', agrees⟩

end Validation

end Gamebook
