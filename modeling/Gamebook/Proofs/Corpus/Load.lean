import Gamebook.Proofs.Corpus

/-! Which documents loading the scenes of a corpus keeps: the first one for every identifier. -/

namespace Gamebook.Corpus

variable {disk : Disk} {corpus : Corpus} {paths : List Path} {loaded result : LoadedScenes}
  {id : String}

/-- A document with its path is loaded under an identifier. -/
def LoadsAs (id : String) (scene : Path × Json) : Prop := loadingId scene.1 scene.2 = id

/-- Whether a document is loaded under an identifier can be computed. -/
instance (id : String) (scene : Path × Json) : Decidable (LoadsAs id scene) :=
  inferInstanceAs (Decidable (loadingId scene.1 scene.2 = id))

/-- A document is loaded under the identifier that it declares. -/
theorem loadsAs_of_declaresId {scene : Path × Json} (declares : DeclaresId scene.2 id) :
    LoadsAs id scene := by
  rw [LoadsAs, loadingId, declaredId?_eq_some_iff.2 declares]
  rfl

/-- The scenes that are loaded and their files are two columns of one table. -/
structure Pairs (entries : Table (Path × Json)) (loaded : LoadedScenes) : Prop where
  scenes : loaded.scenes = entries.map fun entry => (entry.1, entry.2.2)
  sources : loaded.sources = entries.map fun entry => (entry.1, entry.2.1)

/-- An added scene is found under its identifier with its file, unless that is taken; others are
found as before. -/
theorem Pairs.addScene {entries : Table (Path × Json)} (pairs : Pairs entries loaded) (path : Path)
    (scene : Json) :
    ∃ later, Pairs later (Corpus.addScene loaded path scene) ∧ ∀ id, Table.get? id later =
      (Table.get? id entries).or
        (if LoadsAs id (path, scene) then some (path, scene) else none) := by
  have keys : Table.keys loaded.scenes = Table.keys entries := by
    rw [pairs.scenes, Table.keys, Table.keys, List.map_map]
    rfl
  rw [Corpus.addScene]
  by_cases taken : Table.has (loadingId path scene) loaded.scenes = true
  · -- A taken identifier already has a scene, which comes first.
    rw [if_pos taken]
    refine ⟨entries, pairs, fun id => ?_⟩
    by_cases same : LoadsAs id (path, scene)
    · have member := Table.has_iff.1 taken
      rw [show loadingId path scene = id from same, keys] at member
      obtain ⟨first, found⟩ := Table.mem_keys_iff.1 member
      rw [found]
      rfl
    · rw [if_neg same, Option.or_none]
  · rw [if_neg taken]
    refine ⟨entries ++ [(loadingId path scene, path, scene)], ⟨?_, ?_⟩, fun id => ?_⟩
    · rw [List.map_append, ← pairs.scenes]
      rfl
    · rw [List.map_append, ← pairs.sources]
      rfl
    · rw [Table.get?_append]
      rfl

/-- Adding a scene repeats no identifier. -/
theorem nodup_keys_addScene {path : Path} {scene : Json}
    (distinct : (Table.keys loaded.scenes).Nodup) :
    (Table.keys (addScene loaded path scene).scenes).Nodup := by
  rw [addScene]
  by_cases taken : Table.has (loadingId path scene) loaded.scenes = true
  · rw [if_pos taken]
    exact distinct
  · rw [if_neg taken]
    -- An identifier that is not taken differs from every key.
    have fresh : loadingId path scene ∉ Table.keys loaded.scenes :=
      fun member => taken (Table.has_iff.2 member)
    have appended : Table.keys (loaded.scenes ++ [(loadingId path scene, scene)]) =
        Table.keys loaded.scenes ++ [loadingId path scene] := by
      rw [Table.keys, List.map_append]
      rfl
    rw [appended]
    exact distinct.append (List.nodup_singleton _) (by simpa using fresh)

/-- Scene files are loaded unless one of them ends the run. -/
theorem exists_loadFiles
    (endless : ∀ path ∈ paths, ∀ digits, disk.readJson path ≠ .error (.integerTooLong digits)) :
    ∃ result, loadFiles disk paths loaded = .ok result := by
  induction paths generalizing loaded with
  | nil => exact ⟨loaded, rfl⟩
  | cons path rest ih =>
    obtain ⟨first, later⟩ := List.forall_mem_cons.1 endless
    rw [loadFiles]
    cases read : disk.readJson path with
    | ok scene => exact ih later
    | error failure =>
      -- Only an integer with too many digits ends the loading.
      cases failure with
      | notFound => exact ih later
      | unparsable reason => exact ih later
      | integerTooLong digits => exact absurd read (first digits)

/-- After loading, an identifier has the document that it had before, or else the first readable one
that is loaded under it. -/
theorem Pairs.loadFiles {entries : Table (Path × Json)} (pairs : Pairs entries loaded)
    (loading : Corpus.loadFiles disk paths loaded = .ok result) :
    ∃ later, Pairs later result ∧ ∀ id, Table.get? id later =
      (Table.get? id entries).or ((disk.readable paths).find? (LoadsAs id ·)) := by
  induction paths generalizing entries loaded with
  | nil =>
    cases loading
    exact ⟨entries, pairs, fun id => by simp [Disk.readable]⟩
  | cons path rest ih =>
    rw [Corpus.loadFiles] at loading
    cases read : disk.readJson path with
    | ok scene =>
      rw [read] at loading
      -- The later files are looked through after this document.
      obtain ⟨next, paired, first⟩ := pairs.addScene path scene
      obtain ⟨later, paired, found⟩ := ih paired loading
      refine ⟨later, paired, fun id => ?_⟩
      rw [found, first, Disk.readable_cons_of_ok read, List.find?_cons]
      -- The document counts only where the identifier has none so far.
      by_cases same : LoadsAs id (path, scene)
      · cases Table.get? id entries <;> simp [same]
      · simp [same]
    | error failure =>
      rw [read] at loading
      rw [Disk.readable_cons_of_error read]
      cases failure with
      | notFound => exact ih pairs loading
      | unparsable reason =>
        -- The failure that is noted is no part of the table.
        have paired : Pairs entries { loaded with
            failures := loaded.failures ++ [(path, reason)] } :=
          ⟨pairs.scenes, pairs.sources⟩
        exact ih paired loading
      | integerTooLong digits => cases loading

/-- Loading repeats no identifier. -/
theorem nodup_keys_loadFiles (distinct : (Table.keys loaded.scenes).Nodup)
    (loading : loadFiles disk paths loaded = .ok result) : (Table.keys result.scenes).Nodup := by
  induction paths generalizing loaded with
  | nil =>
    cases loading
    exact distinct
  | cons path rest ih =>
    rw [loadFiles] at loading
    cases read : disk.readJson path with
    | ok scene =>
      rw [read] at loading
      exact ih (nodup_keys_addScene distinct) loading
    | error failure =>
      rw [read] at loading
      -- A file that cannot be read is noted or passed over, and adds no scene.
      cases failure with
      | notFound => exact ih distinct loading
      | unparsable reason =>
        dsimp only at loading
        refine ih ?_ loading
        exact distinct
      | integerTooLong digits => cases loading

/-- The scenes of a corpus are loaded under distinct identifiers. -/
theorem nodup_keys_loadScenes (loading : corpus.loadScenes disk = .ok result) :
    (Table.keys result.scenes).Nodup :=
  nodup_keys_loadFiles (by simp [Table.keys]) loading

/-- An identifier has the first readable scene document that is loaded under it, and its file. -/
theorem exists_pairs_loadScenes (loading : corpus.loadScenes disk = .ok result) :
    ∃ entries, Pairs entries result ∧ ∀ id, Table.get? id entries =
      (corpus.readableScenes disk).find? (LoadsAs id ·) := by
  -- Loading starts from nothing and keeps scenes and sources in step.
  have nothing : Pairs [] ⟨[], [], []⟩ := ⟨rfl, rfl⟩
  exact nothing.loadFiles loading

/-- An identifier has the first readable scene document that is loaded under it. -/
theorem get?_scenes_loadScenes (loading : corpus.loadScenes disk = .ok result) :
    Table.get? id result.scenes =
      ((corpus.readableScenes disk).find? (LoadsAs id ·)).map (·.2) := by
  obtain ⟨entries, pairs, found⟩ := exists_pairs_loadScenes loading
  rw [pairs.scenes, Table.get?_map, found]

/-- The source of an identifier is the file of the first readable scene document that is loaded
under it. -/
theorem get?_sources_loadScenes (loading : corpus.loadScenes disk = .ok result) :
    Table.get? id result.sources =
      ((corpus.readableScenes disk).find? (LoadsAs id ·)).map (·.1) := by
  obtain ⟨entries, pairs, found⟩ := exists_pairs_loadScenes loading
  rw [pairs.sources, Table.get?_map, found]

/-- A loaded scene is a readable document. -/
theorem exists_readable_of_loadScenes {scene : Json}
    (loading : corpus.loadScenes disk = .ok result)
    (found : Table.get? id result.scenes = some scene) :
    ∃ path, (path, scene) ∈ corpus.readableScenes disk := by
  -- A scene is loaded from the first readable file that bears its id.
  rw [get?_scenes_loadScenes loading, Option.map_eq_some_iff] at found
  obtain ⟨⟨path, document⟩, first, rfl⟩ := found
  exact ⟨path, List.mem_of_find?_eq_some first⟩

/-- An identifier that a readable document declares is one of the loaded scenes. -/
theorem mem_keys_loadScenes_of_defines (loading : corpus.loadScenes disk = .ok result)
    (defines : corpus.Defines disk id) : id ∈ Table.keys result.scenes := by
  obtain ⟨scene, member, declares⟩ := defines
  rw [Table.mem_keys_iff, get?_scenes_loadScenes loading]
  -- Some document is loaded under the identifier, so there is a first one.
  cases first : (corpus.readableScenes disk).find? (LoadsAs id ·) with
  | some found => exact ⟨found.2, rfl⟩
  | none =>
    have missed := List.find?_eq_none.1 first scene member
    exact absurd (loadsAs_of_declaresId declares) (by simpa using missed)

end Gamebook.Corpus
