import Gamebook.Proofs.Validation.Comparison
import Gamebook.Proofs.Validation.Roles

/-! A content file that cannot be read counts like one that is not there, but for one error. -/

namespace Gamebook

variable {disk : Disk} {settings : Settings} {path : Path}

section Removal

/-- A file that was taken away is not found. -/
theorem Disk.readJson_remove_self (file : disk.isFile path = true) :
    (disk.remove path).readJson path = .error .notFound := by
  rw [readJson, contents?_remove_of_meet file (meet_self_of_isFile file)]

/-- Without a content file, the scene documents are those that do not lead to it. -/
theorem Corpus.scenePaths_remove {corpus : Corpus} (content : corpus.IsContentPath path)
    (file : disk.isFile path = true) :
    corpus.scenePaths (disk.remove path) =
      (corpus.scenePaths disk).filter fun scene => ¬ disk.Meet path scene := by
  obtain ⟨directory, name, down, rfl⟩ := content.exists_child
  obtain ⟨above, -, stands, placed⟩ := Disk.exists_place_of_isFile_child down file
  rw [scenePaths, scenePaths]
  cases reached : disk.place? corpus.scenes with
  | none =>
    -- No directory of scenes, and so no scene document in either tree.
    have still : (disk.remove (directory.child name)).place? corpus.scenes = none := by
      rw [(Disk.sameDirectories_remove file).place?_eq, reached]
    rw [Disk.fileNames_eq_nil reached, Disk.fileNames_eq_nil still]
    rfl
  | some place =>
    rw [Disk.fileNames_remove file placed reached, List.filter_map, List.filter_filter,
      List.filter_filter]
    congr 1
    refine List.filter_congr fun scene _ => ?_
    -- A scene name leads to the file exactly when it extends the place to that of the file.
    by_cases fits : isSceneName scene = true
    · have leads := Disk.meet_child_iff (ne_dots_of_isSceneName fits) placed stands reached
      simp [fits, leads]
    · simp [fits]

variable (apart : settings.KeepsApart disk) (content : settings.corpus.IsContentPath path)
  (file : disk.isFile path = true)

include apart content file

namespace Settings.KeepsApart

/-- Taking a content file away leaves every other content file. -/
theorem contents?_remove_of_ne {other : Path} (content' : settings.corpus.IsContentPath other)
    (different : other ≠ path) : (disk.remove path).contents? other = disk.contents? other := by
  apply Disk.contents?_remove_of_not_meet file
  -- Two paths of content meet only if they are the same.
  intro meet
  exact different (apart.eq_of_meet content content' meet).symm

/-- Taking a content file away leaves the manifest. -/
theorem contents?_manifest_remove :
    (disk.remove path).contents? settings.corpus.manifestPath =
      disk.contents? settings.corpus.manifestPath :=
  Disk.contents?_remove_of_not_meet file (apart.not_meet_manifest content)

/-- Taking a content file away leaves the schemas. -/
theorem load_remove :
    Schema.Registry.load (disk.remove path) settings.content settings.schemas =
      Schema.Registry.load disk settings.content settings.schemas := by
  apply Eq.symm
  apply Schema.Registry.load_congr
  · intro name listed schema own
    exact (Disk.contents?_remove_of_not_meet file (apart.not_meet_schema content listed own)).symm
  · intro name listed schema own
    refine (Disk.contents?_remove_of_not_meet file ?_).symm
    intro meet
    -- The file would be that of a schema before it is taken away.
    have held : disk.isFile schema = true := by
      rw [Disk.isFile, ← meet.contents?_eq]
      exact file
    exact apart.not_meet_schema content listed
      (Schema.Registry.source_of_isFile listed own held) meet

/-- Taking a content file away takes its path from those of the scene documents. -/
theorem scenePaths_remove :
    settings.corpus.scenePaths (disk.remove path) =
      (settings.corpus.scenePaths disk).filter (· ≠ path) := by
  rw [Corpus.scenePaths_remove content file]
  refine List.filter_congr fun scene listed => ?_
  -- A scene path leads to the file only if it is the path of the file.
  have same : disk.Meet path scene ↔ scene = path := by
    constructor
    · intro meet
      exact (apart.eq_of_meet content (Corpus.isContentPath_of_mem_scenePaths listed) meet).symm
    · rintro rfl
      exact Disk.meet_self_of_isFile file
  simp [same]

/-- A file that cannot be read can be taken away without a change to the readable documents. -/
theorem readable_remove {reason : String} {paths : List Path}
    (unread : disk.readJson path = .error (.unparsable reason))
    (contents : ∀ other ∈ paths, settings.corpus.IsContentPath other) :
    (disk.remove path).readable paths = disk.readable paths := by
  apply Disk.readable_congr
  intro other listed
  by_cases same : other = path
  · -- Neither tree has a document there.
    rw [same, Disk.readJson_remove_self file, unread]
    rfl
  · rw [Disk.readJson_congr
        (apart.contents?_remove_of_ne content file (contents other listed) same)]

/-- Nor does it change the readable scene documents. -/
theorem readableScenes_remove {reason : String}
    (unread : disk.readJson path = .error (.unparsable reason)) :
    settings.corpus.readableScenes (disk.remove path) = settings.corpus.readableScenes disk := by
  -- Neither the list of files nor what can be read of it has the file.
  rw [Corpus.readableScenes, Corpus.readableScenes, apart.scenePaths_remove content file,
    Disk.readable_filter_ne (Disk.readJson_remove_self file),
    apart.readable_remove content file unread fun _ => Corpus.isContentPath_of_mem_scenePaths]

end Settings.KeepsApart

end Removal

namespace Validation

section Items

variable {other : Disk} {corpus : Corpus} {registry : Schema.Registry} {reason : String}

/-- The check of a scene file that cannot be read comes to the reason. -/
theorem checkScene_of_unparsable (unread : disk.readJson path = .error (.unparsable reason)) :
    checkScene disk corpus registry path =
      .ok (.unreadable (corpus.relativeName path) reason) := by
  rw [checkScene, unread]

/-- The check of a document that may be left out and cannot be read comes to the reason. -/
theorem checkOptional_of_unparsable {name schema : String}
    (unread : disk.readJson (corpus.optionalPath name) = .error (.unparsable reason)) :
    checkOptional disk corpus registry name schema =
      .ok (.unreadable (corpus.relativeName (corpus.optionalPath name)) reason) := by
  -- A file that cannot be parsed is there.
  have present := Disk.isFile_of_unparsable unread
  unfold checkOptional Corpus.optionalPath?
  rw [← Corpus.optionalPath]
  simp only [if_pos present, unread]

/-- The check of a document that is not there comes to nothing. -/
theorem checkOptional_of_not_isFile {name schema : String}
    (gone : disk.isFile (corpus.optionalPath name) = false) :
    checkOptional disk corpus registry name schema = .ok .absent := by
  unfold checkOptional Corpus.optionalPath?
  rw [← Corpus.optionalPath]
  simp [gone]

/-- A scene file that cannot be read inserts one error among those about the scene files. -/
theorem exists_sceneItems_insert {first second : List Path} {files others : List SceneFile}
    (checked : List.Forall₂ (fun path file => checkScene disk corpus registry path = .ok file)
      (first ++ path :: second) files)
    (rechecked : List.Forall₂ (fun path file => checkScene other corpus registry path = .ok file)
      (first ++ second) others)
    (unread : disk.readJson path = .error (.unparsable reason))
    (same : ∀ scene ∈ first ++ second, disk.contents? scene = other.contents? scene) :
    ∃ before after, sceneItems (first ++ path :: second) files =
        before ++ (path, [loadFailureMessage (corpus.relativeName path) reason]) :: after ∧
      sceneItems (first ++ second) others = before ++ after := by
  obtain ⟨early, rest, rfl, ahead, behind⟩ := exists_append_of_forall₂ checked
  obtain ⟨early', late', rfl, ahead', behind'⟩ := exists_append_of_forall₂ rechecked
  cases behind with
  | @cons _ file _ late head tail =>
    cases head.symm.trans (checkScene_of_unparsable unread)
    -- The other files have the same results in both trees.
    have front : early = early' := results_eq ahead ahead' fun scene member =>
      checkScene_congr (same scene (List.mem_append_left _ member))
    have back : late = late' := results_eq tail behind' fun scene member =>
      checkScene_congr (same scene (List.mem_append_right _ member))
    subst front back
    have lengths : first.length = (sceneErrors [] early).length := by
      rw [length_sceneErrors, ahead.length_eq]
    refine ⟨first.zip (sceneErrors [] early),
      second.zip (sceneErrors (early.foldl definedAfter []) late), ?_, ?_⟩
    · -- A file that cannot be read defines nothing.
      rw [sceneItems, sceneErrors_append, List.zip_append lengths]
      rfl
    · rw [sceneItems, sceneErrors_append, List.zip_append lengths]

/-- A document that may be left out and cannot be read inserts one error among those about such
documents. -/
theorem exists_optionalItems_insert {first second : List (String × String)}
    {entry : String × String} {files others : List OptionalFile}
    (checked : List.Forall₂ (fun (name, schema) file =>
      checkOptional disk corpus registry name schema = .ok file) (first ++ entry :: second) files)
    (rechecked : List.Forall₂ (fun (name, schema) file =>
      checkOptional other corpus registry name schema = .ok file) (first ++ entry :: second) others)
    (unread : disk.readJson (corpus.optionalPath entry.1) = .error (.unparsable reason))
    (gone : other.isFile (corpus.optionalPath entry.1) = false)
    (same : ∀ kept ∈ first ++ second,
      disk.contents? (corpus.optionalPath kept.1) = other.contents? (corpus.optionalPath kept.1)) :
    ∃ before after,
      optionalItems disk ((first ++ entry :: second).map fun (name, _) => corpus.optionalPath name)
          files =
        before ++ (corpus.optionalPath entry.1,
          [loadFailureMessage (corpus.relativeName (corpus.optionalPath entry.1)) reason]) ::
            after ∧
      optionalItems other ((first ++ entry :: second).map fun (name, _) => corpus.optionalPath name)
        others = before ++ after := by
  obtain ⟨early, rest, rfl, ahead, behind⟩ := exists_append_of_forall₂ checked
  obtain ⟨early', rest', rfl, ahead', behind'⟩ := exists_append_of_forall₂ rechecked
  cases behind with
  | @cons _ file _ late head tail =>
    cases behind' with
    | @cons _ file' _ late' head' tail' =>
      cases head.symm.trans (checkOptional_of_unparsable unread)
      cases head'.symm.trans (checkOptional_of_not_isFile gone)
      -- The other documents have the same results in both trees.
      have front : early = early' := results_eq ahead ahead' fun kept member =>
        checkOptional_congr (same kept (List.mem_append_left _ member))
      have back : late = late' := results_eq tail tail' fun kept member =>
        checkOptional_congr (same kept (List.mem_append_right _ member))
      subst front back
      have lengths : (first.map fun (name, _) => corpus.optionalPath name).length =
          early.length := by
        rw [List.length_map, ahead.length_eq]
      have alike (entries : List (String × String)) (listed : entries ⊆ first ++ second)
          (files : List OptionalFile) :
          optionalItems other (entries.map fun (name, _) => corpus.optionalPath name) files =
            optionalItems disk (entries.map fun (name, _) => corpus.optionalPath name) files := by
        apply optionalItems_congr
        intro kept member
        obtain ⟨document, held, rfl⟩ := List.mem_map.1 member
        exact (same document (listed held)).symm
      rw [List.map_append, List.map_cons, optionalItems_append lengths,
        optionalItems_append lengths, alike first (List.subset_append_left _ _)]
      refine ⟨optionalItems disk (first.map fun (name, _) => corpus.optionalPath name) early,
        optionalItems disk (second.map fun (name, _) => corpus.optionalPath name) late, ?_, ?_⟩
      · exact congrArg _ (optionalItems_cons_of_isFile (Disk.isFile_of_unparsable unread))
      · refine congrArg _ ((optionalItems_cons_of_not_isFile gone).trans ?_)
        exact alike second (List.subset_append_right _ _) late

end Items

section Verdicts

variable {reason : String} {absent : Verdict}

/-- A path of a content file is a content path. -/
theorem isContentPath_of_mem_contentFiles (listed : path ∈ contentFiles settings.corpus disk) :
    settings.corpus.IsContentPath path := by
  -- A content file is a scene or one of the optional files.
  rcases List.mem_append.1 listed with scene | optional
  · exact Corpus.isContentPath_of_mem_scenePaths scene
  · exact .inr (List.mem_filter.1 optional).1

section Covered

variable {registry : Schema.Registry} {survey survey' : Survey}
  (unambiguous : disk.IsUnambiguous) (apart : settings.KeepsApart disk)
  (unread : disk.readJson path = .error (.unparsable reason))
  (covers : Covers disk settings.corpus registry survey)
  (covers' : Covers (disk.remove path) settings.corpus registry survey')

include unambiguous apart unread covers covers'

/-- A scene file that cannot be read inserts one error among those about the content files. -/
theorem exists_itemsOf_insert_of_scene (scene : path ∈ settings.corpus.scenePaths disk) :
    ∃ before after, itemsOf settings.corpus disk survey = before ++
        (path, [loadFailureMessage (settings.corpus.relativeName path) reason]) :: after ∧
      itemsOf settings.corpus (disk.remove path) survey' = before ++ after := by
  have file := Disk.isFile_of_unparsable unread
  have content := Corpus.isContentPath_of_mem_scenePaths scene
  -- The file stands once among the scene files, and it is no other document.
  obtain ⟨first, second, split⟩ := List.append_of_mem scene
  have once := Corpus.nodup_scenePaths settings.corpus unambiguous
  rw [split, List.nodup_middle, List.nodup_cons] at once
  have kept : settings.corpus.scenePaths (disk.remove path) = first ++ second := by
    rw [apart.scenePaths_remove content file, split, List.filter_append,
      List.filter_cons_of_neg (by simp), ← List.filter_append, List.filter_eq_self]
    intro other member
    exact decide_eq_true fun same => once.1 (same ▸ member)
  have scenes : ∀ other ∈ first ++ second,
      disk.contents? other = (disk.remove path).contents? other := by
    intro other member
    have among : other ∈ settings.corpus.scenePaths disk := by
      rw [split]
      exact List.mem_append.2 ((List.mem_append.1 member).imp_right (List.mem_cons_of_mem _))
    exact (apart.contents?_remove_of_ne content file (Corpus.isContentPath_of_mem_scenePaths among)
      fun equal => once.1 (equal ▸ member)).symm
  have documents : ∀ other ∈ optionalPaths settings.corpus,
      disk.contents? other = (disk.remove path).contents? other := by
    intro other member
    exact (apart.contents?_remove_of_ne content file (.inr member)
      fun equal => apart.not_mem_optionalPaths file scene (equal ▸ member)).symm
  have optional : survey.optional = survey'.optional :=
    results_eq covers.optional covers'.optional fun entry member =>
      checkOptional_congr (documents _ (List.mem_map_of_mem member))
  -- The error stands among those about the scene files, and the rest of the list follows.
  obtain ⟨before, after, items, items'⟩ := exists_sceneItems_insert (split ▸ covers.scenes)
    (kept ▸ covers'.scenes) unread scenes
  rw [itemsOf, itemsOf, split, kept, items, items', ← optional, ← optionalItems_congr documents,
    List.append_assoc, List.append_assoc]
  exact ⟨_, _, rfl, rfl⟩

omit unambiguous in
/-- A document that may be left out and cannot be read inserts one error among those about the
content files. -/
theorem exists_itemsOf_insert_of_optional (optional : path ∈ optionalPaths settings.corpus) :
    ∃ before after, itemsOf settings.corpus disk survey = before ++
        (path, [loadFailureMessage (settings.corpus.relativeName path) reason]) :: after ∧
      itemsOf settings.corpus (disk.remove path) survey' = before ++ after := by
  have file := Disk.isFile_of_unparsable unread
  have content : settings.corpus.IsContentPath path := .inr optional
  have gone : (disk.remove path).isFile path = false :=
    Disk.readJson_eq_notFound_iff.1 (Disk.readJson_remove_self file)
  -- The document is no scene file, and it is no other such document.
  obtain ⟨entry, among, rfl⟩ := List.mem_map.1 optional
  obtain ⟨first, second, split⟩ := List.append_of_mem among
  have once := Corpus.nodup_optionalPaths settings.corpus
  rw [optionalPaths, split, List.map_append, List.map_cons, List.nodup_middle, List.nodup_cons,
    ← List.map_append] at once
  have apartFrom : ∀ other ∈ settings.corpus.scenePaths disk,
      other ≠ settings.corpus.optionalPath entry.1 := by
    rintro other member rfl
    exact apart.not_mem_optionalPaths file member optional
  have kept : settings.corpus.scenePaths (disk.remove (settings.corpus.optionalPath entry.1)) =
      settings.corpus.scenePaths disk := by
    rw [apart.scenePaths_remove content file, List.filter_eq_self]
    intro other member
    exact decide_eq_true (apartFrom other member)
  have scenes : survey.scenes = survey'.scenes := by
    refine results_eq covers.scenes (kept ▸ covers'.scenes) fun other member => ?_
    exact checkScene_congr (apart.contents?_remove_of_ne content file
      (Corpus.isContentPath_of_mem_scenePaths member) (apartFrom other member)).symm
  have documents : ∀ other ∈ first ++ second,
      disk.contents? (settings.corpus.optionalPath other.1) =
        (disk.remove (settings.corpus.optionalPath entry.1)).contents?
          (settings.corpus.optionalPath other.1) := by
    intro other member
    have listed : other ∈ optionalFiles := by
      rw [split]
      exact List.mem_append.2 ((List.mem_append.1 member).imp_right (List.mem_cons_of_mem _))
    refine (apart.contents?_remove_of_ne content file (.inr (List.mem_map_of_mem listed)) ?_).symm
    intro equal
    exact once.1 (equal ▸ List.mem_map_of_mem member)
  -- The error stands behind those about the scene files, among those about the other documents.
  obtain ⟨before, after, items, items'⟩ := exists_optionalItems_insert (split ▸ covers.optional)
    (split ▸ covers'.optional) unread gone documents
  rw [itemsOf, itemsOf, optionalPaths, split, kept, items, items', ← scenes, ← List.append_assoc,
    ← List.append_assoc]
  exact ⟨_, _, rfl, rfl⟩

/-- A content file that cannot be read inserts one error among those about the content files. -/
theorem exists_itemsOf_insert (listed : path ∈ contentFiles settings.corpus disk) :
    ∃ before after, itemsOf settings.corpus disk survey = before ++
        (path, [loadFailureMessage (settings.corpus.relativeName path) reason]) :: after ∧
      itemsOf settings.corpus (disk.remove path) survey' = before ++ after := by
  -- A content file is a scene or one of the optional files.
  rcases List.mem_append.1 listed with scene | optional
  · exact exists_itemsOf_insert_of_scene unambiguous apart unread covers covers' scene
  · exact exists_itemsOf_insert_of_optional apart unread covers covers'
      (List.mem_filter.1 optional).1

end Covered

/-- If a corpus comes to a verdict without a content file, it comes to one with a file there that
cannot be read. -/
theorem exists_verdict_of_remove (apart : settings.KeepsApart disk)
    (content : settings.corpus.IsContentPath path)
    (unread : disk.readJson path = .error (.unparsable reason))
    (ended : Validation.verdict (disk.remove path) settings = .ok absent) :
    ∃ present, Validation.verdict disk settings = .ok present := by
  have file := Disk.isFile_of_unparsable unread
  -- Each file but the one that cannot be read reads as it does without that one.
  have reads (paths : List Path) (other : Path) (content' : settings.corpus.IsContentPath other)
      (member : other ≠ path → other ∈ paths) : ReadsLike (disk.remove path) disk paths other := by
    by_cases same : other = path
    · exact .inr ⟨reason, same ▸ unread⟩
    · have kept := apart.contents?_remove_of_ne content file content' same
      exact .inl ⟨other, member same, (Disk.readJson_congr kept).symm⟩
  apply exists_verdict_of_readsLike ended (apart.load_remove content file)
    (Disk.readJson_congr (apart.contents?_manifest_remove content file))
  · intro scene member
    apply reads _ _ (Corpus.isContentPath_of_mem_scenePaths member)
    intro different
    rw [apart.scenePaths_remove content file]
    exact List.mem_filter.2 ⟨member, by simpa using different⟩
  · intro optional member
    exact reads _ _ (.inr member) fun _ => List.mem_singleton_self optional

/-- If a corpus comes to a verdict without a content file, then with a file there that cannot be
read it comes to one that finds the same, and that says one thing more: that this file cannot be
read. What it says about the other files stays as it is and in its order. -/
theorem exists_verdict_of_unreadable (unambiguous : disk.IsUnambiguous)
    (apart : settings.KeepsApart disk) (listed : path ∈ contentFiles settings.corpus disk)
    (unread : disk.readJson path = .error (.unparsable reason))
    (ended : Validation.verdict (disk.remove path) settings = .ok absent) :
    ∃ present, Validation.verdict disk settings = .ok present ∧ present.SameFindings absent ∧
      ∃ opening before after,
        present.Itemizes disk settings opening (before ++
          (path, [s!"Failed to load {settings.corpus.relativeName path}: {reason}"]) :: after) ∧
        absent.Itemizes (disk.remove path) settings opening (before ++ after) := by
  have file := Disk.isFile_of_unparsable unread
  have content := isContentPath_of_mem_contentFiles listed
  have schemas := apart.load_remove content file
  have manifests := Disk.readJson_congr (apart.contents?_manifest_remove content file)
  have documents := apart.readableScenes_remove content file unread
  have optional : (disk.remove path).readable (optionalPaths settings.corpus) =
      disk.readable (optionalPaths settings.corpus) :=
    apart.readable_remove content file unread fun _ => .inr
  obtain ⟨present, ended'⟩ := exists_verdict_of_remove apart content unread ended
  obtain ⟨loaded, manifest, opening, survey, survey', loading, draws, draws'⟩ :=
    exists_common_draws schemas manifests ended ended'
  -- What is found depends on the documents that can be read, and these are the same.
  have findings : present.SameFindings absent :=
    draws'.sameFindings draws (by rw [documents]) (by rw [optional])
  obtain ⟨before, after, items, items'⟩ :=
    exists_itemsOf_insert unambiguous apart unread draws'.covers draws.covers listed
  refine ⟨present, ended', findings, opening, before, after, ?_, ?_⟩
  · -- The report of the file is written as it stands among the errors.
    rw [loadFailureMessage] at items
    rw [← items]
    exact draws'.itemizes (schemas ▸ loading)
  · rw [← items']
    exact draws.itemizes loading

/-- Content with a scene file that can be read and one that cannot. -/
def brokenDisk : Disk := openDisk [
  jsonFile ["manifest.json"] (.object [("startingScene", .text "a"),
    ("sceneIndex", .object [("b", .object [])])]),
  (["content", "scenes", "a.json"], asciiFile "["),
  jsonFile ["scenes", "b.json"] (.object [("id", .text "a")])]

/-- The path of the scene file that cannot be read. -/
def brokenPath : Path := openSettings.corpus.scenes.child "a.json"

/-- With the broken scene file the content has one error, and without it none. -/
theorem exists_verdict_of_unreadable_broken :
    ∃ absent present, Validation.verdict (brokenDisk.remove brokenPath) openSettings = .ok absent ∧
      (absent.passed, absent.errors, absent.unreachable.ids, absent.fileCount) =
        (true, [], ["b"], 1) ∧
      Validation.verdict brokenDisk openSettings = .ok present ∧ present.SameFindings absent ∧
      ∃ opening before after,
        present.Itemizes brokenDisk openSettings opening (before ++ (brokenPath,
          ["Failed to load scenes/a.json: Expecting value (line 1, column 2)"]) :: after) ∧
        absent.Itemizes (brokenDisk.remove brokenPath) openSettings opening (before ++ after) := by
  -- The broken scene lies in the scenes directory, apart from the schemas.
  have listed : brokenPath ∈ contentFiles openSettings.corpus brokenDisk := by
    refine List.mem_append_left _ (Corpus.mem_scenePaths_iff.2 ⟨"a.json", ?_, rfl, rfl⟩)
    have placed : brokenDisk.place? openSettings.corpus.scenes = some ["content", "scenes"] := by
      decide +kernel
    rw [Disk.fileNames_eq placed, mem_sortIds]
    decide +kernel
  have apart : openSettings.KeepsApart brokenDisk :=
    Settings.keepsApart_of_not_meet (by decide +kernel) (by decide +kernel)
  -- The run without the file is computed, and the theorem gives the one with it.
  obtain ⟨absent, ended, told⟩ : ∃ absent,
      Validation.verdict (brokenDisk.remove brokenPath) openSettings = .ok absent ∧
        (absent.passed, absent.errors, absent.unreachable.ids, absent.fileCount) =
          (true, [], ["b"], 1) := exists_verdict (by decide +kernel)
  obtain ⟨present, ended', findings, items⟩ :=
    exists_verdict_of_unreadable (by decide +kernel) apart listed rfl ended
  exact ⟨absent, present, ended, told, ended', findings, items⟩

end Verdicts

end Validation

end Gamebook
