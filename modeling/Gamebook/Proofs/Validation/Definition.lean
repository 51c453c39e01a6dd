import Gamebook.Proofs.Corpus.Load
import Gamebook.Proofs.Disk
import Gamebook.Proofs.Validation.Items

/-! Which file defines a scene. Loading and validation both take the first one, but loading also
takes a file without an identifier for a definition of the scene that its name reads as. -/

namespace Gamebook

/-- A file gives no document that declares an identifier. -/
def SilentOn (disk : Disk) (id : String) (path : Path) : Prop :=
  ∀ document, disk.readJson path = .ok document → ¬ DeclaresId document id

/-- The first file of a list that declares an identifier, between the files before it and after
it. -/
structure Definition (disk : Disk) (paths : List Path) (id : String) where
  earlier : List Path
  path : Path
  document : Json
  later : List Path
  listed : paths = earlier ++ path :: later
  read : disk.readJson path = .ok document
  declares : DeclaresId document id
  first : ∀ other ∈ earlier, SilentOn disk id other

namespace Definition

variable {disk : Disk} {paths : List Path} {id : String}

/-- A file that does not declare an identifier leaves its definition to the later files. -/
def behind {path : Path} (found : Definition disk paths id) (silent : SilentOn disk id path) :
    Definition disk (path :: paths) id where
  earlier := path :: found.earlier
  path := found.path
  document := found.document
  later := found.later
  listed := by rw [List.cons_append, ← found.listed]
  read := found.read
  declares := found.declares
  first := List.forall_mem_cons.2 ⟨silent, found.first⟩

/-- An identifier has a first definition exactly when some readable file declares it. -/
theorem nonempty_iff :
    Nonempty (Definition disk paths id) ↔ ∃ scene ∈ disk.readable paths, DeclaresId scene.2 id := by
  constructor
  · -- The definition itself is a readable file.
    rintro ⟨found⟩
    refine ⟨(found.path, found.document), ?_, found.declares⟩
    exact Disk.mem_readable_iff.2 ⟨by simp [found.listed], found.read⟩
  · rintro ⟨⟨path, document⟩, member, declares⟩
    obtain ⟨listed, read⟩ := Disk.mem_readable_iff.1 member
    -- The first file of the list is the definition, or the definition is behind it.
    induction paths with
    | nil => cases listed
    | cons head rest ih =>
      by_cases silent : SilentOn disk id head
      · have later : path ∈ rest := by
          refine (List.mem_cons.1 listed).resolve_left ?_
          rintro rfl
          exact silent document read declares
        obtain ⟨found⟩ := ih (Disk.mem_readable_iff.2 ⟨later, read⟩) later
        exact ⟨found.behind silent⟩
      · simp only [SilentOn, not_forall, not_not] at silent
        obtain ⟨document, read, declares⟩ := silent
        exact ⟨⟨[], head, document, rest, rfl, read, declares, by simp⟩⟩

end Definition

namespace Corpus

variable {disk : Disk} {corpus : Corpus} {loaded : LoadedScenes} {id : String}

/-- A document and its file are what loading has kept under an identifier. -/
structure Keeps (loaded : LoadedScenes) (id : String) (scene : Path × Json) : Prop where
  document : Table.get? id loaded.scenes = some scene.2
  source : Table.get? id loaded.sources = some scene.1

/-- A document without an identifier of its own is in a file with this stem. -/
def StandsInFor (id : String) (scene : Path × Json) : Prop :=
  (∀ own, ¬ DeclaresId scene.2 own) ∧ scene.1.stem = id

/-- A document is loaded under the identifier that it declares, or else under the stem of its
file. -/
theorem loadsAs_iff {scene : Path × Json} :
    LoadsAs id scene ↔ DeclaresId scene.2 id ∨ StandsInFor id scene := by
  rw [LoadsAs, loadingId, StandsInFor]
  simp only [← declaredId?_eq_some_iff]
  -- An id of its own keeps a document from standing in by its file's name.
  cases declaredId? scene.2 <;> simp

/-- Loading keeps one document and one file under an identifier. -/
theorem Keeps.unique {first second : Path × Json} (one : Keeps loaded id first)
    (other : Keeps loaded id second) : first = second :=
  Prod.ext (Option.some.inj (one.source.symm.trans other.source))
    (Option.some.inj (one.document.symm.trans other.document))

/-- Loading keeps the first document that is loaded under an identifier. -/
theorem keeps_of_first (loading : corpus.loadScenes disk = .ok loaded) {scene : Path × Json}
    (first : (corpus.readableScenes disk).find? (LoadsAs id ·) = some scene) :
    Keeps loaded id scene :=
  -- The scenes and their sources are filled by the same loop, so one search finds both.
  ⟨by rw [get?_scenes_loadScenes loading, first]; rfl,
    by rw [get?_sources_loadScenes loading, first]; rfl⟩

/-- The readable scenes of a corpus are those before the definition of an identifier, the
definition, and those after it. -/
theorem readableScenes_eq (found : Definition disk (corpus.scenePaths disk) id) :
    corpus.readableScenes disk = disk.readable found.earlier ++
      (found.path, found.document) :: disk.readable found.later := by
  -- Reading goes file by file, so it splits where the list of files does.
  rw [← Disk.readable_cons_of_ok found.read, Disk.readable, Disk.readable, ← List.filterMap_append,
    ← found.listed]
  rfl

/-- Loading keeps the definition of an identifier, or else a document of an earlier file that stands
in for it. -/
theorem keeps_cases (loading : corpus.loadScenes disk = .ok loaded)
    (found : Definition disk (corpus.scenePaths disk) id) :
    (Keeps loaded id (found.path, found.document) ∧
        ∀ scene ∈ disk.readable found.earlier, ¬ StandsInFor id scene) ∨
      ∃ scene ∈ disk.readable found.earlier, StandsInFor id scene ∧ Keeps loaded id scene := by
  -- Before the definition, a document can only be loaded under the identifier by its stem.
  have stands (scene : Path × Json) (member : scene ∈ disk.readable found.earlier) :
      LoadsAs id scene ↔ StandsInFor id scene := by
    obtain ⟨listed, read⟩ := Disk.mem_readable_iff.1 member
    rw [loadsAs_iff]
    exact or_iff_right (found.first scene.1 listed scene.2 read)
  have own : LoadsAs id (found.path, found.document) := loadsAs_iff.2 (.inl found.declares)
  have kept : Keeps loaded id (((disk.readable found.earlier).find? (LoadsAs id ·)).getD
      (found.path, found.document)) := by
    refine keeps_of_first loading ?_
    rw [readableScenes_eq found, List.find?_append, List.find?_cons_of_pos (by simpa using own)]
    cases (disk.readable found.earlier).find? (LoadsAs id ·) <;> rfl
  -- Either there is no stand-in, or the first one comes before the definition.
  cases first : (disk.readable found.earlier).find? (LoadsAs id ·) with
  | none =>
    rw [first] at kept
    refine .inl ⟨kept, fun scene member stand => ?_⟩
    exact List.find?_eq_none.1 first scene member (by simpa using (stands scene member).2 stand)
  | some scene =>
    rw [first] at kept
    have member := List.mem_of_find?_eq_some first
    have loads : LoadsAs id scene := by simpa using List.find?_some first
    exact .inr ⟨scene, member, (stands scene member).1 loads, kept⟩

/-- Loading keeps the definition of an identifier exactly when no earlier file stands in for it. -/
theorem keeps_definition_iff (loading : corpus.loadScenes disk = .ok loaded)
    (found : Definition disk (corpus.scenePaths disk) id) :
    Keeps loaded id (found.path, found.document) ↔
      ∀ scene ∈ disk.readable found.earlier, ¬ StandsInFor id scene := by
  rcases keeps_cases loading found with ⟨kept, alone⟩ | ⟨scene, member, stands, kept⟩
  · exact iff_of_true kept alone
  · refine iff_of_false (fun own => ?_) fun alone => alone scene member stands
    -- The document of a stand-in declares nothing, so it is not that of the definition.
    have silent := stands.1
    rw [show scene = (found.path, found.document) from kept.unique own] at silent
    exact silent id found.declares

end Corpus

/-- The file that defines an identifier, if a scene file does. -/
def SceneFile.definition? (id : String) : SceneFile → Option String
  | unreadable _ _ => none
  | checked scene => if scene.id? = some id then some scene.file else none

namespace Validation

variable {disk : Disk} {corpus : Corpus} {registry : Schema.Registry} {defined : Table String}
  {file : SceneFile} {files : List SceneFile} {path : Path} {paths : List Path} {id first : String}

/-- A file defines an identifier unless another one did before. -/
theorem get?_definedAfter (file : SceneFile) :
    Table.get? id (definedAfter defined file) =
      (Table.get? id defined).or (file.definition? id) := by
  cases file with
  | unreadable file reason => rw [definedAfter, SceneFile.definition?, Option.or_none]
  | checked scene =>
    rw [definedAfter, SceneFile.definition?]
    cases scene.id? with
    | none => simp
    | some own =>
      by_cases same : own = id
      · -- Where the identifier is taken, its first definition stays.
        subst same
        cases known : Table.get? own defined <;> simp [Table.has, known, Table.get?_put]
      · by_cases taken : Table.has own defined = true <;> simp [taken, same, Table.get?_put]

/-- Several files define an identifier by the first of them that does, unless another one did
before. -/
theorem get?_foldl_definedAfter (files : List SceneFile) :
    Table.get? id (files.foldl definedAfter defined) =
      (Table.get? id defined).or (files.findSome? (SceneFile.definition? id)) := by
  -- By induction on the files, for every table that the earlier ones may have left.
  induction files generalizing defined with
  | nil => simp
  | cons file rest ih =>
    rw [List.foldl_cons, ih, get?_definedAfter, List.findSome?_cons]
    cases file.definition? id <;> simp

/-- The result for a document that could be read holds the document and the messages of its
schema. -/
theorem eq_checked_of_read {document : Json} (read : disk.readJson path = .ok document)
    (checked : checkScene disk corpus registry path = .ok file) :
    ∃ messages,
      documentMessages registry "scene" document (corpus.relativeName path) = .ok messages ∧
        file = .checked ⟨corpus.relativeName path, document, messages⟩ := by
  -- A file that reads as a document is never reported unreadable.
  rcases checkScene_cases checked with
    ⟨again, messages, reread, found, same⟩ | ⟨reason, unread | unread, -⟩
  · cases read.symm.trans reread
    exact ⟨messages, found, same⟩
  · cases read.symm.trans unread
  · cases read.symm.trans unread

/-- A file that declares an identifier defines it. -/
theorem definition?_eq_some {document : Json} (read : disk.readJson path = .ok document)
    (declares : DeclaresId document id)
    (checked : checkScene disk corpus registry path = .ok file) :
    file.definition? id = some (corpus.relativeName path) := by
  -- A file that was read is checked, whatever its messages.
  obtain ⟨messages, -, rfl⟩ := eq_checked_of_read read checked
  exact if_pos (Corpus.declaredId?_eq_some_iff.2 declares)

/-- A file defines no identifier exactly when it is silent on it. -/
theorem definition?_eq_none_iff (checked : checkScene disk corpus registry path = .ok file) :
    file.definition? id = none ↔ SilentOn disk id path := by
  constructor
  · -- A document that declares the identifier would define it.
    intro undefined document read declares
    rw [definition?_eq_some read declares checked] at undefined
    cases undefined
  · intro silent
    rcases checkScene_cases checked with ⟨document, messages, read, -, rfl⟩ | ⟨reason, -, rfl⟩
    · exact if_neg fun named => silent document read (Corpus.declaredId?_eq_some_iff.1 named)
    · rfl

/-- The errors about a file that declares an identifier are the messages of its schema, and then one
that cites the first definition if there is one before. -/
theorem fileErrors_of_declares {document : Json} (read : disk.readJson path = .ok document)
    (declares : DeclaresId document id)
    (checked : checkScene disk corpus registry path = .ok file) :
    ∃ messages,
      documentMessages registry "scene" document (corpus.relativeName path) = .ok messages ∧
        fileErrors defined file = messages ++ ((Table.get? id defined).map
          (duplicateMessage id (corpus.relativeName path))).toList := by
  obtain ⟨messages, found, rfl⟩ := eq_checked_of_read read checked
  -- A declared id is the one the report looks up among the earlier files.
  have named : CheckedScene.id? ⟨corpus.relativeName path, document, messages⟩ = some id :=
    Corpus.declaredId?_eq_some_iff.2 declares
  exact ⟨messages, found, by rw [fileErrors, repeatedErrors, named]⟩

/-- A file with the errors about it: if it declares an identifier, they are the messages of its
schema, and then one that cites the first definition. -/
def CitesFirst (disk : Disk) (corpus : Corpus) (registry : Schema.Registry) (id first : String)
    (item : Path × List String) : Prop :=
  ∀ document, disk.readJson item.1 = .ok document → DeclaresId document id →
    ∃ messages,
      documentMessages registry "scene" document (corpus.relativeName item.1) = .ok messages ∧
        item.2 = messages ++ [
        s!"Duplicate scene id '{id}' in {corpus.relativeName item.1} (already defined in {first})"]

/-- The errors about several files cite the first definition of an identifier. -/
theorem citesFirst_sceneErrors (known : Table.get? id defined = some first)
    (checked : List.Forall₂ (fun path file => checkScene disk corpus registry path = .ok file)
      paths files) :
    ∀ item ∈ paths.zip (sceneErrors defined files),
      CitesFirst disk corpus registry id first item := by
  induction checked generalizing defined with
  | nil => simp [sceneErrors]
  | @cons path file paths files checked _ ih =>
    rw [sceneErrors, List.zip_cons_cons, List.forall_mem_cons]
    constructor
    · intro document read declares
      obtain ⟨messages, found, errors⟩ := fileErrors_of_declares read declares checked
      rw [known] at errors
      exact ⟨messages, found, errors⟩
    · -- The definition stays known for the files behind this one.
      refine ih ?_
      rw [get?_definedAfter, known]
      rfl

/-- Scene files with the errors about them are split up at one of the files. -/
theorem sceneItems_append_cons {earlier later : List Path} {before behind : List SceneFile}
    (lengths : earlier.length = before.length) :
    sceneItems (earlier ++ path :: later) (before ++ file :: behind) =
      sceneItems earlier before ++ (path, fileErrors (before.foldl definedAfter []) file) ::
        later.zip (sceneErrors (definedAfter (before.foldl definedAfter []) file) behind) := by
  -- The file's errors depend on what the earlier files define.
  rw [sceneItems, sceneErrors_append, List.zip_append (by simp [lengths]), sceneErrors,
    List.zip_cons_cons]
  rfl

end Validation

/-- A verdict takes a file for the definition of an identifier: it has nothing against the file but
the messages of its schema, and it cites the file against every later one that declares the
identifier again. -/
def Verdict.Cites {id : String} (disk : Disk) (settings : Settings) (verdict : Verdict)
    (found : Definition disk (settings.corpus.scenePaths disk) id) : Prop :=
  ∃ loaded opening early own late others,
    Schema.Registry.load disk settings.content settings.schemas = .ok loaded ∧
    verdict.Itemizes disk settings opening (early ++ (found.path, own) :: late ++ others) ∧
    early.map Prod.fst = found.earlier ∧ late.map Prod.fst = found.later ∧
    Validation.documentMessages (.ofLoaded loaded) "scene" found.document
      (settings.corpus.relativeName found.path) = .ok own ∧
    ∀ item ∈ late, Validation.CitesFirst disk settings.corpus (.ofLoaded loaded) id
      (settings.corpus.relativeName found.path) item

namespace Validation

variable {disk : Disk} {settings : Settings} {verdict : Verdict} {loaded : LoadedScenes}
  {id : String}

/-- A verdict cites the first file that declares an identifier. -/
theorem cites_of_verdict (ended : Validation.verdict disk settings = .ok verdict)
    (found : Definition disk (settings.corpus.scenePaths disk) id) :
    verdict.Cites disk settings found := by
  obtain ⟨loaded, manifest, messages, survey, loading, draws⟩ := exists_draws ended
  -- The results are split up where the definition is.
  have checked := draws.covers.scenes
  rw [found.listed] at checked
  obtain ⟨before, after, split, early, rest⟩ := exists_append_of_forall₂ checked
  obtain ⟨file, behind, own, late, rfl⟩ := List.forall₂_cons_left_iff.1 rest
  have free : Table.get? id (before.foldl definedAfter []) = none := by
    rw [get?_foldl_definedAfter, List.findSome?_eq_none_iff.2]
    · rfl
    · exact (forall_mem_iff_of_forall₂ early fun _ _ checked => definition?_eq_none_iff checked).2
        found.first
  have known : Table.get? id (definedAfter (before.foldl definedAfter []) file) =
      some (settings.corpus.relativeName found.path) := by
    rw [get?_definedAfter, free, definition?_eq_some found.read found.declares own]
    rfl
  -- With nothing defined before it, the file has no errors but the messages of its schema.
  obtain ⟨messages, told, errors⟩ := fileErrors_of_declares found.read found.declares own
  rw [free] at errors
  have items : itemsOf settings.corpus disk survey =
      sceneItems found.earlier before ++
        (found.path, fileErrors (before.foldl definedAfter []) file) ::
          found.later.zip (sceneErrors (definedAfter (before.foldl definedAfter []) file) behind) ++
        optionalItems disk (optionalPaths settings.corpus) survey.optional := by
    rw [← sceneItems_append_cons early.length_eq, itemsOf, split]
    exact congrArg (fun paths => sceneItems paths _ ++ _) found.listed
  refine ⟨loaded, _, _, _, _, _, loading, items ▸ draws.itemizes loading, ?_, ?_, ?_,
    citesFirst_sceneErrors known late⟩
  · exact List.map_fst_zip (by simp [early.length_eq])
  · exact List.map_fst_zip (by simp [late.length_eq])
  · rw [told, errors]
    simp

/-- Under an identifier that scene files declare, loading keeps the first of these files exactly
when no earlier file stands in for it, and every verdict cites this same file. -/
theorem keeps_cited_iff (loading : settings.corpus.loadScenes disk = .ok loaded)
    (defines : settings.corpus.Defines disk id) :
    ∃ found : Definition disk (settings.corpus.scenePaths disk) id,
      (Corpus.Keeps loaded id (found.path, found.document) ↔
        ∀ scene ∈ disk.readable found.earlier, ¬ Corpus.StandsInFor id scene) ∧
      (¬ Corpus.Keeps loaded id (found.path, found.document) →
        ∃ scene ∈ disk.readable found.earlier,
          Corpus.StandsInFor id scene ∧ Corpus.Keeps loaded id scene) ∧
      ∀ verdict, Validation.verdict disk settings = .ok verdict →
        verdict.Cites disk settings found := by
  -- Some file declares the id, so there is a first one that does.
  obtain ⟨found⟩ := Definition.nonempty_iff.2 defines
  refine ⟨found, Corpus.keeps_definition_iff loading found, fun lost => ?_,
    fun verdict ended => cites_of_verdict ended found⟩
  -- A definition that is not kept was displaced by a scene before it.
  exact (Corpus.keeps_cases loading found).resolve_left fun kept => lost kept.1

/-- The path of a scene file in content whose schemas accept every document. -/
def openScene (name : String) : Path := openSettings.corpus.scenes.child name

/-- The scene files of such content are those of the names in order. -/
theorem scenePaths_openDisk {files : List (List String × DiskEntry)} {names : List String}
    (below : (openDisk files).entries.filterMap (Disk.nameBelow? ["content", "scenes"]) = names)
    (sorted : names.Pairwise (· ≤ ·)) :
    openSettings.corpus.scenePaths (openDisk files) =
      (names.filter Corpus.isSceneName).map openScene := by
  -- The files of one directory, with the scene names among them in order.
  have placed : (openDisk files).place? openSettings.corpus.scenes = some ["content", "scenes"] :=
    rfl
  rw [Corpus.scenePaths, Disk.fileNames_eq placed, below, sortIds_eq_self sorted]
  rfl

/-- Content in which two files declare a scene, behind an unreadable file and one that has another
identifier. -/
def twiceDisk : Disk := openDisk [
  jsonFile ["manifest.json"] (.object [("sceneIndex", .object [])]),
  (["content", "scenes", "a.json"], asciiFile "["),
  jsonFile ["scenes", "b.json"] (.object [("id", .text "c")]),
  jsonFile ["scenes", "c.json"] (.object [("id", .text "a")]),
  jsonFile ["scenes", "d.json"] (.object [("id", .text "a")])]

/-- Of the two files loading keeps the first one, and every verdict cites it against the other. -/
theorem keeps_cited_iff_twice :
    ∃ loaded, openSettings.corpus.loadScenes twiceDisk = .ok loaded ∧
      Table.get? "a" loaded.sources = some (openScene "c.json") ∧
      (∃ verdict, Validation.verdict twiceDisk openSettings = .ok verdict ∧
        "Duplicate scene id 'a' in scenes/d.json (already defined in scenes/c.json)" ∈
          verdict.errors) ∧
      openSettings.corpus.Defines twiceDisk "a" ∧
      ∃ found : Definition twiceDisk (openSettings.corpus.scenePaths twiceDisk) "a",
        (Corpus.Keeps loaded "a" (found.path, found.document) ↔
          ∀ scene ∈ twiceDisk.readable found.earlier, ¬ Corpus.StandsInFor "a" scene) ∧
        (¬ Corpus.Keeps loaded "a" (found.path, found.document) →
          ∃ scene ∈ twiceDisk.readable found.earlier,
            Corpus.StandsInFor "a" scene ∧ Corpus.Keeps loaded "a" scene) ∧
        ∀ verdict, Validation.verdict twiceDisk openSettings = .ok verdict →
          verdict.Cites twiceDisk openSettings found := by
  have listed : openSettings.corpus.scenePaths twiceDisk =
      ["a.json", "b.json", "c.json", "d.json"].map openScene :=
    scenePaths_openDisk rfl (by decide +kernel)
  obtain ⟨loaded, loading, told⟩ : ∃ loaded,
      openSettings.corpus.loadScenes twiceDisk = .ok loaded ∧
        Table.get? "a" loaded.sources = some (openScene "c.json") := by
    rw [Corpus.loadScenes, listed]
    exact exists_ok_of_map (by decide +kernel)
  obtain ⟨document, read, declared⟩ : ∃ document,
      twiceDisk.readJson (openScene "c.json") = .ok document ∧
        Corpus.declaredId? document = some "a" := exists_ok_of_map (by decide +kernel)
  have defines : openSettings.corpus.Defines twiceDisk "a" := by
    refine ⟨(openScene "c.json", document), Disk.mem_readable_iff.2 ⟨?_, read⟩,
      Corpus.declaredId?_eq_some_iff.1 declared⟩
    rw [listed]
    decide +kernel
  obtain ⟨verdict, ended, cited⟩ : ∃ verdict,
      Validation.verdict twiceDisk openSettings = .ok verdict ∧
        decide ("Duplicate scene id 'a' in scenes/d.json (already defined in scenes/c.json)" ∈
          verdict.errors) = true := by
    refine exists_verdict ?_
    -- The listing is put in place first, because sorting does not compute.
    unfold Validation.verdict run runLoaded runFiles survey
    simp only [Recording.after_nowhere, listed]
    decide +kernel
  exact ⟨loaded, loading, told, ⟨verdict, ended, of_decide_eq_true cited⟩, defines,
    keeps_cited_iff loading defines⟩

/-- Content in which a file without an identifier has the stem that two other files declare. -/
def disguisedDisk : Disk := openDisk [
  jsonFile ["manifest.json"] (.object [("sceneIndex", .object [])]),
  jsonFile ["scenes", "a.json"] (.object []),
  jsonFile ["scenes", "b.json"] (.object [("id", .text "a")]),
  jsonFile ["scenes", "c.json"] (.object [("id", .text "a")])]

/-- The first file that declares a scene can be lost to a file without an identifier, although the
verdict cites it as the definition. -/
theorem disguised_definition_displaced :
    ∃ loaded, openSettings.corpus.loadScenes disguisedDisk = .ok loaded ∧
      Table.get? "a" loaded.sources = some (openScene "a.json") ∧
      ∃ found : Definition disguisedDisk (openSettings.corpus.scenePaths disguisedDisk) "a",
        found.path = openScene "b.json" ∧
          ¬ Corpus.Keeps loaded "a" (found.path, found.document) ∧
          ∃ verdict, Validation.verdict disguisedDisk openSettings = .ok verdict ∧
            verdict.errors =
              ["Duplicate scene id 'a' in scenes/c.json (already defined in scenes/b.json)"] := by
  have listed : openSettings.corpus.scenePaths disguisedDisk =
      ["a.json", "b.json", "c.json"].map openScene := scenePaths_openDisk rfl (by decide +kernel)
  obtain ⟨loaded, loading, told⟩ : ∃ loaded,
      openSettings.corpus.loadScenes disguisedDisk = .ok loaded ∧
        Table.get? "a" loaded.sources = some (openScene "a.json") := by
    rw [Corpus.loadScenes, listed]
    exact exists_ok_of_map (by decide +kernel)
  obtain ⟨blank, read, silent⟩ : ∃ document,
      disguisedDisk.readJson (openScene "a.json") = .ok document ∧
        Corpus.declaredId? document = none := exists_ok_of_map (by decide +kernel)
  have first : ∀ other ∈ [openScene "a.json"], SilentOn disguisedDisk "a" other := by
    intro other member document again declares
    cases List.mem_singleton.1 member
    cases read.symm.trans again
    rw [Corpus.declaredId?_eq_some_iff.2 declares] at silent
    cases silent
  obtain ⟨document, read, declared⟩ : ∃ document,
      disguisedDisk.readJson (openScene "b.json") = .ok document ∧
        Corpus.declaredId? document = some "a" := exists_ok_of_map (by decide +kernel)
  let found : Definition disguisedDisk (openSettings.corpus.scenePaths disguisedDisk) "a" :=
    ⟨[openScene "a.json"], openScene "b.json", document, [openScene "c.json"], listed, read,
      Corpus.declaredId?_eq_some_iff.1 declared, first⟩
  obtain ⟨verdict, ended, errors⟩ : ∃ verdict,
      Validation.verdict disguisedDisk openSettings = .ok verdict ∧
        verdict.errors =
          ["Duplicate scene id 'a' in scenes/c.json (already defined in scenes/b.json)"] := by
    refine exists_verdict ?_
    -- The listing is put in place first, because sorting does not compute.
    unfold Validation.verdict run runLoaded runFiles survey
    simp only [Recording.after_nowhere, listed]
    decide +kernel
  refine ⟨loaded, loading, told, found, rfl, fun kept => ?_, verdict, ended, errors⟩
  -- The file that is kept is not the definition.
  have same : openScene "a.json" = openScene "b.json" :=
    Option.some.inj (told.symm.trans kept.source)
  exact absurd same (by decide +kernel)

end Validation

end Gamebook
