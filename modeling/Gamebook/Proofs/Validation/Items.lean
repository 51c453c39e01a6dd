import Mathlib.Algebra.GroupWithZero.Nat
import Mathlib.Data.Finset.Card
import Gamebook.Proofs.Validation

/-! The errors of a verdict file by file, and how many there are. -/

namespace Gamebook

/-- The errors that a scene file has of its own, whatever other files define. -/
def SceneFile.ownErrors : SceneFile → Nat
  | unreadable _ _ => 1
  | checked scene => scene.messages.length

/-- The identifier that a scene file declares, if it declares one. -/
def SceneFile.declared : SceneFile → List String
  | unreadable _ _ => []
  | checked scene => scene.id?.toList

namespace Validation

variable {defined : Table String} {report : Report} {files : List SceneFile}

section Scenes

/-- The files that define scenes, by identifier, once a further file has been read. -/
def definedAfter (defined : Table String) : SceneFile → Table String
  | .unreadable _ _ => defined
  | .checked scene => match scene.id? with
    | none => defined
    | some id => if Table.has id defined then defined else Table.put id scene.file defined

/-- The error about a scene whose identifier another file has defined before. -/
def repeatedErrors (defined : Table String) (scene : CheckedScene) : List String :=
  match scene.id? with
  | none => []
  | some id => ((Table.get? id defined).map (duplicateMessage id scene.file)).toList

/-- The errors about a scene file after the files that define scenes. -/
def fileErrors (defined : Table String) : SceneFile → List String
  | .unreadable file reason => [loadFailureMessage file reason]
  | .checked scene => scene.messages ++ repeatedErrors defined scene

/-- The errors about each of several scene files, in order. -/
def sceneErrors (defined : Table String) : List SceneFile → List (List String)
  | [] => []
  | file :: rest => fileErrors defined file :: sceneErrors (definedAfter defined file) rest

/-- There is one list of errors for each scene file. -/
@[simp] theorem length_sceneErrors : (sceneErrors defined files).length = files.length := by
  -- One list of errors for each file.
  induction files generalizing defined with
  | nil => rfl
  | cons file rest ih => rw [sceneErrors, List.length_cons, List.length_cons, ih]

/-- What is said of the later files depends on the earlier ones by what these define only. -/
theorem sceneErrors_append (earlier later : List SceneFile) :
    sceneErrors defined (earlier ++ later) =
      sceneErrors defined earlier ++ sceneErrors (earlier.foldl definedAfter defined) later := by
  -- The later files see what the earlier ones define.
  induction earlier generalizing defined with
  | nil => rfl
  | cons file rest ih => rw [List.cons_append, sceneErrors, sceneErrors, ih]; rfl

/-- A report on a further scene file adds the errors about it, and goes on with what it defines. -/
theorem exists_reportScenes_cons (file : SceneFile) (rest : List SceneFile) :
    ∃ next : Report, reportScenes defined report (file :: rest) =
        reportScenes (definedAfter defined file) next rest ∧
      next.errors = report.errors ++ fileErrors defined file := by
  cases file with
  | unreadable file reason => exact ⟨_, rfl, rfl⟩
  | checked scene =>
    rw [reportScenes, definedAfter, fileErrors, repeatedErrors]
    cases scene.id? with
    | none => exact ⟨_, rfl, by simp⟩
    | some id =>
      -- The report and the table ask alike whether the identifier is taken.
      cases found : Table.get? id defined with
      | none =>
        have free : Table.has id defined = false := by simp [Table.has, found]
        exact ⟨_, by simp only [found, free]; rfl, by simp [found]⟩
      | some first =>
        have taken : Table.has id defined = true := by simp [Table.has, found]
        exact ⟨_, by simp only [found, taken]; rfl, by simp [found]⟩

/-- A report on scene files adds the errors about each of them in order. -/
theorem errors_reportScenes :
    (reportScenes defined report files).errors =
      report.errors ++ (sceneErrors defined files).flatten := by
  -- By induction on the files, for every table and report that the earlier ones may have left.
  induction files generalizing defined report with
  | nil => simp [reportScenes, sceneErrors]
  | cons file rest ih =>
    obtain ⟨next, steps, errors⟩ := @exists_reportScenes_cons defined report file rest
    rw [steps, ih, errors, sceneErrors, List.flatten_cons, List.append_assoc]

/-- The identifiers of several files are those of the first and then those of the others. -/
theorem declaredIds_cons (file : SceneFile) (rest : List SceneFile) :
    declaredIds (file :: rest) = file.declared ++ declaredIds rest := by
  -- An unreadable file declares nothing.
  cases file with
  | unreadable file reason => rfl
  | checked scene =>
    rw [SceneFile.declared]
    cases named : scene.id? with
    | none => exact declaredIds_cons_of_none named
    | some id => exact declaredIds_cons_of_some named

/-- A further file defines what it declares. -/
theorem toFinset_keys_definedAfter (file : SceneFile) :
    (Table.keys (definedAfter defined file)).toFinset =
      (Table.keys defined).toFinset ∪ file.declared.toFinset := by
  cases file with
  | unreadable file reason => simp [definedAfter, SceneFile.declared]
  | checked scene =>
    rw [definedAfter, SceneFile.declared]
    cases scene.id? with
    | none => simp
    | some id =>
      -- An identifier that is taken adds no key, and a free one adds itself.
      by_cases taken : Table.has id defined = true
      · have member : id ∈ Table.keys defined := Table.has_iff.1 taken
        simp [taken, member]
      · ext other
        simp [taken]

/-- The errors about a file and the identifiers that are defined after it are as many as the errors
of its own, the identifiers defined before it, and those that it declares. -/
theorem length_fileErrors (file : SceneFile) :
    (fileErrors defined file).length + (Table.keys (definedAfter defined file)).toFinset.card =
      (Table.keys defined).toFinset.card + file.ownErrors + file.declared.length := by
  rw [toFinset_keys_definedAfter]
  cases file with
  | unreadable file reason =>
    simp [fileErrors, SceneFile.ownErrors, SceneFile.declared, Nat.add_comm]
  | checked scene =>
    rw [fileErrors, List.length_append, SceneFile.ownErrors, SceneFile.declared, repeatedErrors]
    cases scene.id? with
    | none => simp [Nat.add_comm]
    | some id =>
      by_cases taken : id ∈ Table.keys defined
      · -- One more error, and no new identifier.
        obtain ⟨first, found⟩ := Table.mem_keys_iff.1 taken
        simp [found, taken]
        omega
      · -- A new identifier, and no further error.
        have missing : Table.get? id defined = none := Table.get?_eq_none_iff.2 taken
        simp [missing, taken]
        omega

/-- Several files define what they declare. -/
theorem toFinset_keys_foldl_definedAfter :
    (Table.keys (files.foldl definedAfter defined)).toFinset =
      (Table.keys defined).toFinset ∪ (declaredIds files).toFinset := by
  -- Each file adds the id that it declares.
  induction files generalizing defined with
  | nil => simp [declaredIds]
  | cons file rest ih =>
    rw [List.foldl_cons, ih, toFinset_keys_definedAfter, declaredIds_cons, List.toFinset_append,
      Finset.union_assoc]

/-- The errors about several files and the identifiers that are defined after them are as many as
the errors of their own, the identifiers defined before them, and those that they declare. -/
theorem length_flatten_sceneErrors :
    (sceneErrors defined files).flatten.length +
        (Table.keys (files.foldl definedAfter defined)).toFinset.card =
      (Table.keys defined).toFinset.card + (files.map SceneFile.ownErrors).sum +
        (declaredIds files).length := by
  -- Every declaration is either a new key or one more error.
  induction files generalizing defined with
  | nil => simp [sceneErrors, declaredIds]
  | cons file rest ih =>
    have first := @length_fileErrors defined file
    have later := @ih (definedAfter defined file)
    rw [sceneErrors, List.flatten_cons, List.length_append, List.map_cons, List.sum_cons,
      List.foldl_cons, declaredIds_cons, List.length_append]
    omega

end Scenes

section Files

variable {disk : Disk} {corpus : Corpus} {registry : Schema.Registry} {survey : Survey}

/-- The files of a corpus besides its manifest, in the order in which a run takes them. -/
def contentFiles (corpus : Corpus) (disk : Disk) : List Path :=
  corpus.scenePaths disk ++ (optionalPaths corpus).filter fun path => disk.isFile path

/-- Scene files, each with the errors about it. -/
def sceneItems (paths : List Path) (files : List SceneFile) : List (Path × List String) :=
  paths.zip (sceneErrors [] files)

/-- Documents that may be left out and are there, each with the errors about it. -/
def optionalItems (disk : Disk) (paths : List Path) (files : List OptionalFile) :
    List (Path × List String) :=
  (paths.zip (files.map OptionalFile.errors)).filter fun item => disk.isFile item.1

/-- The files of a corpus besides its manifest, each with the errors about it. -/
def itemsOf (corpus : Corpus) (disk : Disk) (survey : Survey) : List (Path × List String) :=
  sceneItems (corpus.scenePaths disk) survey.scenes ++
    optionalItems disk (optionalPaths corpus) survey.optional

/-- What is said of several documents is said of the first ones and then of the others. -/
theorem optionalItems_append {first second : List Path} {early late : List OptionalFile}
    (lengths : first.length = early.length) :
    optionalItems disk (first ++ second) (early ++ late) =
      optionalItems disk first early ++ optionalItems disk second late := by
  -- The files stand beside their paths, so both split at one place.
  rw [optionalItems, List.map_append, List.zip_append (by simp [lengths]), List.filter_append]
  rfl

/-- A document that is there comes first with the errors about it. -/
theorem optionalItems_cons_of_isFile {path : Path} {paths : List Path} {file : OptionalFile}
    {files : List OptionalFile} (present : disk.isFile path = true) :
    optionalItems disk (path :: paths) (file :: files) =
      (path, file.errors) :: optionalItems disk paths files := by
  simp [optionalItems, present]

/-- A document that is not there is passed over. -/
theorem optionalItems_cons_of_not_isFile {path : Path} {paths : List Path} {file : OptionalFile}
    {files : List OptionalFile} (absent : disk.isFile path = false) :
    optionalItems disk (path :: paths) (file :: files) = optionalItems disk paths files := by
  simp [optionalItems, absent]

/-- What is said of documents that may be left out is said in every tree that holds the same. -/
theorem optionalItems_congr {other : Disk} {paths : List Path} {files : List OptionalFile}
    (same : ∀ path ∈ paths, disk.contents? path = other.contents? path) :
    optionalItems disk paths files = optionalItems other paths files := by
  refine List.filter_congr fun item member => ?_
  -- Whether a file is there is read off its contents.
  have listed : item.1 ∈ paths := (List.of_mem_zip member).1
  rw [Disk.isFile, Disk.isFile, same item.1 listed]

/-- Nothing is said of a document that may be left out and is not there. -/
theorem flatMap_optionalItems {entries : List (String × String)} {files : List OptionalFile}
    (checked : List.Forall₂ (fun (name, schema) file =>
      checkOptional disk corpus registry name schema = .ok file) entries files) :
    (optionalItems disk (entries.map fun (name, _) => corpus.optionalPath name) files).flatMap
      Prod.snd = files.flatMap OptionalFile.errors := by
  induction checked with
  | nil => rfl
  | @cons entry file entries files first _ ih =>
    rw [List.map_cons, List.flatMap_cons]
    cases present : disk.isFile (corpus.optionalPath entry.1) with
    | true => rw [optionalItems_cons_of_isFile present, List.flatMap_cons, ih]
    | false =>
      -- A document that is not there has no error.
      have silent : file.errors = [] :=
        (errors_eq_nil_iff first).2 fun there => absurd (present.symm.trans there) (by decide)
      rw [optionalItems_cons_of_not_isFile present, ih, silent, List.nil_append]

namespace Covers

/-- There are errors for each file of a corpus, in order. -/
theorem map_fst_itemsOf (covers : Covers disk corpus registry survey) :
    (itemsOf corpus disk survey).map Prod.fst = contentFiles corpus disk := by
  have scenes : (corpus.scenePaths disk).length = survey.scenes.length :=
    covers.scenes.length_eq
  have optional : (optionalPaths corpus).length = survey.optional.length := by
    rw [optionalPaths, List.length_map]
    exact covers.optional.length_eq
  -- It makes no difference whether absent files are left out before or after the pairing.
  have kept : (optionalItems disk (optionalPaths corpus) survey.optional).map Prod.fst =
      (((optionalPaths corpus).zip (survey.optional.map OptionalFile.errors)).map Prod.fst).filter
        fun path => disk.isFile path := by
    rw [optionalItems, List.filter_map]
    rfl
  rw [itemsOf, List.map_append, kept, sceneItems, List.map_fst_zip (by simp [scenes]),
    List.map_fst_zip (by simp [optional])]
  rfl

/-- The errors about the files of a corpus are those about its scene files, and then those about the
other documents. -/
theorem flatMap_itemsOf (covers : Covers disk corpus registry survey) :
    (itemsOf corpus disk survey).flatMap Prod.snd =
      (sceneErrors [] survey.scenes).flatten ++ survey.optional.flatMap OptionalFile.errors := by
  -- The survey has one result for each path, so pairing them loses none.
  have scenes : (corpus.scenePaths disk).length = survey.scenes.length :=
    covers.scenes.length_eq
  rw [itemsOf, List.flatMap_append, optionalPaths, flatMap_optionalItems covers.optional,
    List.flatMap_def, sceneItems, List.map_snd_zip (by simp [scenes])]

end Covers

end Files

end Validation

/-- The errors of a verdict are split up into those about the manifest, those about each other file
in the order in which the files are taken, and one more if a scene is missing. -/
structure Verdict.Itemizes (disk : Disk) (settings : Settings) (verdict : Verdict)
    (opening : List String) (items : List (Path × List String)) : Prop where
  files : items.map Prod.fst = Validation.contentFiles settings.corpus disk
  errors : verdict.errors = opening ++ items.flatMap Prod.snd ++
    if verdict.missing.ids.isEmpty then [] else [missingMessage verdict.missing.ids]
  -- The errors about each file are the ones that the run has found.
  drawn : ∃ loaded manifest survey,
    Schema.Registry.load disk settings.content settings.schemas = .ok loaded ∧
      Validation.Draws disk settings (.ofLoaded loaded) manifest opening survey verdict ∧
      items = Validation.itemsOf settings.corpus disk survey

namespace Validation

variable {disk : Disk} {settings : Settings} {loaded : Table (Path × Schema.Compiled)}
  {registry : Schema.Registry} {manifest : Json} {messages : List String} {survey : Survey}
  {verdict : Verdict}

/-- The errors of a verdict are those about the manifest, those about the scene files, those about
the other documents, and one more if a scene is missing. -/
theorem Draws.errors_eq (draws : Draws disk settings registry manifest messages survey verdict) :
    verdict.errors = messages ++ (sceneErrors [] survey.scenes).flatten ++
      survey.optional.flatMap OptionalFile.errors ++
        if verdict.missing.ids.isEmpty then [] else [missingMessage verdict.missing.ids] := by
  -- The verdict's missing ids are those of the cross-reference step.
  have missing : verdict.missing = (crossReference (.ofManifest manifest) survey).missing := by
    rw [draws.drawn]
    rfl
  rw [missing, draws.drawn]
  change (report settings _ messages survey _).errors = _
  rw [errors_report, errors_reportScenes]
  rfl

/-- The errors of a verdict and the distinct identifiers of its scene files are as many as the
errors that each file has of its own, all the declared identifiers, and one more if a scene is
missing: a file adds an error for declaring an identifier exactly when an earlier file has declared
it. -/
theorem Draws.length_errors
    (draws : Draws disk settings registry manifest messages survey verdict) :
    verdict.errors.length + (declaredIds survey.scenes).toFinset.card =
      messages.length + (survey.scenes.map SceneFile.ownErrors).sum +
        (declaredIds survey.scenes).length +
        (survey.optional.flatMap OptionalFile.errors).length +
        if verdict.missing.ids.isEmpty then 0 else 1 := by
  have scenes := @length_flatten_sceneErrors [] survey.scenes
  have defined := @toFinset_keys_foldl_definedAfter [] survey.scenes
  -- Nothing is defined before the first file.
  have nothing : (Table.keys ([] : Table String)).toFinset = ∅ := rfl
  rw [nothing, Finset.empty_union] at defined
  rw [defined, nothing, Finset.card_empty] at scenes
  rw [draws.errors_eq, List.length_append, List.length_append, List.length_append]
  split
  · rw [List.length_nil]
    omega
  · rw [List.length_singleton]
    omega

/-- The errors of a verdict that is drawn from files are split up by these files. -/
theorem Draws.itemizes
    (draws : Draws disk settings (.ofLoaded loaded) manifest messages survey verdict)
    (loading : Schema.Registry.load disk settings.content settings.schemas = .ok loaded) :
    verdict.Itemizes disk settings messages (itemsOf settings.corpus disk survey) := by
  constructor
  -- The items are the content files in the order they are read.
  case files => exact draws.covers.map_fst_itemsOf
  case errors =>
    rw [draws.errors_eq, draws.covers.flatMap_itemsOf]
    simp only [List.append_assoc]
  case drawn => exact ⟨loaded, manifest, survey, loading, draws, rfl⟩

end Validation

end Gamebook
