import Gamebook.Proofs.Corpus
import Gamebook.Proofs.Validation.Report

/-! A survey that meets no fault checks every file of a corpus, each one by itself. -/

namespace Gamebook.Validation

variable {disk : Disk} {corpus : Corpus} {registry : Schema.Registry} {path : Path}
  {name schema : String}

/-- Checks that meet no fault give the result of every item, and leave the tree alone. -/
theorem untilFault_nowhere {α β : Type} {check : Disk → α → Except Fault β}
    {eventsOf : β → List Event} {items : List α}
    (clean : (untilFault .nowhere check eventsOf disk items).fault = none) :
    List.Forall₂ (fun item result => check disk item = .ok result) items
        (untilFault .nowhere check eventsOf disk items).results ∧
      (untilFault .nowhere check eventsOf disk items).disk = disk := by
  induction items with
  | nil => exact ⟨.nil, rfl⟩
  | cons item rest ih =>
    rw [untilFault] at clean ⊢
    cases checked : check disk item with
    | error fault => simp [checked] at clean
    | ok result =>
      -- Nothing is recorded, so the later items are checked on the same tree.
      simp only [checked, Recording.after_nowhere] at clean ⊢
      obtain ⟨results, same⟩ := ih clean
      exact ⟨.cons checked results, same⟩

section Results

variable {α β : Type} {check : α → Except Fault β} {items : List α} {results : List β}

/-- As many results have a property as there are items that give one. -/
theorem countP_results {holds : β → Bool} {fits : α → Bool}
    (checked : List.Forall₂ (fun item result => check item = .ok result) items results)
    (each : ∀ item result, check item = .ok result → holds result = fits item) :
    results.countP holds = items.countP fits := by
  -- The results stand beside the items they were got from.
  induction checked with
  | nil => rfl
  | cons first _ ih => rw [List.countP_cons, List.countP_cons, ih, each _ _ first]

/-- The values of the results are those of the items, in order. -/
theorem map_results {γ : Type} {told : β → γ} {fits : α → γ}
    (checked : List.Forall₂ (fun item result => check item = .ok result) items results)
    (each : ∀ item result, check item = .ok result → told result = fits item) :
    results.map told = items.map fits := by
  -- The results stand beside the items they were got from.
  induction checked with
  | nil => rfl
  | cons first _ ih => rw [List.map_cons, List.map_cons, ih, each _ _ first]

/-- The results of several items are those of the first ones and then those of the others. -/
theorem exists_append_of_forall₂ {holds : α → β → Prop} {first second : List α}
    (checked : List.Forall₂ holds (first ++ second) results) :
    ∃ before after, results = before ++ after ∧ List.Forall₂ holds first before ∧
      List.Forall₂ holds second after := by
  -- The results are split where the items are.
  induction first generalizing results with
  | nil => exact ⟨[], results, rfl, .nil, checked⟩
  | cons item rest ih =>
    cases checked with
    | cons head tail =>
      obtain ⟨before, after, rfl, early, late⟩ := ih tail
      exact ⟨_, after, rfl, .cons head early, late⟩

/-- Checks with the same outcomes have the same results. -/
theorem results_eq {again : α → Except Fault β} {others : List β}
    (checked : List.Forall₂ (fun item result => check item = .ok result) items results)
    (rechecked : List.Forall₂ (fun item result => again item = .ok result) items others)
    (same : ∀ item ∈ items, check item = again item) : results = others := by
  -- Each result is determined by its item.
  induction checked generalizing others with
  | nil =>
    cases rechecked
    rfl
  | @cons item result items results first _ ih =>
    cases rechecked with
    | cons second later =>
      have equal := (first.symm.trans (same item List.mem_cons_self)).trans second
      rw [Except.ok.inj equal,
        ih later fun other member => same other (List.mem_cons_of_mem _ member)]

end Results

/-- What the check of a scene file comes to: the messages of a document, or a reason. -/
theorem checkScene_cases {file : SceneFile}
    (checked : checkScene disk corpus registry path = .ok file) :
    (∃ document messages, disk.readJson path = .ok document ∧
        documentMessages registry "scene" document (corpus.relativeName path) = .ok messages ∧
        file = .checked ⟨corpus.relativeName path, document, messages⟩) ∨
      ∃ reason, (disk.readJson path = .error (.unparsable reason) ∨
          disk.readJson path = .error .notFound) ∧
        file = .unreadable (corpus.relativeName path) reason := by
  rw [checkScene] at checked
  cases read : disk.readJson path with
  | ok document =>
    rw [read] at checked
    obtain ⟨messages, found, given⟩ := bind_eq_ok_iff.1 checked
    cases given
    exact .inl ⟨document, messages, rfl, found, rfl⟩
  | error failure =>
    simp only [read] at checked
    -- Too long an integer ends the run, so it leaves no file behind.
    cases failure with
    | notFound => exact .inr ⟨"", .inr rfl, (Except.ok.inj checked).symm⟩
    | unparsable reason => exact .inr ⟨reason, .inl rfl, (Except.ok.inj checked).symm⟩
    | integerTooLong digits => cases checked

/-- What the check of a document that may be left out comes to. -/
theorem checkOptional_cases {file : OptionalFile}
    (checked : checkOptional disk corpus registry name schema = .ok file) :
    (disk.isFile (corpus.optionalPath name) = false ∧ file = .absent) ∨
      (∃ document messages, disk.readJson (corpus.optionalPath name) = .ok document ∧
        documentMessages registry schema document name = .ok messages ∧
        file = .checked name messages) ∨
      ∃ reason, disk.readJson (corpus.optionalPath name) = .error (.unparsable reason) ∧
        file = .unreadable (corpus.relativeName (corpus.optionalPath name)) reason := by
  unfold checkOptional Corpus.optionalPath? at checked
  rw [← Corpus.optionalPath] at checked
  -- The file is looked for before it is read, so it is not missing at reading.
  by_cases present : disk.isFile (corpus.optionalPath name) = true
  · simp only [if_pos present] at checked
    cases read : disk.readJson (corpus.optionalPath name) with
    | ok document =>
      simp only [read] at checked
      obtain ⟨messages, found, given⟩ := bind_eq_ok_iff.1 checked
      cases given
      exact .inr (.inl ⟨document, messages, rfl, found, rfl⟩)
    | error failure =>
      simp only [read] at checked
      cases failure with
      | notFound =>
        rw [Disk.readJson_eq_notFound_iff, present] at read
        cases read
      | unparsable reason => exact .inr (.inr ⟨reason, rfl, (Except.ok.inj checked).symm⟩)
      | integerTooLong digits => cases checked
  · simp only [if_neg present, Except.ok.injEq] at checked
    exact .inl ⟨Bool.eq_false_iff.2 present, checked.symm⟩

/-- The paths of the documents that may be left out. -/
def optionalPaths (corpus : Corpus) : List Path :=
  optionalFiles.map fun (file, _) => corpus.optionalPath file

/-- A scene file can be read and has no message of the scene schema. -/
def SceneFits (disk : Disk) (corpus : Corpus) (registry : Schema.Registry) (path : Path) : Prop :=
  ∃ document, disk.readJson path = .ok document ∧
    documentMessages registry "scene" document (corpus.relativeName path) = .ok []

/-- A document that may be left out is not there, or it can be read and has no message of its
schema. -/
def OptionalFits (disk : Disk) (corpus : Corpus) (registry : Schema.Registry) :
    String × String → Prop
  | (file, schema) => disk.isFile (corpus.optionalPath file) = true →
      ∃ document, disk.readJson (corpus.optionalPath file) = .ok document ∧
        documentMessages registry schema document file = .ok []

/-- The result for a scene file is clean exactly when the file fits. -/
theorem isClean_iff {file : SceneFile} (checked : checkScene disk corpus registry path = .ok file) :
    file.IsClean ↔ SceneFits disk corpus registry path := by
  -- An unreadable file is never clean and never fits.
  rcases checkScene_cases checked with
    ⟨document, messages, read, found, rfl⟩ | ⟨reason, unread, rfl⟩
  · simp [SceneFile.IsClean, SceneFits, read, found]
  · rcases unread with unread | unread <;> simp [SceneFile.IsClean, SceneFits, unread]

/-- The result for a document that may be left out has no error exactly when the document fits. -/
theorem errors_eq_nil_iff {file : OptionalFile}
    (checked : checkOptional disk corpus registry name schema = .ok file) :
    file.errors = [] ↔ OptionalFits disk corpus registry (name, schema) := by
  rcases checkOptional_cases checked with
    ⟨absent, rfl⟩ | ⟨document, messages, read, found, rfl⟩ | ⟨reason, unread, rfl⟩
  · simp [OptionalFile.errors, OptionalFits, absent]
  · have present := Disk.isFile_of_readJson read
    simp [OptionalFile.errors, OptionalFits, present, read, found]
  · -- A file that cannot be read is there all the same.
    have present : disk.isFile (corpus.optionalPath name) = true := by
      rw [← Bool.not_eq_false, ← Disk.readJson_eq_notFound_iff, unread]
      simp
    simp [OptionalFile.errors, OptionalFits, present, unread]

/-- A document that may be left out is counted exactly when it can be read. -/
theorem isChecked_eq {file : OptionalFile}
    (checked : checkOptional disk corpus registry name schema = .ok file) :
    file.isChecked = (disk.readJson (corpus.optionalPath name)).toOption.isSome := by
  -- A file counts as checked exactly when it was read.
  rcases checkOptional_cases checked with
    ⟨absent, rfl⟩ | ⟨document, messages, read, found, rfl⟩ | ⟨reason, unread, rfl⟩
  · rw [Disk.readJson_eq_notFound_iff.2 absent]
    rfl
  · rw [read]
    rfl
  · rw [unread]
    rfl

/-- A scene with the file, the document and the messages of a check. -/
def CheckedAs (corpus : Corpus) (registry : Schema.Registry) (scene : CheckedScene) :
    Path × Json → Prop
  | (path, document) => scene.file = corpus.relativeName path ∧ scene.document = document ∧
      documentMessages registry "scene" document (corpus.relativeName path) = .ok scene.messages

/-- The scenes of checked files are those that can be read, each with the messages of its schema. -/
theorem forall₂_checkedAs {paths : List Path} {files : List SceneFile}
    (checked : List.Forall₂ (fun path file => checkScene disk corpus registry path = .ok file)
      paths files) :
    List.Forall₂ (CheckedAs corpus registry) (files.filterMap SceneFile.scene?)
      (disk.readable paths) := by
  induction checked with
  | nil => exact .nil
  | cons first _ later =>
    -- A readable document adds one entry to both sides, and any other file adds none.
    rcases checkScene_cases first with
      ⟨document, messages, read, found, rfl⟩ | ⟨reason, unread, rfl⟩
    · rw [Disk.readable_cons_of_ok read]
      exact .cons ⟨rfl, rfl, found⟩ later
    · rcases unread with unread | unread
      · rw [Disk.readable_cons_of_error unread]
        exact later
      · rw [Disk.readable_cons_of_error unread]
        exact later

/-- Scenes that were checked as documents have these documents, in order. -/
theorem map_document_of_checkedAs {scenes : List CheckedScene} {documents : List (Path × Json)}
    (same : List.Forall₂ (CheckedAs corpus registry) scenes documents) :
    scenes.map CheckedScene.document = documents.map Prod.snd := by
  -- The scenes stand beside the documents they were checked as.
  induction same with
  | nil => rfl
  | cons first _ ih => rw [List.map_cons, List.map_cons, ih, first.2.1]

/-- A survey holds the result of every file of a corpus besides its manifest. -/
structure Covers (disk : Disk) (corpus : Corpus) (registry : Schema.Registry) (survey : Survey) :
    Prop where
  scenes : List.Forall₂ (fun path file => checkScene disk corpus registry path = .ok file)
    (corpus.scenePaths disk) survey.scenes
  optional : List.Forall₂ (fun (name, schema) file =>
    checkOptional disk corpus registry name schema = .ok file) optionalFiles survey.optional

/-- A survey that meets no fault covers its corpus. -/
theorem covers_of_fault_eq_none
    (clean : (survey .nowhere disk corpus registry).fault = none) :
    Covers disk corpus registry (survey .nowhere disk corpus registry) := by
  rw [survey] at clean ⊢
  cases ended : (untilFault .nowhere (fun disk => checkScene disk corpus registry) sceneEvents disk
      (corpus.scenePaths disk)).fault with
  | some fault => simp [ended] at clean
  | none =>
    simp only [ended] at clean ⊢
    -- The optional files are checked on the tree that the scenes leave, which is the same tree.
    obtain ⟨scenes, same⟩ := untilFault_nowhere ended
    obtain ⟨optional, -⟩ := untilFault_nowhere clean
    rw [same] at optional
    exact ⟨scenes, by rw [same]; exact optional⟩

namespace Covers

variable {survey : Survey}

/-- The readable scene documents of a corpus are the scenes of its survey. -/
theorem map_document (covers : Covers disk corpus registry survey) :
    (scenesOf survey).map CheckedScene.document = (corpus.readableScenes disk).map Prod.snd :=
  map_document_of_checkedAs (forall₂_checkedAs covers.scenes)

/-- The scenes of a survey are as many as the readable scene files. -/
theorem length_scenesOf (covers : Covers disk corpus registry survey) :
    (scenesOf survey).length = (corpus.readableScenes disk).length := by
  simpa using congrArg List.length covers.map_document

/-- The identifiers of a survey are those that the readable scene files declare, in order. -/
theorem declaredIds_eq (covers : Covers disk corpus registry survey) :
    declaredIds survey.scenes =
      (corpus.readableScenes disk).filterMap fun scene => Corpus.declaredId? scene.2 := by
  -- The identifier of a scene is read off its document.
  have named : declaredIds survey.scenes =
      ((scenesOf survey).map CheckedScene.document).filterMap Corpus.declaredId? := by
    rw [List.filterMap_map]
    rfl
  rw [named, covers.map_document, List.filterMap_map]
  rfl

/-- A survey has an identifier exactly when some readable scene file declares it. -/
theorem mem_declaredIds_iff (covers : Covers disk corpus registry survey) {id : String} :
    id ∈ declaredIds survey.scenes ↔ corpus.Defines disk id := by
  simp only [covers.declaredIds_eq, List.mem_filterMap, Corpus.declaredId?_eq_some_iff,
    Corpus.Defines]

/-- No identifier of a survey is declared twice exactly when no two readable scene files declare
one. -/
theorem nodup_declaredIds_iff (covers : Covers disk corpus registry survey) :
    (declaredIds survey.scenes).Nodup ↔ (corpus.readableScenes disk).Pairwise
      fun first second => ∀ id, DeclaresId first.2 id → ¬ DeclaresId second.2 id := by
  rw [covers.declaredIds_eq, List.Nodup, List.pairwise_filterMap]
  simp only [Corpus.declaredId?_eq_some_iff]
  -- Two declared identifiers differ exactly when no identifier is declared by both.
  constructor
  · intro apart
    exact apart.imp fun different id first second => different id first id second rfl
  · intro apart
    refine apart.imp fun different id first other second same => ?_
    exact different id first (same ▸ second)

/-- A scene of a survey refers to an identifier exactly when some readable document does. -/
theorem exists_mem_references_iff (covers : Covers disk corpus registry survey) {id : String} :
    (∃ set ∈ (scenesOf survey).map CheckedScene.references, id ∈ set) ↔
      corpus.Mentions disk id := by
  -- The references of a scene are those of its document.
  have referred : (scenesOf survey).map CheckedScene.references =
      ((scenesOf survey).map CheckedScene.document).map (sceneReferences .everything) := by
    rw [List.map_map]
    rfl
  rw [referred, covers.map_document]
  simp [Corpus.Mentions]

/-- The documents of a survey that may be left out and are counted are those that can be read. -/
theorem countP_isChecked (covers : Covers disk corpus registry survey) :
    survey.optional.countP OptionalFile.isChecked =
      (disk.readable (optionalPaths corpus)).length := by
  -- A file that may be left out counts when it can be read.
  rw [countP_results covers.optional fun _ _ checked => isChecked_eq checked, Disk.readable,
    List.length_filterMap_eq_countP, optionalPaths, List.countP_map]
  simp [Function.comp_def]

end Covers

end Gamebook.Validation
