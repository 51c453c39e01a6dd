import Gamebook.Proofs.IdSet
import Gamebook.Proofs.Table
import Gamebook.Validation

/-! When a report on the files of a corpus holds no error, and how many files it counts. -/

namespace Gamebook

namespace Report

variable {messages : List String} {report : Report}

/-- Counting a file adds no error. -/
@[simp] theorem errors_countFile : report.countFile.errors = report.errors := rfl

/-- Counting a file counts one more. -/
@[simp] theorem fileCount_countFile : report.countFile.fileCount = report.fileCount + 1 := rfl

/-- Errors are added after those that are there. -/
@[simp] theorem errors_addErrors : (report.addErrors messages).errors = report.errors ++ messages :=
  rfl

/-- Adding errors counts no file. -/
@[simp] theorem fileCount_addErrors : (report.addErrors messages).fileCount = report.fileCount :=
  rfl

/-- Warnings are no errors. -/
@[simp] theorem errors_addWarnings : (report.addWarnings messages).errors = report.errors := rfl

/-- Warnings count no file. -/
@[simp] theorem fileCount_addWarnings :
    (report.addWarnings messages).fileCount = report.fileCount := rfl

/-- No warning more leaves a report as it is. -/
@[simp] theorem addWarnings_nil : report.addWarnings [] = report := by
  rw [addWarnings, List.append_nil]

end Report

/-- A scene file that can be read and has no message of its schema. -/
def SceneFile.IsClean (file : SceneFile) : Prop :=
  ∃ scene, file = .checked scene ∧ scene.messages = []

namespace OptionalFile

/-- The errors about a document that may be left out. -/
def errors : OptionalFile → List String
  | absent => []
  | unreadable file reason => [loadFailureMessage file reason]
  | checked _ messages => messages

/-- Whether a document that may be left out has been read. -/
def isChecked : OptionalFile → Bool
  | checked _ _ => true
  | _ => false

end OptionalFile

namespace Validation

variable {defined : Table String} {report : Report} {scene : CheckedScene} {id : String}
  {files : List SceneFile}

/-- The identifiers that the readable files of a list declare, in order. -/
def declaredIds (files : List SceneFile) : List String :=
  (files.filterMap SceneFile.scene?).filterMap CheckedScene.id?

/-- A scene that declares an identifier brings it before the later ones. -/
theorem declaredIds_cons_of_some (named : scene.id? = some id) :
    declaredIds (.checked scene :: files) = id :: declaredIds files := by
  simp [declaredIds, SceneFile.scene?, named]

/-- A scene that declares no identifier brings none. -/
theorem declaredIds_cons_of_none (unnamed : scene.id? = none) :
    declaredIds (.checked scene :: files) = declaredIds files := by
  simp [declaredIds, SceneFile.scene?, unnamed]

/-- The report on scene files holds no error exactly when it held none, every file is clean, and no
identifier is declared twice. -/
theorem reportScenes_errors_eq_nil_iff :
    (reportScenes defined report files).errors = [] ↔
      report.errors = [] ∧ (∀ file ∈ files, file.IsClean) ∧ (declaredIds files).Nodup ∧
        ∀ id ∈ declaredIds files, id ∉ Table.keys defined := by
  induction files generalizing defined report with
  | nil => simp [reportScenes, declaredIds]
  | cons file rest ih =>
    cases file with
    | unreadable file reason => simp [reportScenes, ih, SceneFile.IsClean]
    | checked scene =>
      -- A file that can be read is clean exactly when its schema has no message for it.
      have clean : (SceneFile.checked scene).IsClean ↔ scene.messages = [] := by
        simp [SceneFile.IsClean]
      rw [reportScenes, List.forall_mem_cons, clean]
      cases named : scene.id? with
      | none =>
        rw [declaredIds_cons_of_none named, ih, Report.errors_addErrors, Report.errors_countFile,
          List.append_eq_nil_iff]
        tauto
      | some id =>
        rw [declaredIds_cons_of_some named, List.nodup_cons, List.forall_mem_cons]
        cases found : Table.get? id defined with
        | some first =>
          -- An identifier that is taken is an error, and is among the keys.
          have taken : id ∈ Table.keys defined := Table.mem_keys_iff.2 ⟨first, found⟩
          simp [found, ih, taken]
        | none =>
          have free : id ∉ Table.keys defined := Table.get?_eq_none_iff.1 found
          simp only [found, ih, Report.errors_addErrors, Report.errors_countFile,
            List.append_eq_nil_iff, Table.mem_keys_put, not_or]
          -- The later files are held against the keys and the new identifier.
          constructor
          · rintro ⟨⟨before, messages⟩, later, distinct, apart⟩
            exact ⟨before, ⟨messages, later⟩,
              ⟨fun again => (apart id again).1 rfl, distinct⟩, free, fun other member =>
                (apart other member).2⟩
          · rintro ⟨before, ⟨messages, later⟩, ⟨once, distinct⟩, -, apart⟩
            exact ⟨⟨before, messages⟩, later, distinct, fun other member =>
              ⟨fun same => once (same ▸ member), apart other member⟩⟩

/-- The report on scene files counts those that can be read. -/
theorem fileCount_reportScenes :
    (reportScenes defined report files).fileCount =
      report.fileCount + (files.filterMap SceneFile.scene?).length := by
  induction files generalizing defined report with
  | nil => rfl
  | cons file rest ih =>
    cases file with
    | unreadable file reason =>
      rw [reportScenes, ih]
      rfl
    | checked scene =>
      have later : (List.filterMap SceneFile.scene? (.checked scene :: rest)).length =
          (rest.filterMap SceneFile.scene?).length + 1 := rfl
      rw [reportScenes, later]
      -- What is said about the identifier does not change the count.
      cases scene.id? with
      | none => simp [ih]; omega
      | some id => cases found : Table.get? id defined <;> simp [found, ih] <;> omega

/-- Reports on documents that may be left out add the errors about each of them in order. -/
theorem errors_foldl_reportOptional {files : List OptionalFile} :
    (files.foldl reportOptional report).errors =
      report.errors ++ files.flatMap OptionalFile.errors := by
  -- Each file adds its own errors at the end.
  induction files generalizing report with
  | nil => simp
  | cons file rest ih =>
    rw [List.foldl_cons, ih]
    cases file <;> simp [reportOptional, OptionalFile.errors]

/-- Reports on documents that may be left out count those that are read. -/
theorem fileCount_foldl_reportOptional {files : List OptionalFile} :
    (files.foldl reportOptional report).fileCount =
      report.fileCount + files.countP OptionalFile.isChecked := by
  -- Only a file that was checked is counted.
  induction files generalizing report with
  | nil => rfl
  | cons file rest ih =>
    rw [List.foldl_cons, ih, List.countP_cons]
    cases file <;> simp [reportOptional, OptionalFile.isChecked]
    omega

section Whole

variable {settings : Settings} {index : SceneIndex} {manifestMessages : List String}
  {survey : Survey} {found : CrossReference}

/-- A strict report differs from another one by its last warnings only. -/
theorem report_eq :
    Validation.report settings index manifestMessages survey found =
      ((survey.optional.foldl reportOptional (reportScenes []
        (Report.empty.addErrors manifestMessages) survey.scenes)).addCrossReference
          found.missing.ids found.unreachable.ids).addWarnings
        (if settings.strict then index.keyMismatches.map fun (key, id) => mismatchMessage key id
          else []) := by
  rw [Validation.report]
  -- Outside the strict setting there are no warnings to add.
  split
  · rfl
  · rw [Report.addWarnings_nil]

/-- The errors of a report are those of the manifest, of the scene files and of the other documents,
and one more if a scene is missing. -/
theorem errors_report :
    (Validation.report settings index manifestMessages survey found).errors =
      (reportScenes [] (Report.empty.addErrors manifestMessages) survey.scenes).errors ++
        survey.optional.flatMap OptionalFile.errors ++
        if found.missing.ids.isEmpty then [] else [missingMessage found.missing.ids] := by
  rw [report_eq, Report.errors_addWarnings, Report.addCrossReference, Report.errors_addWarnings,
    Report.errors_addErrors, errors_foldl_reportOptional]

/-- A report holds no error exactly when the manifest has no message, every scene file is clean, no
identifier is declared twice, the other documents have no error, and no scene is missing. -/
theorem report_errors_eq_nil_iff :
    (Validation.report settings index manifestMessages survey found).errors = [] ↔
      manifestMessages = [] ∧ (∀ file ∈ survey.scenes, file.IsClean) ∧
        (declaredIds survey.scenes).Nodup ∧ (∀ file ∈ survey.optional, file.errors = []) ∧
        ∀ id, id ∉ found.missing := by
  -- The errors are those of four sources put one behind another.
  rw [errors_report, List.append_eq_nil_iff, List.append_eq_nil_iff, reportScenes_errors_eq_nil_iff,
    List.flatMap_eq_nil_iff, ← IdSet.ids_eq_nil_iff]
  cases found.missing.ids <;> simp [Report.empty, Table.keys, and_assoc]

/-- A report counts the scene files and the other documents that can be read. -/
theorem fileCount_report :
    (Validation.report settings index manifestMessages survey found).fileCount =
      (scenesOf survey).length + survey.optional.countP OptionalFile.isChecked := by
  -- Neither errors nor warnings count as files.
  rw [report_eq, Report.fileCount_addWarnings, Report.addCrossReference,
    Report.fileCount_addWarnings, Report.fileCount_addErrors, fileCount_foldl_reportOptional,
    fileCount_reportScenes, Report.fileCount_addErrors, scenesOf]
  simp [Report.empty]

end Whole

section Run

variable {recording : Recording} {disk : Disk} {settings : Settings} {registry : Schema.Registry}
  {manifest : Json} {messages : List String}

/-- The survey of a run whose manifest has been checked. -/
def surveyAfter (recording : Recording) (disk : Disk) (corpus : Corpus)
    (registry : Schema.Registry) (manifest : Json) (messages : List String) : Survey :=
  survey recording (recording.after (failureEvents Corpus.manifestName messages
    ++ indexEvents manifest (.ofManifest manifest) ++ [manifestEvent (.ofManifest manifest)]) disk)
    corpus registry

/-- The verdict on a manifest with its messages and on a survey of the other files. -/
def verdictOn (settings : Settings) (manifest : Json) (messages : List String) (survey : Survey) :
    Verdict :=
  let found := crossReference (.ofManifest manifest) survey
  (Validation.report settings (.ofManifest manifest) messages survey found).verdict
    (SceneIndex.ofManifest manifest).entries found

/-- Once its manifest has been checked, a run ends with the fault of its survey or with the verdict
on it. -/
theorem runFiles_outcome {survey : Survey}
    (surveyed : surveyAfter recording disk settings.corpus registry manifest messages = survey) :
    (runFiles recording disk settings registry manifest messages).outcome =
      match survey.fault with
      | some fault => .error (.ended fault)
      | none => .ok (verdictOn settings manifest messages survey) := by
  -- The survey decides the outcome, and recording it changes nothing.
  rw [surveyAfter] at surveyed
  unfold runFiles
  dsimp only
  rw [surveyed]
  cases survey.fault <;> rfl

/-- Where events are recorded nowhere, the survey is one of the tree as it is. -/
theorem runFiles_nowhere :
    (runFiles .nowhere disk settings registry manifest messages).outcome =
      match (survey .nowhere disk settings.corpus registry).fault with
      | some fault => .error (.ended fault)
      | none => .ok (verdictOn settings manifest messages
          (survey .nowhere disk settings.corpus registry)) :=
  runFiles_outcome rfl

end Run

end Validation

end Gamebook
