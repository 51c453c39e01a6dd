import Gamebook.Proofs.Schema.Load
import Gamebook.Proofs.Validation.Errors

/-! What ends a run with neither a verdict nor the report that it cannot start. -/

namespace Gamebook

namespace Validation

variable {disk : Disk} {settings : Settings} {registry : Schema.Registry} {name file : String}
  {path : Path} {document standard : Json}

section Files

/-- A file stops a run that judges it by the schema of a name: it writes an integer with too many
digits, or its check meets an obstacle. -/
inductive StopsRun (disk : Disk) (registry : Schema.Registry) (name : String) (path : Path) :
    Prop where
  | integerTooLong {digits : Nat} (read : disk.readJson path = .error (.integerTooLong digits))
  | blocked {document : Json} {findings : Schema.Findings} {obstacle : Schema.Obstacle}
      (read : disk.readJson path = .ok document)
      (checked : registry.check? name document = some findings)
      (met : findings.obstacle = some obstacle)

/-- There are no messages for a document exactly when its check meets an obstacle. -/
theorem documentMessages_error_iff :
    (∃ fault, documentMessages registry name document file = .error fault) ↔
      ∃ findings obstacle, registry.check? name document = some findings ∧
        findings.obstacle = some obstacle := by
  rw [documentMessages]
  -- A name without a schema checks nothing, and findings stop a run only at an obstacle.
  cases checked : registry.check? name document with
  | none => simp
  | some findings =>
    cases met : findings.obstacle <;> simp [Schema.Findings.messages, met, Except.mapError]

/-- There are no messages for a document of a run exactly when its file stops the run. -/
theorem documentMessages_error_iff_stopsRun (read : disk.readJson path = .ok document) :
    (∃ fault, documentMessages registry name document file = .error fault) ↔
      StopsRun disk registry name path := by
  rw [documentMessages_error_iff]
  constructor
  · rintro ⟨findings, obstacle, checked, met⟩
    exact .blocked read checked met
  -- The document is read, so too long an integer is not what stops it.
  · rintro (⟨unread⟩ | ⟨reread, checked, met⟩)
    · cases read.symm.trans unread
    · cases read.symm.trans reread
      exact ⟨_, _, checked, met⟩

/-- A file that cannot be read stops a run exactly when it writes an integer with too many digits.
-/
theorem stopsRun_iff_of_error {failure : ReadFailure}
    (unread : disk.readJson path = .error failure) :
    StopsRun disk registry name path ↔ ∃ digits, failure = .integerTooLong digits := by
  constructor
  -- Nothing was read, so no check can be what stops it.
  · rintro (⟨read⟩ | ⟨read, -, -⟩)
    · exact ⟨_, Except.error.inj (unread.symm.trans read)⟩
    · cases unread.symm.trans read
  · rintro ⟨digits, rfl⟩
    exact .integerTooLong unread

/-- The check of a scene file fails exactly when the file stops the run. -/
theorem checkScene_error_iff :
    (∃ fault, checkScene disk settings.corpus registry path = .error fault) ↔
      StopsRun disk registry "scene" path := by
  rw [checkScene]
  -- A document is stopped by its check, an unread file only by too long an integer.
  cases read : disk.readJson path with
  | ok document =>
    rw [← documentMessages_error_iff_stopsRun read]
    cases found : documentMessages registry "scene" document (settings.corpus.relativeName path) <;>
      simp [found, Bind.bind, Except.bind, pure, Except.pure]
  | error failure =>
    rw [stopsRun_iff_of_error read]
    cases failure <;> simp

/-- The check of a document that may be left out fails exactly when its file stops the run. -/
theorem checkOptional_error_iff :
    (∃ fault, checkOptional disk settings.corpus registry file name = .error fault) ↔
      StopsRun disk registry name (settings.corpus.optionalPath file) := by
  unfold checkOptional Corpus.optionalPath?
  rw [← Corpus.optionalPath]
  cases read : disk.readJson (settings.corpus.optionalPath file) with
  | ok document =>
    -- A document that is read is there.
    have present := Disk.isFile_of_readJson read
    rw [← documentMessages_error_iff_stopsRun read, if_pos present]
    cases found : documentMessages registry name document file <;>
      simp [read, found, Bind.bind, Except.bind, pure, Except.pure]
  | error failure =>
    rw [stopsRun_iff_of_error read]
    cases present : disk.isFile (settings.corpus.optionalPath file) with
    | false =>
      -- A file that is not there is not too long either.
      cases (Disk.readJson_eq_notFound_iff.2 present).symm.trans read
      simp [present]
    | true => cases failure <;> simp [present, read]

/-- Checks of items meet a fault exactly when one of them fails. -/
theorem untilFault_fault_iff {α β : Type} {check : Disk → α → Except Fault β}
    {eventsOf : β → List Event} {items : List α} :
    (∃ fault, (untilFault .nowhere check eventsOf disk items).fault = some fault) ↔
      ∃ item ∈ items, ∃ fault, check disk item = .error fault := by
  -- The loop goes on exactly as long as the checks before it succeed.
  induction items with
  | nil => simp [untilFault]
  | cons item rest ih =>
    rw [untilFault]
    cases checked : check disk item with
    | error fault => simp [checked]
    | ok result => simpa [checked] using ih

/-- Some file of a corpus besides its manifest stops a run. -/
def AnyStopsRun (disk : Disk) (corpus : Corpus) (registry : Schema.Registry) : Prop :=
  (∃ path ∈ corpus.scenePaths disk, StopsRun disk registry "scene" path) ∨
    ∃ file ∈ optionalFiles, StopsRun disk registry file.2 (corpus.optionalPath file.1)

/-- A survey meets a fault exactly when one of its files stops the run. -/
theorem survey_fault_iff :
    (∃ fault, (survey .nowhere disk settings.corpus registry).fault = some fault) ↔
      AnyStopsRun disk settings.corpus registry := by
  have scenes : (∃ fault, (untilFault .nowhere
        (fun disk => checkScene disk settings.corpus registry) sceneEvents disk
        (settings.corpus.scenePaths disk)).fault = some fault) ↔
      ∃ path ∈ settings.corpus.scenePaths disk, StopsRun disk registry "scene" path := by
    simp only [untilFault_fault_iff, checkScene_error_iff]
  rw [AnyStopsRun, ← scenes, survey]
  cases met : (untilFault .nowhere
      (fun disk => checkScene disk settings.corpus registry) sceneEvents disk
      (settings.corpus.scenePaths disk)).fault with
  | some fault => simp
  | none =>
    -- The scenes leave the tree as it is for the files that may be left out.
    obtain ⟨-, same⟩ := untilFault_nowhere met
    simp only [same, untilFault_fault_iff, checkOptional_error_iff, reduceCtorEq, exists_false,
      false_or]

end Files

section Run

/-- What stops a run before it has an answer: the loading of its schemas, or a file of the corpus
that is judged once the schemas and, for all but itself, the manifest are there. -/
inductive Stops (disk : Disk) (settings : Settings) : Prop where
  | loading {fault : Fault}
      (failed : Schema.Registry.load disk settings.content settings.schemas = .error (.ended fault))
  | manifest {loaded : Table (Path × Schema.Compiled)}
      (loading : Schema.Registry.load disk settings.content settings.schemas = .ok loaded)
      (stops : StopsRun disk (.ofLoaded loaded) "manifest" settings.corpus.manifestPath)
  | file {loaded : Table (Path × Schema.Compiled)} {manifest : Json}
      (loading : Schema.Registry.load disk settings.content settings.schemas = .ok loaded)
      (read : settings.corpus.readManifest disk = .ok manifest)
      (stops : AnyStopsRun disk settings.corpus (.ofLoaded loaded))

variable {loaded : Table (Path × Schema.Compiled)} {manifest : Json} {messages : List String}

/-- The manifest is read where its file holds a document. -/
theorem readManifest_eq_ok_iff {corpus : Corpus} :
    corpus.readManifest disk = .ok manifest ↔ disk.readJson corpus.manifestPath = .ok manifest := by
  rw [Corpus.readManifest]
  -- Each way of failing to read is a failure of the manifest.
  cases disk.readJson corpus.manifestPath with
  | ok document => simp
  | error failure => cases failure <;> simp

/-- Reading the manifest ends a run exactly when it writes an integer with too many digits. -/
theorem readManifest_ended_iff {corpus : Corpus} :
    (∃ fault, corpus.readManifest disk = .error (.ended fault)) ↔
      ∃ digits, disk.readJson corpus.manifestPath = .error (.integerTooLong digits) := by
  rw [Corpus.readManifest]
  -- A missing or unparsable manifest is reported; only too long an integer ends the run.
  cases disk.readJson corpus.manifestPath with
  | ok document => simp
  | error failure => cases failure <;> simp

/-- Once the manifest is checked, a run ends exactly when one of the other files stops it. -/
theorem runFiles_ended_iff :
    (∃ fault, (runFiles .nowhere disk settings registry manifest messages).outcome =
        .error (.ended fault)) ↔ AnyStopsRun disk settings.corpus registry := by
  rw [← survey_fault_iff, runFiles_nowhere]
  -- After the survey nothing can fail.
  cases surveyed : (survey .nowhere disk settings.corpus registry).fault with
  | none => simp only [reduceCtorEq]
  | some fault => simp only [Except.error.injEq, RunFailure.ended.injEq, Option.some.injEq]

/-- A run with its schemas ends exactly when a file of the corpus stops it. -/
theorem runLoaded_ended_iff :
    (∃ fault, (runLoaded .nowhere disk settings registry).outcome = .error (.ended fault)) ↔
      StopsRun disk registry "manifest" settings.corpus.manifestPath ∨
        (∃ manifest, settings.corpus.readManifest disk = .ok manifest) ∧
          AnyStopsRun disk settings.corpus registry := by
  rw [runLoaded]
  cases reading : settings.corpus.readManifest disk with
  | error failure =>
    -- Without a manifest the other files are not looked at.
    have absent : ∀ manifest, disk.readJson settings.corpus.manifestPath ≠ .ok manifest := by
      intro manifest read
      cases reading.symm.trans (readManifest_eq_ok_iff.2 read)
    cases read : disk.readJson settings.corpus.manifestPath with
    | ok manifest => exact absurd read (absent manifest)
    | error cause =>
      have ended : (∃ fault, settings.corpus.readManifest disk = .error (.ended fault)) ↔
          ∃ digits, disk.readJson settings.corpus.manifestPath = .error (.integerTooLong digits) :=
        readManifest_ended_iff
      rw [reading, read] at ended
      rw [stopsRun_iff_of_error read]
      simpa using ended
  | ok manifest =>
    have read := readManifest_eq_ok_iff.1 reading
    have checks : (∃ fault, documentMessages registry "manifest" manifest Corpus.manifestName =
        .error fault) ↔ StopsRun disk registry "manifest" settings.corpus.manifestPath :=
      documentMessages_error_iff_stopsRun read
    rw [← checks]
    dsimp only
    cases checked : documentMessages registry "manifest" manifest Corpus.manifestName with
    | error fault => simp only [Except.error.injEq, RunFailure.ended.injEq, exists_eq', true_or]
    | ok messages =>
      simpa only [reduceCtorEq, exists_false, false_or, Except.ok.injEq, exists_eq', true_and]
        using runFiles_ended_iff

/-- A run has no answer exactly when the loading of its schemas or one of its files stops it. -/
theorem verdict_ended_iff_stops :
    (∃ fault, Validation.verdict disk settings = .error (.ended fault)) ↔ Stops disk settings := by
  rw [Validation.verdict, run]
  cases loading : Schema.Registry.load disk settings.content settings.schemas with
  | error fault =>
    -- Where the schemas do not load, neither the manifest nor another file is judged.
    constructor
    · rintro ⟨cause, met⟩
      cases fault with
      | unloadable name path reason => cases met
      | ended fault => exact .loading loading
    · rintro (failed | ⟨loads, -⟩ | ⟨loads, -, -⟩)
      · cases loading.symm.trans failed
        exact ⟨_, rfl⟩
      · cases loading.symm.trans loads
      · cases loading.symm.trans loads
  | ok loaded =>
    dsimp only [Recording.after_nowhere]
    rw [runLoaded_ended_iff]
    constructor
    · rintro (stops | ⟨⟨manifest, read⟩, stops⟩)
      · exact .manifest loading stops
      · exact .file loading read stops
    · rintro (failed | ⟨loads, stops⟩ | ⟨loads, read, stops⟩)
      · cases loading.symm.trans failed
      · cases loading.symm.trans loads
        exact .inl stops
      · cases loading.symm.trans loads
        exact .inr ⟨⟨_, read⟩, stops⟩

/-- With its schemas and its manifest a run can start. -/
theorem verdict_ne_cannotValidate
    (loading : Schema.Registry.load disk settings.content settings.schemas = .ok loaded)
    (reading : settings.corpus.readManifest disk = .ok manifest) (path : Path) (reason : String) :
    Validation.verdict disk settings ≠ .error (.cannotValidate path reason) := by
  -- Schemas and manifest are there, and those are the only failures with a report.
  rw [Validation.verdict, run, loading]
  dsimp only [Recording.after_nowhere]
  rw [runLoaded, reading]
  dsimp only
  cases documentMessages (.ofLoaded loaded) "manifest" manifest Corpus.manifestName with
  | error fault => simp only [ne_eq, Except.error.injEq, reduceCtorEq, not_false_eq_true]
  | ok messages =>
    rw [runFiles_nowhere]
    cases (survey .nowhere disk settings.corpus (.ofLoaded loaded)).fault <;>
      simp only [ne_eq, Except.error.injEq, reduceCtorEq, not_false_eq_true]

section Plain

variable (plain : Schema.Registry.ArePlain disk settings.content settings.schemas)

include plain

end Plain

end Run

end Validation

end Gamebook
