import Gamebook.Proofs.Validation.Ending
import Gamebook.Proofs.Validation.Items

/-! When a corpus comes to a verdict, and what the verdicts on two corpora have in common. -/

namespace Gamebook

/-- Verdicts that find the same scenes, files and warnings, whatever their errors are. -/
structure Verdict.SameFindings (first second : Verdict) : Prop where
  fileCount : first.fileCount = second.fileCount
  warnings : first.warnings = second.warnings
  sceneIndex : first.sceneIndex = second.sceneIndex
  referenced : first.referenced = second.referenced
  missing : first.missing = second.missing
  unreachable : first.unreachable = second.unreachable

/-- Verdicts that find the same and agree on whether the content passes, with as many errors. -/
structure Verdict.AgreesWith (first second : Verdict) : Prop extends
    Verdict.SameFindings first second where
  passed : first.passed = second.passed
  errors : first.errors.length = second.errors.length

namespace Validation

variable {disk other : Disk} {corpus : Corpus} {registry : Schema.Registry} {path : Path}
  {name schema label : String} {document : Json} {messages : List String}

section Readings

/-- The number of errors that a scene file has of its own, by what reading it gives. -/
def ownErrorsOf (registry : Schema.Registry) : Except ReadFailure Json → Nat
  | .ok document =>
    ((registry.check? "scene" document).map fun findings => findings.violations.length).getD 0
  | .error _ => 1

/-- A document has one message for each violation of its schema. -/
theorem length_documentMessages
    (checked : documentMessages registry name document label = .ok messages) :
    messages.length =
      ((registry.check? name document).map fun findings => findings.violations.length).getD 0 := by
  rw [documentMessages] at checked
  cases judged : registry.check? name document with
  | none =>
    rw [judged] at checked
    cases checked
    rfl
  | some findings =>
    rw [judged] at checked
    unfold Schema.Findings.messages at checked
    -- A check that meets an obstacle has no messages at all.
    cases met : findings.obstacle with
    | some obstacle => simp [met, Except.mapError] at checked
    | none =>
      simp only [met, Except.mapError, Except.ok.injEq] at checked
      simp [← checked]

/-- The errors that a scene file has of its own depend on what reading it gives. -/
theorem ownErrors_eq {file : SceneFile}
    (checked : checkScene disk corpus registry path = .ok file) :
    file.ownErrors = ownErrorsOf registry (disk.readJson path) := by
  -- An unreadable file has one error of its own, for whichever reason it is unreadable.
  rcases checkScene_cases checked with
    ⟨document, messages, read, found, rfl⟩ | ⟨reason, unread, rfl⟩
  · rw [read]
    exact length_documentMessages found
  · rcases unread with unread | unread
    · rw [unread]
      rfl
    · rw [unread]
      rfl

/-- A scene file is checked by the contents of its file. -/
theorem checkScene_congr (same : disk.contents? path = other.contents? path) :
    checkScene disk corpus registry path = checkScene other corpus registry path := by
  rw [checkScene, checkScene, Disk.readJson_congr same]

/-- A document that may be left out is checked by the contents of its file. -/
theorem checkOptional_congr
    (same : disk.contents? (corpus.optionalPath name) =
      other.contents? (corpus.optionalPath name)) :
    checkOptional disk corpus registry name schema =
      checkOptional other corpus registry name schema := by
  -- Whether the file is there and what it holds are both read off the contents.
  have held : disk.isFile (corpus.optionalPath name) = other.isFile (corpus.optionalPath name) := by
    rw [Disk.isFile, Disk.isFile, same]
  unfold checkOptional Corpus.optionalPath?
  rw [← Corpus.optionalPath]
  dsimp only
  rw [held]
  by_cases present : other.isFile (corpus.optionalPath name) = true
  · simp only [if_pos present, Disk.readJson_congr same]
  · simp only [if_neg present]

end Readings

section Existence

variable {settings : Settings} {loaded : Table (Path × Schema.Compiled)} {first : Verdict}

/-- A file that reads like one that stops its run stops its run too. -/
theorem StopsRun.of_readJson_eq {registry : Schema.Registry} {twin : Path}
    (same : disk.readJson twin = other.readJson path)
    (stops : StopsRun disk registry name twin) : StopsRun other registry name path := by
  -- Both causes are about what reading the file gives.
  cases stops with
  | integerTooLong read => exact .integerTooLong (same ▸ read)
  | blocked read checked met => exact .blocked (same ▸ read) checked met

/-- A file that reads like one of a tree that comes to a verdict, or that only cannot be read, does
not end the run. -/
def ReadsLike (disk other : Disk) (twins : List Path) (path : Path) : Prop :=
  (∃ twin ∈ twins, other.readJson path = disk.readJson twin) ∨
    ∃ reason, other.readJson path = .error (.unparsable reason)

/-- A tree comes to a verdict if it has the schemas and the manifest of a tree that does, and if
each of its other files reads like one of that tree, or only cannot be read. -/
theorem exists_verdict_of_readsLike (ended : Validation.verdict disk settings = .ok first)
    (schemas : Schema.Registry.load disk settings.content settings.schemas =
      Schema.Registry.load other settings.content settings.schemas)
    (manifest : disk.readJson settings.corpus.manifestPath =
      other.readJson settings.corpus.manifestPath)
    (scenes : ∀ path ∈ settings.corpus.scenePaths other,
      ReadsLike disk other (settings.corpus.scenePaths disk) path)
    (optional : ∀ path ∈ optionalPaths settings.corpus, ReadsLike disk other [path] path) :
    ∃ second, Validation.verdict other settings = .ok second := by
  obtain ⟨loaded, document, messages, survey, loading, draws⟩ := exists_draws ended
  have read := readManifest_eq_ok_iff.1 draws.manifest_read
  have unstopped : ¬ Stops disk settings := by
    rw [← verdict_ended_iff_stops]
    rintro ⟨fault, failed⟩
    cases ended.symm.trans failed
  -- A file that stops the run of the other tree would stop that of the first.
  have pulls {name : String} {path : Path} {twins : List Path}
      (like : ReadsLike disk other twins path)
      (stops : StopsRun other (.ofLoaded loaded) name path) :
      ∃ twin ∈ twins, StopsRun disk (.ofLoaded loaded) name twin := by
    rcases like with ⟨twin, member, same⟩ | ⟨reason, unread⟩
    · exact ⟨twin, member, stops.of_readJson_eq same⟩
    · obtain ⟨digits, absurd⟩ := (stopsRun_iff_of_error unread).1 stops
      cases absurd
  cases outcome : Validation.verdict other settings with
  | ok second => exact ⟨second, rfl⟩
  | error failure =>
    exfalso
    -- A failure would be due to the schemas, the manifest, or one of the other files.
    cases failure with
    | cannotValidate path reason =>
      exact verdict_ne_cannotValidate (schemas ▸ loading)
        (readManifest_eq_ok_iff.2 (manifest ▸ read)) path reason outcome
    | ended fault =>
      rcases verdict_ended_iff_stops.1 ⟨fault, outcome⟩ with failed | ⟨loads, stops⟩ |
        ⟨loads, reads, stops⟩
      · cases (schemas ▸ loading).symm.trans failed
      · cases (schemas ▸ loading).symm.trans loads
        exact unstopped (.manifest loading (stops.of_readJson_eq manifest.symm))
      · cases (schemas ▸ loading).symm.trans loads
        refine unstopped (.file loading draws.manifest_read ?_)
        rcases stops with ⟨path, member, stops⟩ | ⟨file, member, stops⟩
        · exact .inl (pulls (scenes path member) stops)
        · obtain ⟨twin, same, stops⟩ := pulls (optional _ (List.mem_map_of_mem member)) stops
          cases List.mem_singleton.1 same
          exact .inr ⟨file, member, stops⟩

/-- Two trees with the same schemas and the same manifest have verdicts that are drawn from these,
with the same errors about the manifest. -/
theorem exists_common_draws {second : Verdict}
    (schemas : Schema.Registry.load disk settings.content settings.schemas =
      Schema.Registry.load other settings.content settings.schemas)
    (manifest : disk.readJson settings.corpus.manifestPath =
      other.readJson settings.corpus.manifestPath)
    (ended : Validation.verdict disk settings = .ok first)
    (ended' : Validation.verdict other settings = .ok second) :
    ∃ loaded document messages survey survey',
      Schema.Registry.load disk settings.content settings.schemas = .ok loaded ∧
      Draws disk settings (.ofLoaded loaded) document messages survey first ∧
      Draws other settings (.ofLoaded loaded) document messages survey' second := by
  obtain ⟨loaded, document, messages, survey, loading, draws⟩ := exists_draws ended
  obtain ⟨loaded', document', messages', survey', loading', draws'⟩ := exists_draws ended'
  -- Loading and reading have one result, so what the verdicts are drawn from is the same.
  cases (schemas ▸ loading).symm.trans loading'
  cases (manifest ▸ readManifest_eq_ok_iff.1 draws.manifest_read).symm.trans
    (readManifest_eq_ok_iff.1 draws'.manifest_read)
  cases draws.manifest_checked.symm.trans draws'.manifest_checked
  exact ⟨loaded, document, messages, survey, survey', loading, draws, draws'⟩

end Existence

section Findings

variable {settings : Settings} {index : SceneIndex} {survey : Survey} {found : CrossReference}
  {defined : Table String} {report : Report}

/-- Errors about scene files are no warnings. -/
theorem warnings_reportScenes {files : List SceneFile} :
    (reportScenes defined report files).warnings = report.warnings := by
  -- Scenes add errors and ids, and never a warning.
  induction files generalizing defined report with
  | nil => rfl
  | cons file rest ih =>
    cases file with
    | unreadable file reason => rw [reportScenes, ih]; rfl
    | checked scene =>
      rw [reportScenes]
      cases scene.id? with
      | none => rw [ih]; rfl
      | some id => cases found : Table.get? id defined <;> simp only [found, ih] <;> rfl

/-- Errors about the other documents are no warnings. -/
theorem warnings_foldl_reportOptional {files : List OptionalFile} :
    (files.foldl reportOptional report).warnings = report.warnings := by
  -- Optional files add errors and are counted, and never a warning.
  induction files generalizing report with
  | nil => rfl
  | cons file rest ih =>
    rw [List.foldl_cons, ih]
    cases file <;> rfl

/-- The warnings of a report depend on the index and on the unreachable scenes only. -/
theorem warnings_report :
    (Validation.report settings index messages survey found).warnings =
      (if found.unreachable.ids.isEmpty then [] else [unreachableMessage found.unreachable.ids]) ++
        if settings.strict then
          index.keyMismatches.map fun (key, id) => mismatchMessage key id
        else [] := by
  -- Only unreachable scenes and mismatched keys are warned of.
  rw [report_eq, Report.addWarnings, Report.addCrossReference, Report.addWarnings, Report.addErrors,
    warnings_foldl_reportOptional, warnings_reportScenes]
  rfl

variable {registry registry' : Schema.Registry} {manifest : Json} {messages' : List String}
  {survey' : Survey} {first second : Verdict}

/-- A verdict holds the entries of the manifest that it is drawn from. -/
theorem Draws.sceneIndex_eq
    (draws : Draws disk settings registry manifest messages survey first) :
    first.sceneIndex = (SceneIndex.ofManifest manifest).entries := by
  rw [draws.drawn]
  rfl

/-- A verdict warns of unreachable scenes, and of mismatches in the index if it is to be strict. -/
theorem Draws.warnings_eq
    (draws : Draws disk settings registry manifest messages survey first) :
    first.warnings = (if first.unreachable.ids.isEmpty then []
        else [unreachableMessage first.unreachable.ids]) ++
      if settings.strict then
        (SceneIndex.ofManifest manifest).keyMismatches.map fun (key, id) => mismatchMessage key id
      else [] := by
  -- The warnings name the scenes that the verdict holds.
  have unreachable : first.unreachable =
      (crossReference (.ofManifest manifest) survey).unreachable := by
    rw [draws.drawn]
    rfl
  rw [unreachable, draws.drawn]
  exact warnings_report

/-- A verdict passes exactly when it has no error. -/
theorem Draws.passed_eq (draws : Draws disk settings registry manifest messages survey first) :
    first.passed = first.errors.isEmpty := by
  rw [draws.drawn]
  rfl

/-- Verdicts find the same if they are drawn from the same manifest, from the same scene documents
in some order, and from as many other documents. -/
theorem Draws.sameFindings
    (draws : Draws disk settings registry manifest messages survey first)
    (draws' : Draws other settings registry' manifest messages' survey' second)
    (documents : ((settings.corpus.readableScenes disk).map Prod.snd).Perm
      ((settings.corpus.readableScenes other).map Prod.snd))
    (optional : (disk.readable (optionalPaths settings.corpus)).length =
      (other.readable (optionalPaths settings.corpus)).length) :
    first.SameFindings second := by
  -- What is mentioned and what is defined does not depend on the order of the documents.
  have mentions (id : String) :
      settings.corpus.Mentions disk id ↔ settings.corpus.Mentions other id := by
    simp only [Corpus.mentions_iff, documents.mem_iff]
  have defines (id : String) :
      settings.corpus.Defines disk id ↔ settings.corpus.Defines other id := by
    simp only [Corpus.defines_iff, documents.mem_iff]
  have referenced : first.referenced = second.referenced := by
    refine IdSet.eq_of_mem_iff fun id => ?_
    rw [draws.mem_referenced_iff, draws'.mem_referenced_iff, mentions]
  have missing : first.missing = second.missing := by
    refine IdSet.eq_of_mem_iff fun id => ?_
    rw [draws.mem_missing_iff, draws'.mem_missing_iff, referenced, defines]
  have unreachable : first.unreachable = second.unreachable := by
    refine IdSet.eq_of_mem_iff fun id => ?_
    rw [draws.mem_unreachable_iff, draws'.mem_unreachable_iff, referenced]
  constructor
  case fileCount =>
    have scenes := documents.length_eq
    rw [List.length_map, List.length_map] at scenes
    rw [draws.fileCount_eq, draws'.fileCount_eq, scenes, optional]
  case warnings => rw [draws.warnings_eq, draws'.warnings_eq, unreachable]
  case sceneIndex => rw [draws.sceneIndex_eq, draws'.sceneIndex_eq]
  case referenced => exact referenced
  case missing => exact missing
  case unreachable => exact unreachable

end Findings

section Alike

variable {settings : Settings} {first : Verdict}

/-- Two trees give a run the same to read, but perhaps the scene documents in another order. -/
structure ReadsAlike (disk other : Disk) (settings : Settings) : Prop where
  schemas : Schema.Registry.load disk settings.content settings.schemas =
    Schema.Registry.load other settings.content settings.schemas
  manifest : disk.contents? settings.corpus.manifestPath =
    other.contents? settings.corpus.manifestPath
  scenes : ((settings.corpus.scenePaths disk).map fun path => disk.readJson path).Perm
    ((settings.corpus.scenePaths other).map fun path => other.readJson path)
  optional : ∀ path ∈ optionalPaths settings.corpus, disk.contents? path = other.contents? path

/-- What reads alike reads alike the other way round. -/
theorem ReadsAlike.symm (alike : ReadsAlike disk other settings) :
    ReadsAlike other disk settings where
  -- Each clause is an equation or a permutation.
  schemas := alike.schemas.symm
  manifest := alike.manifest.symm
  scenes := alike.scenes.symm
  optional := fun path member => (alike.optional path member).symm

/-- A tree that reads like one that comes to a verdict comes to a verdict. -/
theorem ReadsAlike.exists_second (alike : ReadsAlike disk other settings)
    (ended : Validation.verdict disk settings = .ok first) :
    ∃ second, Validation.verdict other settings = .ok second := by
  apply exists_verdict_of_readsLike ended alike.schemas (Disk.readJson_congr alike.manifest)
  · -- Each scene file of the other tree reads as some scene file of the first.
    intro path member
    obtain ⟨twin, present, same⟩ := List.mem_map.1
      (alike.scenes.mem_iff.2 (List.mem_map_of_mem member))
    exact .inl ⟨twin, present, same.symm⟩
  · intro path member
    exact .inl ⟨path, List.mem_singleton_self path,
      (Disk.readJson_congr (alike.optional path member)).symm⟩

/-- Trees that read alike have the same scene documents, perhaps in another order. -/
theorem ReadsAlike.readableScenes_perm (alike : ReadsAlike disk other settings) :
    ((settings.corpus.readableScenes disk).map Prod.snd).Perm
      ((settings.corpus.readableScenes other).map Prod.snd) := by
  -- The same files read the same in another order.
  rw [Corpus.readableScenes, Corpus.readableScenes, Disk.map_snd_readable, Disk.map_snd_readable]
  exact alike.scenes.filterMap Except.toOption

section Drawn

variable {manifest : Json} {survey survey' : Survey} {second : Verdict}
  (alike : ReadsAlike disk other settings)
  (draws : Draws disk settings registry manifest messages survey first)
  (draws' : Draws other settings registry manifest messages survey' second)

include alike draws draws'

/-- Verdicts on trees that read alike have the same results for the other documents. -/
theorem ReadsAlike.optional_eq : survey.optional = survey'.optional :=
  results_eq draws.covers.optional draws'.covers.optional fun _ member =>
    checkOptional_congr (alike.optional _ (List.mem_map_of_mem member))

/-- Verdicts on trees that read alike find the same. -/
theorem ReadsAlike.sameFindings : first.SameFindings second := by
  -- The optional files agree one by one, the scenes up to their order.
  have counted : (disk.readable (optionalPaths settings.corpus)).length =
      (other.readable (optionalPaths settings.corpus)).length := by
    rw [← draws.covers.countP_isChecked, ← draws'.covers.countP_isChecked,
      alike.optional_eq draws draws']
  exact draws.sameFindings draws' alike.readableScenes_perm counted

/-- Verdicts on trees that read alike have as many errors. -/
theorem ReadsAlike.length_errors_eq : first.errors.length = second.errors.length := by
  -- The same identifiers are declared, and each file has as many errors of its own as its twin.
  have declared : (declaredIds survey.scenes).Perm (declaredIds survey'.scenes) := by
    have named := alike.readableScenes_perm.filterMap Corpus.declaredId?
    rw [List.filterMap_map, List.filterMap_map] at named
    rw [draws.covers.declaredIds_eq, draws'.covers.declaredIds_eq]
    exact named
  have own : (survey.scenes.map SceneFile.ownErrors).Perm
      (survey'.scenes.map SceneFile.ownErrors) := by
    have mapped := alike.scenes.map (ownErrorsOf registry)
    rw [List.map_map, List.map_map] at mapped
    rw [map_results draws.covers.scenes fun _ _ checked => ownErrors_eq checked,
      map_results draws'.covers.scenes fun _ _ checked => ownErrors_eq checked]
    exact mapped
  -- Both numbers solve the same equation.
  have errors := draws.length_errors
  have errors' := draws'.length_errors
  rw [List.toFinset_eq_of_perm _ _ declared, declared.length_eq, own.sum_nat,
    alike.optional_eq draws draws', (alike.sameFindings draws draws').missing] at errors
  omega

end Drawn

/-- Where one tree comes to a verdict, a tree that reads alike comes to a verdict that agrees with
it. -/
theorem ReadsAlike.exists_verdict (alike : ReadsAlike disk other settings)
    (ended : Validation.verdict disk settings = .ok first) :
    ∃ second, Validation.verdict other settings = .ok second ∧ first.AgreesWith second := by
  obtain ⟨second, ended'⟩ := alike.exists_second ended
  -- Both runs load the same schemas and manifest, so only the surveys can differ.
  obtain ⟨loaded, manifest, messages, survey, survey', -, draws, draws'⟩ :=
    exists_common_draws alike.schemas (Disk.readJson_congr alike.manifest) ended ended'
  have lengths := alike.length_errors_eq draws draws'
  -- A run passes when it has no errors, so equal numbers decide it alike.
  refine ⟨second, ended', alike.sameFindings draws draws', ?_, lengths⟩
  rw [draws.passed_eq, draws'.passed_eq, Bool.eq_iff_iff, List.isEmpty_iff, List.isEmpty_iff,
    ← List.length_eq_zero_iff, lengths, List.length_eq_zero_iff]

end Alike

end Validation

end Gamebook
