import Gamebook.Proofs.CrossReference
import Gamebook.Proofs.Result
import Gamebook.Proofs.Validation.Survey

/-! What the verdict on a corpus says about the files of the corpus. -/

namespace Gamebook

namespace Validation

variable {disk : Disk} {settings : Settings} {verdict : Verdict} {registry : Schema.Registry}
  {manifest : Json} {messages : List String} {survey : Survey} {id : String}

/-- Every file of a corpus can be read and has no message of its schema, no two scene files declare
the same identifier, and no scene is missing. -/
@[mk_iff] structure InOrder (disk : Disk) (corpus : Corpus) (registry : Schema.Registry)
    (manifest : Json) (missing : IdSet) : Prop where
  manifest : documentMessages registry "manifest" manifest Corpus.manifestName = .ok []
  scenes : ∀ path ∈ corpus.scenePaths disk, SceneFits disk corpus registry path
  distinct : (corpus.readableScenes disk).Pairwise
    fun first second => ∀ id, DeclaresId first.2 id → ¬ DeclaresId second.2 id
  optional : ∀ file ∈ optionalFiles, OptionalFits disk corpus registry file
  resolved : ∀ id, id ∉ missing

/-- A verdict that is drawn from a manifest, its messages, and a survey of the other files. -/
structure Draws (disk : Disk) (settings : Settings) (registry : Schema.Registry) (manifest : Json)
    (messages : List String) (survey : Survey) (verdict : Verdict) : Prop where
  manifest_read : settings.corpus.readManifest disk = .ok manifest
  manifest_checked : documentMessages registry "manifest" manifest Corpus.manifestName =
    .ok messages
  covers : Covers disk settings.corpus registry survey
  drawn : verdict = (report settings (.ofManifest manifest) messages survey
    (crossReference (.ofManifest manifest) survey)).verdict (SceneIndex.ofManifest manifest).entries
      (crossReference (.ofManifest manifest) survey)

/-- A verdict is drawn with the schemas of its run. -/
theorem exists_draws (ended : Validation.verdict disk settings = .ok verdict) :
    ∃ loaded manifest messages survey,
      Schema.Registry.load disk settings.content settings.schemas = .ok loaded ∧
        Draws disk settings (.ofLoaded loaded) manifest messages survey verdict := by
  rw [Validation.verdict, run] at ended
  cases loading : Schema.Registry.load disk settings.content settings.schemas with
  | error fault => cases fault <;> simp [loading] at ended
  | ok loaded =>
    simp only [loading, runLoaded, Recording.after_nowhere] at ended
    cases reading : settings.corpus.readManifest disk with
    | error failure => simp [reading] at ended
    | ok manifest =>
      simp only [reading] at ended
      cases checking : documentMessages (.ofLoaded loaded) "manifest" manifest
          Corpus.manifestName with
      | error fault =>
        rw [checking] at ended
        cases ended
      | ok messages =>
        rw [checking] at ended
        dsimp only at ended
        rw [runFiles_nowhere] at ended
        -- Only a survey without a fault comes to a verdict.
        cases surveyed : (Validation.survey .nowhere disk settings.corpus
            (.ofLoaded loaded)).fault with
        | some fault => simp [surveyed] at ended
        | none =>
          simp only [surveyed, Except.ok.injEq] at ended
          exact ⟨loaded, manifest, messages, _, rfl, reading, checking,
            covers_of_fault_eq_none surveyed, ended.symm⟩

namespace Draws

/-- The referenced scenes are the seeds of the manifest and what some scene document mentions. -/
theorem mem_referenced_iff (draws : Draws disk settings registry manifest messages survey verdict) :
    id ∈ verdict.referenced ↔ Seeds manifest id ∨ settings.corpus.Mentions disk id := by
  -- The verdict's references are those of the cross-reference step.
  have same : verdict.referenced = (crossReference (.ofManifest manifest) survey).referenced := by
    rw [draws.drawn]
    rfl
  rw [same, crossReference, CrossReference.mem_referenced_iff, SceneIndex.mem_seeded_iff,
    draws.covers.exists_mem_references_iff]

/-- The missing scenes are referenced, and neither declared nor the identifier of a document. -/
theorem mem_missing_iff (draws : Draws disk settings registry manifest messages survey verdict) :
    id ∈ verdict.missing ↔ id ∈ verdict.referenced ∧
      id ∉ Table.keys (SceneIndex.ofManifest manifest).entries ∧
        ¬ settings.corpus.Defines disk id := by
  rw [draws.drawn]
  -- Missing ids are told against the manifest's entries and the ids declared by files.
  change id ∈ (crossReference (.ofManifest manifest) survey).missing ↔ _
  rw [crossReference, CrossReference.mem_missing_iff, scenesOf, ← declaredIds,
    draws.covers.mem_declaredIds_iff]
  exact Iff.rfl

/-- The unreachable scenes are declared and not exempt, and are not referenced. -/
theorem mem_unreachable_iff
    (draws : Draws disk settings registry manifest messages survey verdict) :
    id ∈ verdict.unreachable ↔ id ∉ verdict.referenced ∧
      ∃ entry, Table.get? id (SceneIndex.ofManifest manifest).entries = some entry ∧
        ¬ Exempts entry := by
  rw [draws.drawn]
  -- The entries of a manifest have distinct keys, so each id has one entry to look at.
  change id ∈ (crossReference (.ofManifest manifest) survey).unreachable ↔ _
  rw [crossReference,
    CrossReference.mem_unreachable_iff (SceneIndex.nodup_keys_ofManifest manifest)]
  exact Iff.rfl

/-- No scene is both missing and unreachable. -/
theorem not_mem_unreachable_of_mem_missing
    (draws : Draws disk settings registry manifest messages survey verdict)
    (missing : id ∈ verdict.missing) : id ∉ verdict.unreachable := by
  -- A missing id is referenced, and an unreachable one is not.
  intro unreachable
  exact (draws.mem_unreachable_iff.1 unreachable).1 (draws.mem_missing_iff.1 missing).1

/-- A verdict counts the scene files and the other documents that can be read. -/
theorem fileCount_eq (draws : Draws disk settings registry manifest messages survey verdict) :
    verdict.fileCount = (settings.corpus.readableScenes disk).length +
      (disk.readable (optionalPaths settings.corpus)).length := by
  rw [draws.drawn]
  -- Scenes and optional files count as they can be read, the manifest not at all.
  change (report settings (.ofManifest manifest) messages survey _).fileCount = _
  rw [fileCount_report, draws.covers.length_scenesOf, draws.covers.countP_isChecked]

/-- A corpus passes exactly when all its files are in order. -/
theorem passed_iff (draws : Draws disk settings registry manifest messages survey verdict) :
    verdict.passed = true ↔
      InOrder disk settings.corpus registry manifest verdict.missing := by
  -- Each clause about results is the clause about the files that gave them.
  have checked : documentMessages registry "manifest" manifest Corpus.manifestName = .ok [] ↔
      messages = [] := by
    rw [draws.manifest_checked, Except.ok.injEq]
  have clean : (∀ file ∈ survey.scenes, file.IsClean) ↔
      ∀ path ∈ settings.corpus.scenePaths disk, SceneFits disk settings.corpus registry path :=
    forall_mem_iff_of_forall₂ draws.covers.scenes fun _ _ checked => isClean_iff checked
  have optional : (∀ file ∈ survey.optional, file.errors = []) ↔
      ∀ file ∈ optionalFiles, OptionalFits disk settings.corpus registry file :=
    forall_mem_iff_of_forall₂ draws.covers.optional fun _ _ checked => errors_eq_nil_iff checked
  rw [inOrder_iff, checked, ← clean, ← draws.covers.nodup_declaredIds_iff, ← optional, draws.drawn]
  change (report settings (.ofManifest manifest) messages survey _).errors.isEmpty = true ↔ _
  rw [List.isEmpty_iff, report_errors_eq_nil_iff]
  exact Iff.rfl

/-- What a passing corpus refers to is declared, or some scene file declares it as its own. -/
theorem known_of_mem_referenced
    (draws : Draws disk settings registry manifest messages survey verdict)
    (passed : verdict.passed = true) (referenced : id ∈ verdict.referenced) :
    id ∈ Table.keys (SceneIndex.ofManifest manifest).entries ∨ settings.corpus.Defines disk id := by
  have present : id ∉ verdict.missing := (draws.passed_iff.1 passed).resolved id
  rw [draws.mem_missing_iff] at present
  -- An id known nowhere would be missing, and a passing run has none.
  by_contra unknown
  rw [not_or] at unknown
  exact present ⟨referenced, unknown.1, unknown.2⟩

end Draws

end Validation

/-- A verdict says of the files of a corpus what is the case. -/
structure Verdict.IsExact (disk : Disk) (settings : Settings) (registry : Schema.Registry)
    (manifest : Json) (verdict : Verdict) : Prop where
  referenced : ∀ id, id ∈ verdict.referenced ↔
    Seeds manifest id ∨ settings.corpus.Mentions disk id
  missing : ∀ id, id ∈ verdict.missing ↔
    (Seeds manifest id ∨ settings.corpus.Mentions disk id) ∧
      id ∉ Table.keys (SceneIndex.ofManifest manifest).entries ∧ ¬ settings.corpus.Defines disk id
  unreachable : ∀ id, id ∈ verdict.unreachable ↔
    ¬ (Seeds manifest id ∨ settings.corpus.Mentions disk id) ∧
      ∃ entry, Table.get? id (SceneIndex.ofManifest manifest).entries = some entry ∧
        ¬ Exempts entry
  disjoint : ∀ id ∈ verdict.missing, id ∉ verdict.unreachable
  fileCount : verdict.fileCount = (settings.corpus.readableScenes disk).length +
    (disk.readable (Validation.optionalPaths settings.corpus)).length
  passed : verdict.passed = true ↔
    Validation.InOrder disk settings.corpus registry manifest verdict.missing

namespace Validation

variable {disk : Disk} {settings : Settings} {verdict : Verdict}

/-- Whatever a corpus holds, the verdict on it is exact. -/
theorem verdict_isExact (ended : Validation.verdict disk settings = .ok verdict) :
    ∃ loaded manifest, Schema.Registry.load disk settings.content settings.schemas = .ok loaded ∧
      settings.corpus.readManifest disk = .ok manifest ∧
      verdict.IsExact disk settings (.ofLoaded loaded) manifest := by
  obtain ⟨loaded, manifest, messages, survey, loading, draws⟩ := exists_draws ended
  refine ⟨loaded, manifest, loading, draws.manifest_read, ?_⟩
  -- Each clause is what the verdict was drawn from, said of the files.
  constructor
  case referenced => exact fun id => draws.mem_referenced_iff
  case missing =>
    intro id
    rw [draws.mem_missing_iff, draws.mem_referenced_iff]
  case unreachable =>
    intro id
    rw [draws.mem_unreachable_iff, draws.mem_referenced_iff]
  case disjoint => exact fun id missing => draws.not_mem_unreachable_of_mem_missing missing
  case fileCount => exact draws.fileCount_eq
  case passed => exact draws.passed_iff

/-- A file that holds a text of ASCII characters. -/
def asciiFile (text : String) : DiskEntry := .file (.bytes (text.toList.map Char.toUInt8))

/-- A file that holds a document in ASCII. -/
def jsonFile (place : List String) (document : Json) : List String × DiskEntry :=
  ("content" :: place, asciiFile (document.written (.ascii none)))

/-- A content directory with files, and with schemas that accept every document. -/
def openDisk (files : List (List String × DiskEntry)) : Disk :=
  ⟨[(["content"], .directory), (["content", "schemas"], .directory),
      (["content", "scenes"], .directory)] ++
    (["manifest", "scene", "items", "stats"].map fun name =>
      jsonFile ["schemas", Schema.Registry.fileName name] (.object [])) ++ files⟩

/-- The usual settings of the content in such a directory. -/
def openSettings : Settings := .defaults (.ofText "content")

/-- Content with a link that leads nowhere, a scene that nothing links to, and a broken file. -/
def faultyDisk : Disk := openDisk [
  jsonFile ["manifest.json"] (.object [("startingScene", .text "a"),
    ("sceneIndex", .object [("a", .object []), ("b", .object []),
      ("c", .object [("unreachable", .bool true)])])]),
  jsonFile ["scenes", "a.json"] (.object [("id", .text "a"),
    ("choices", .object [("to", .text "lost")])]),
  (["content", "items.json"], asciiFile "[")]

/-- What is computed of a verdict is so of a verdict that there is. -/
theorem exists_verdict {α : Type} {told : Verdict → α} {value : α}
    (found : (Validation.verdict disk settings).toOption.map told = some value) :
    ∃ verdict, Validation.verdict disk settings = .ok verdict ∧ told verdict = value :=
  exists_ok_of_map found

/-- The verdict on the faulty content, set by set. -/
theorem verdict_isExact_faulty :
    ∃ verdict, Validation.verdict faultyDisk openSettings = .ok verdict ∧
      (verdict.passed, verdict.referenced.ids, verdict.missing.ids, verdict.unreachable.ids,
        verdict.fileCount) = (false, ["a", "lost"], ["lost"], ["b"], 1) ∧
      ∃ loaded manifest,
        Schema.Registry.load faultyDisk openSettings.content openSettings.schemas = .ok loaded ∧
        openSettings.corpus.readManifest faultyDisk = .ok manifest ∧
        verdict.IsExact faultyDisk openSettings (.ofLoaded loaded) manifest := by
  -- The run is computed once, and the theorem is applied to what came out.
  obtain ⟨verdict, ended, told⟩ : ∃ verdict,
      Validation.verdict faultyDisk openSettings = .ok verdict ∧
        (verdict.passed, verdict.referenced.ids, verdict.missing.ids, verdict.unreachable.ids,
          verdict.fileCount) = (false, ["a", "lost"], ["lost"], ["b"], 1) :=
    exists_verdict (by decide +kernel)
  exact ⟨verdict, ended, told, verdict_isExact ended⟩

end Validation

end Gamebook
