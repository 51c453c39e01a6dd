import Gamebook.Corpus.Load
import Gamebook.Log.Recording
import Gamebook.Report
import Gamebook.Schema.Registry
import Gamebook.Settings

/-! The validation of a whole corpus: every file by its schema, then all references together. -/

namespace Gamebook

/-- A scene document that could be read. -/
structure CheckedScene where
  -- The file as seen from the content directory.
  file : String
  document : Json
  -- The messages of its schema.
  messages : List String

/-- What becomes of a scene file. -/
inductive SceneFile where
  | unreadable (file reason : String)
  | checked (scene : CheckedScene)

/-- What becomes of a document that may be left out. -/
inductive OptionalFile where
  | absent
  | unreadable (file reason : String)
  | checked (file : String) (messages : List String)

/-- What is found in the files of a corpus, up to a fault if there is one. -/
structure Survey where
  scenes : List SceneFile
  optional : List OptionalFile
  fault : Option Fault

namespace CheckedScene

/-- The identifier that a scene declares. -/
def id? (scene : CheckedScene) : Option String := Corpus.declaredId? scene.document

/-- The scenes that a scene refers to. -/
def references (scene : CheckedScene) : IdSet := sceneReferences .everything scene.document

end CheckedScene

namespace SceneFile

/-- The scene of a file that could be read. -/
def scene? : SceneFile → Option CheckedScene
  | unreadable _ _ => none
  | checked scene => some scene

end SceneFile

namespace Validation

/-- The events that the messages about a file cause. -/
def failureEvents (file : String) (messages : List String) : List Event :=
  if messages.isEmpty then []
  else [⟨"scenelint.validation.schemas", .debug, "schema_validation_failed",
    [("file", .text file), ("error_count", .int messages.length)]⟩]

/-- The event of loaded schemas. -/
def schemasEvent (loaded : Table (Path × Schema.Compiled)) : Event :=
  ⟨"scenelint.validation.schemas", .debug, "schemas_loaded",
    [("schemas", .object (loaded.map fun (name, path, _) => (name, .text path.text)))]⟩

/-- The event of an index; a manifest that is no object causes none. -/
def indexEvents (manifest : Json) (index : SceneIndex) : List Event :=
  if manifest.isObject then
    [⟨"scenelint.graph.index", .debug, "scene_index_built",
      [("declared", .int index.entries.length), ("seeded", .int index.seeded.size),
        ("key_mismatches", .int index.keyMismatches.length)]⟩]
  else []

/-- The event of a manifest. -/
def manifestEvent (index : SceneIndex) : Event :=
  ⟨"scenelint.validation.pipeline", .info, "manifest_loaded",
    [("declared", .int index.entries.length)]⟩

/-- The events of a scene file. -/
def sceneEvents : SceneFile → List Event
  | .unreadable _ _ => []
  | .checked scene => failureEvents scene.file scene.messages ++
    [⟨"scenelint.validation.pipeline", .debug, "scene_loaded",
      [("file", .text scene.file), ("scene", (scene.id?.map Json.text).getD .null),
        ("references", .int scene.references.size)]⟩]

/-- The events of a document that may be left out. -/
def optionalEvents : OptionalFile → List Event
  | .checked file messages => failureEvents file messages
  | _ => []

/-- The event of a cross reference. -/
def crossReferenceEvent (found : CrossReference) : Event :=
  ⟨"scenelint.graph.analysis", .info, "reference_analysis_complete",
    [("referenced", .int found.referenced.size), ("missing", .int found.missing.size),
      ("unreachable", .int found.unreachable.size)]⟩

/-- The event of a verdict. -/
def verdictEvent (verdict : Verdict) : Event :=
  ⟨"scenelint.validation.pipeline", .info, "validation_complete",
    [("passed", .bool verdict.passed), ("errors", .int verdict.errors.length),
      ("warnings", .int verdict.warnings.length), ("files", .int verdict.fileCount)]⟩

/-- The messages of the schema of a name for a document. -/
def documentMessages (registry : Schema.Registry) (name : String) (document : Json)
    (file : String) : Except Fault (List String) :=
  match registry.check? name document with
  | none => .ok []
  | some findings => (findings.messages file).mapError .blocked

/-- Reads and checks a scene file. -/
def checkScene (disk : Disk) (corpus : Corpus) (registry : Schema.Registry) (path : Path) :
    Except Fault SceneFile :=
  let file := corpus.relativeName path
  match disk.readJson path with
  | .ok document => do
    let messages ← documentMessages registry "scene" document file
    return .checked ⟨file, document, messages⟩
  | .error (.unparsable reason) => .ok (.unreadable file reason)
  | .error (.integerTooLong digits) => .error (.integerTooLong digits)
  -- A file that is listed is there.
  | .error .notFound => .ok (.unreadable file "")

/-- Reads and checks a document that may be left out. -/
def checkOptional (disk : Disk) (corpus : Corpus) (registry : Schema.Registry)
    (file name : String) : Except Fault OptionalFile :=
  match corpus.optionalPath? disk file with
  | none => .ok .absent
  | some path =>
    match disk.readJson path with
    | .ok document => return .checked file (← documentMessages registry name document file)
    | .error (.unparsable reason) => .ok (.unreadable (corpus.relativeName path) reason)
    | .error (.integerTooLong digits) => .error (.integerTooLong digits)
    | .error .notFound => .ok .absent

/-- What a check on the items of a list comes to. -/
structure Checks (β : Type) where
  -- The results up to the first fault.
  results : List β
  fault : Option Fault
  -- The tree after the events of the results.
  disk : Disk

/-- The checks on the items of a list, up to the first fault. Each one sees the tree after the
events of the results before it. -/
def untilFault {α β : Type} (recording : Recording) (check : Disk → α → Except Fault β)
    (eventsOf : β → List Event) (disk : Disk) : List α → Checks β
  | [] => ⟨[], none, disk⟩
  | item :: rest =>
    match check disk item with
    | .error fault => ⟨[], some fault, disk⟩
    | .ok result =>
      let checks := untilFault recording check eventsOf
        (recording.after (eventsOf result) disk) rest
      { checks with results := result :: checks.results }

/-- The documents that may be left out, with the names of their schemas. -/
def optionalFiles : List (String × String) :=
  [(Corpus.itemsName, "items"), (Corpus.statsName, "stats")]

/-- Reads and checks every file of a corpus besides its manifest. -/
def survey (recording : Recording) (disk : Disk) (corpus : Corpus)
    (registry : Schema.Registry) : Survey :=
  let scenes := untilFault recording (fun disk => checkScene disk corpus registry) sceneEvents disk
    (corpus.scenePaths disk)
  match scenes.fault with
  | some fault => ⟨scenes.results, [], some fault⟩
  | none =>
    let optional := untilFault recording
      (fun disk (file, name) => checkOptional disk corpus registry file name) optionalEvents
      scenes.disk optionalFiles
    ⟨scenes.results, optional.results, optional.fault⟩

/-- The scenes of a survey that could be read. -/
def scenesOf (survey : Survey) : List CheckedScene := survey.scenes.filterMap SceneFile.scene?

/-- The events of a survey. -/
def surveyEvents (survey : Survey) : List Event :=
  survey.scenes.flatMap sceneEvents ++ survey.optional.flatMap optionalEvents

/-- The cross reference of a survey. -/
def crossReference (index : SceneIndex) (survey : Survey) : CrossReference :=
  .ofCorpus index.entries ((scenesOf survey).filterMap CheckedScene.id?)
    ((scenesOf survey).map CheckedScene.references) index.seeded

/-- The report on scene files in order; `defined` gives the file that first defines a scene. -/
def reportScenes (defined : Table String) (report : Report) : List SceneFile → Report
  | [] => report
  | .unreadable file reason :: rest =>
    reportScenes defined (report.addErrors [loadFailureMessage file reason]) rest
  | .checked scene :: rest =>
    let report := report.countFile.addErrors scene.messages
    match scene.id? with
    | none => reportScenes defined report rest
    | some id =>
      match Table.get? id defined with
      | some first =>
        reportScenes defined (report.addErrors [duplicateMessage id scene.file first]) rest
      | none => reportScenes (Table.put id scene.file defined) report rest

/-- The report after a document that may be left out. -/
def reportOptional (report : Report) : OptionalFile → Report
  | .absent => report
  | .unreadable file reason => report.addErrors [loadFailureMessage file reason]
  | .checked _ messages => report.countFile.addErrors messages

/-- The report on a survey that was carried to its end. -/
def report (settings : Settings) (index : SceneIndex) (manifestMessages : List String)
    (survey : Survey) (found : CrossReference) : Report :=
  let files := survey.optional.foldl reportOptional
    (reportScenes [] (Report.empty.addErrors manifestMessages) survey.scenes)
  let all := files.addCrossReference found.missing.ids found.unreachable.ids
  if settings.strict then
    all.addWarnings (index.keyMismatches.map fun (key, id) => mismatchMessage key id)
  else all

/-- A validation: the events on the way, and the verdict or what prevented it. -/
structure Run where
  events : List Event
  outcome : Except RunFailure Verdict

/-- Validates the files of a corpus once its manifest has been checked. -/
def runFiles (recording : Recording) (disk : Disk) (settings : Settings)
    (registry : Schema.Registry) (manifest : Json) (manifestMessages : List String) : Run :=
  let index := SceneIndex.ofManifest manifest
  let opening := failureEvents Corpus.manifestName manifestMessages
    ++ indexEvents manifest index ++ [manifestEvent index]
  let survey := survey recording (recording.after opening disk) settings.corpus registry
  let events := opening ++ surveyEvents survey
  match survey.fault with
  | some fault => ⟨events, .error (.ended fault)⟩
  | none =>
    let found := crossReference index survey
    let verdict := (report settings index manifestMessages survey found).verdict index.entries found
    ⟨events ++ [crossReferenceEvent found, verdictEvent verdict], .ok verdict⟩

/-- Validates a corpus once its schemas are loaded. -/
def runLoaded (recording : Recording) (disk : Disk) (settings : Settings)
    (registry : Schema.Registry) : Run :=
  match settings.corpus.readManifest disk with
  | .error failure => ⟨[], .error failure⟩
  | .ok manifest =>
    match documentMessages registry "manifest" manifest Corpus.manifestName with
    | .error fault => ⟨[], .error (.ended fault)⟩
    | .ok messages => runFiles recording disk settings registry manifest messages

/-- Validates a corpus. -/
def run (recording : Recording) (disk : Disk) (settings : Settings) : Run :=
  match Schema.Registry.load disk settings.content settings.schemas with
  | .error (.unloadable _ path reason) => ⟨[], .error (.cannotValidate path reason)⟩
  | .error (.ended fault) => ⟨[], .error (.ended fault)⟩
  | .ok loaded =>
    let opening := [schemasEvent loaded]
    let rest := runLoaded recording (recording.after opening disk) settings (.ofLoaded loaded)
    { rest with events := opening ++ rest.events }

/-- The verdict on a corpus, or what prevented it. -/
def verdict (disk : Disk) (settings : Settings) : Except RunFailure Verdict :=
  (run .nowhere disk settings).outcome

end Validation

end Gamebook
