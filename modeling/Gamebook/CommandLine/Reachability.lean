import Gamebook.CommandLine.Outcome
import Gamebook.CommandLine.Request
import Gamebook.Reachability
import Gamebook.Report
import Gamebook.Terminal.Grid
import Gamebook.Validation

/-! The command that reports which scenes are reached from the start. -/

namespace Gamebook.CommandLine

open Terminal (escaped paragraph unbroken blankLine)

/-- Identifiers in one line. -/
def listed (ids : List String) : String := String.intercalate ", " ids

/-- The table of scenes that are not reached. -/
def unreachableGrid (scenes : List UnreachableScene) : Terminal.Grid :=
  { title := "Unreachable scenes"
    headings := ["Scene", "Reason", "Linked from"]
    rows := scenes.map fun scene => [escaped scene.id, scene.reason.name,
      if scene.sources.isEmpty then "-" else escaped (listed scene.sources)] }

/-- A cycle that ends where it begins. -/
def cycleText (cycle : List String) : String :=
  String.intercalate " -> " (cycle ++ cycle.take 1)

/-- The cycles under a heading. -/
def cycleSection (cycles : List (List String)) : String :=
  if cycles.isEmpty then ""
  else paragraph s!"[dim]Cycles ({cycles.length}):[/dim]"
    ++ String.join (cycles.map fun cycle =>
      paragraph (Printed.bullet "dim" (escaped (cycleText cycle))))
    ++ blankLine

/-- The last line about what is reached. -/
def reachabilityConclusion (report : Reachability) : String :=
  if report.start.isNone then "[red]✗[/red] No starting scene declared"
  else if report.unreachable.isEmpty then "[green]✓[/green] All declared scenes are reachable"
  else s!"[red]✗[/red] {report.unreachable.length} scene(s) unreachable"

/-- A reachability report as a text for readers, with the messages about unreadable files. -/
def reachabilityText (report : Reachability) (failures : List String) : String :=
  let start := report.start.getD "-"
  paragraph s!"Starting scene: [cyan]{escaped start}[/cyan]"
    ++ paragraph
      s!"  Reachable: [bold]{report.reachable.size}[/bold] of {report.declaredCount} declared"
    ++ (if report.exempt.isEmpty then ""
      else paragraph s!"  Exempt: {escaped (listed report.exempt)}")
    ++ blankLine
    ++ (if report.unreachable.isEmpty then ""
      else (unreachableGrid report.unreachable).text ++ blankLine)
    ++ cycleSection report.cycles
    ++ String.join (failures.map fun failure =>
      unbroken (Printed.bullet "yellow" (escaped failure)))
    ++ paragraph (reachabilityConclusion report)

/-- A reachability report as a document, with the messages about unreadable files. -/
def reachabilityDocument (report : Reachability) (failures : List String) : Json :=
  .object (report.documentMembers ++ [("loadErrors", .list (failures.map .text))])

/-- The event of a reachability report. -/
def reachabilityEvent (report : Reachability) : Event :=
  ⟨"scenelint.graph.traversal", .info, "reachability_analysis_complete",
    [("total", .int report.declaredCount), ("reachable", .int report.reachable.size),
      ("unreachable", .int report.unreachable.length), ("cycles", .int report.cycles.length)]⟩

/-- The starting scene that a manifest names, if it names one by a text. -/
def namedStart? (manifest : Json) : Option String := (manifest.get? "startingScene").bind Json.text?

namespace ReachabilityRequest

/-- The corpus that the settings of the content point at. -/
def corpus (request : ReachabilityRequest) (settings : Settings) : Corpus :=
  .below request.content settings.scenes

/-- The report that is asked for, on the scenes of a manifest. -/
def report (request : ReachabilityRequest) (settings : Settings) (manifest : Json)
    (scenes : Table Json) : Reachability :=
  .ofCorpus (.ofManifest manifest) (namedStart? manifest) scenes
    (request.maxDepth.getD settings.maxDepth) request.following

/-- What is printed about a report. -/
def printed (request : ReachabilityRequest) (report : Reachability) (failures : List String) :
    Printed :=
  { status := if report.isValid then 0 else 1
    text :=
      if request.asJson then Printed.document (reachabilityDocument report failures)
      else reachabilityText report failures }

/-- Reports on the scenes of a manifest. -/
def outcomeOfManifest (recording : Recording) (disk : Disk) (request : ReachabilityRequest)
    (settings : Settings) (manifest : Json) : Outcome :=
  let corpus := request.corpus settings
  let opening := Validation.indexEvents manifest (.ofManifest manifest)
  match corpus.loadScenes (recording.after opening disk) with
  | .error fault => ⟨opening, .error fault⟩
  | .ok loaded =>
    let report := request.report settings manifest loaded.scenes
    let failures := loaded.failures.map fun (path, reason) =>
      loadFailureMessage (corpus.relativeName path) reason
    ⟨opening ++ [reachabilityEvent report], .ok (request.printed report failures)⟩

/-- Reports which scenes of the content are reached. -/
def outcome (recording : Recording) (disk : Disk) (environment : Table String)
    (request : ReachabilityRequest) : Outcome :=
  match Settings.load disk request.content environment with
  | .error failure => ⟨[], Printed.ofSettingsFailure request.asJson failure⟩
  | .ok settings =>
    match (request.corpus settings).readManifest disk with
    | .error failure => ⟨[], Printed.ofRunFailure request.asJson failure⟩
    | .ok manifest => request.outcomeOfManifest recording disk settings manifest

end ReachabilityRequest

end Gamebook.CommandLine
