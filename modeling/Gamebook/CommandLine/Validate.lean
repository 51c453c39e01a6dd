import Gamebook.CommandLine.Outcome
import Gamebook.CommandLine.Request
import Gamebook.Validation

/-! The command that validates content. -/

namespace Gamebook.CommandLine

open Terminal (escaped paragraph unbroken blankLine)

/-- A list of messages under a heading in a style; without messages there is no heading. -/
def messageSection (style heading : String) (messages : List String) : String :=
  if messages.isEmpty then ""
  else paragraph s!"[{style}]{heading} ({messages.length}):[/{style}]"
    ++ String.join (messages.map fun message =>
      unbroken (Printed.bullet style (escaped message)))
    ++ blankLine

/-- The last line about a verdict. -/
def conclusion (verdict : Verdict) : String :=
  if !verdict.passed then "[red]✗[/red] Validation failed"
  else if verdict.hasWarnings then "[yellow]✓[/yellow] Validation passed with warnings"
  else "[green]✓[/green] Validation passed"

/-- A verdict as a text for readers. -/
def verdictText (content : Path) (verdict : Verdict) : String :=
  unbroken s!"Content: [cyan]{escaped content.text}[/cyan]"
    ++ paragraph s!"  Files validated: [bold]{verdict.fileCount}[/bold]"
    ++ paragraph s!"  Declared scenes: [bold]{verdict.sceneIndex.length}[/bold]"
    ++ paragraph s!"  Referenced scenes: [bold]{verdict.referenced.size}[/bold]"
    ++ blankLine
    ++ messageSection "red" "Errors" verdict.errors
    ++ messageSection "yellow" "Warnings" verdict.warnings
    ++ paragraph (conclusion verdict)

namespace ValidateRequest

/-- The settings of the content as the request changes them. -/
def settings (request : ValidateRequest) (settings : Settings) : Settings :=
  { settings with
    failOnWarnings := request.failOnWarnings || settings.failOnWarnings
    strict := request.strict || settings.strict
    schemas := request.schemas <|> settings.schemas }

/-- The event of a validation that starts. -/
def startEvent (request : ValidateRequest) : Event :=
  ⟨"scenelint.cli", .info, "validate_started", [("content_path", .text request.content.text)]⟩

/-- Whether a verdict lets the command succeed. -/
def succeeds (settings : Settings) (verdict : Verdict) : Bool :=
  verdict.passed && !(settings.failOnWarnings && verdict.hasWarnings)

/-- What is printed about a verdict. -/
def printed (request : ValidateRequest) (settings : Settings) (verdict : Verdict) : Printed :=
  { status := if succeeds settings verdict then 0 else 1
    text :=
      if request.asJson then verdict.text (some 2) ++ "\n"
      else verdictText settings.content verdict }

/-- Validates the content. -/
def outcome (recording : Recording) (disk : Disk) (environment : Table String)
    (request : ValidateRequest) : Outcome :=
  match Settings.load disk request.content environment with
  | .error failure => ⟨[], Printed.ofSettingsFailure request.asJson failure⟩
  | .ok loaded =>
    let settings := request.settings loaded
    let opening := [request.startEvent]
    let run := Validation.run recording (recording.after opening disk) settings
    { events := opening ++ run.events
      ending := match run.outcome with
        | .error failure => Printed.ofRunFailure request.asJson failure
        | .ok verdict => .ok (request.printed settings verdict) }

end ValidateRequest

end Gamebook.CommandLine
