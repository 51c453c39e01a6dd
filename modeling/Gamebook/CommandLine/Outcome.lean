import Gamebook.Fault
import Gamebook.Json.Writer
import Gamebook.Log.Event
import Gamebook.Settings.File
import Gamebook.Corpus.Load
import Gamebook.Terminal.Paragraph

/-! What a command prints, and the status with which it ends. -/

namespace Gamebook.CommandLine

/-- What a command that runs to its end prints; the status is zero where nothing is wrong. -/
structure Printed where
  status : Nat
  text : String
  deriving DecidableEq, Repr

/-- The outcome of a command, with the events on the way. -/
structure Outcome where
  events : List Event
  ending : Except Fault Printed

namespace Printed

/-- A document on several lines, in ASCII. -/
def document (value : Json) : String := value.written (.ascii (some 2)) ++ "\n"

/-- The report of an error that leaves nothing to report on. -/
def fatal (message : String) (asJson : Bool) : Printed :=
  if asJson then ⟨1, document (.object [("passed", .bool false), ("fatal", .text message)])⟩
  else ⟨1, Terminal.unbroken s!"[red]Error:[/red] {Terminal.escaped message}"⟩

/-- The report of settings that cannot be loaded. -/
def ofSettingsFailure (asJson : Bool) : SettingsFailure → Except Fault Printed
  | .unloadable path reason => .ok (fatal (settingsFailureMessage path reason) asJson)
  | .ended fault => .error fault

/-- The report of a run that cannot start. -/
def ofRunFailure (asJson : Bool) : RunFailure → Except Fault Printed
  | .cannotValidate path reason => .ok (fatal (cannotValidateMessage path reason) asJson)
  | .ended fault => .error fault

/-- A listed item. -/
def bullet (style : String) (text : String) : String := s!"  [{style}]•[/{style}] {text}"

end Printed

end Gamebook.CommandLine
