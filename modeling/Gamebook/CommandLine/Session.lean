import Gamebook.CommandLine.Reachability
import Gamebook.CommandLine.Validate
import Gamebook.Log.Recording

/-! A run of the program from its arguments to what it prints and records. -/

namespace Gamebook.CommandLine

/-- The version of the program. -/
def version : String := "0.1.0"

/-- The variables of the environment that matter to a run. -/
def variableNames : List String :=
  [contentVariable, Settings.failOnWarningsVariable, Settings.strictVariable]

/-- How a run of the program ends. -/
inductive Ending where
  | refused (refusal : Refusal)
  | finished (printed : Printed)
  | broken (fault : Fault)

/-- A run of the program. -/
structure Session where
  journal : Journal
  ending : Ending

namespace Request

/-- Does what is asked. -/
def outcome (recording : Recording) (disk : Disk) (environment : Table String) :
    Request → Outcome
  | .validate request => request.outcome recording disk environment
  | .reachability request => request.outcome recording disk environment
  | .version => ⟨[], .ok ⟨0, Terminal.paragraph s!"scenelint v{CommandLine.version}"⟩⟩

/-- Whether files are read to do what is asked. -/
def readsFiles : Request → Bool
  | .version => false
  | _ => true

end Request

/-- Whether a command line asks for anything that reads files. -/
def readsFiles (environment : Table String) (arguments : List String) : Bool :=
  match CommandCall.read arguments with
  | .error _ => false
  | .ok call => match Request.read environment call.arguments call.command with
    | .error _ => false
    | .ok request => request.readsFiles

namespace Session

/-- How a run ends by the outcome of its command. -/
def endingOf : Except Fault Printed → Ending
  | .ok printed => .finished printed
  | .error fault => .broken fault

/-- Runs a command whose log file is there, with what the command records in it. -/
def runCommand (journal : Journal) (environment : Table String) (call : CommandCall) : Session :=
  match Request.read environment call.arguments call.command with
  | .error refusal => ⟨journal, .refused refusal⟩
  | .ok request =>
    let outcome := request.outcome (.ofJournal journal) journal.disk environment
    ⟨journal.recordAll outcome.events, endingOf outcome.ending⟩

/-- Runs the program. The log file is there as soon as a command is known. -/
def run (journal : Journal) (environment : Table String) (arguments : List String) : Session :=
  match CommandCall.read arguments with
  | .error refusal => ⟨journal, .refused refusal⟩
  | .ok call =>
    match journal.configure call.preamble.verbosity call.preamble.logFile with
    | .error fault => ⟨journal, .broken (.unwritable fault)⟩
    | .ok journal => runCommand journal environment call

/-- The status with which a run ends. -/
def status (session : Session) : Nat :=
  match session.ending with
  | .refused .help => 0
  | .refused (.misuse _) => 2
  | .finished printed => printed.status
  | .broken _ => 1

end Session

end Gamebook.CommandLine
