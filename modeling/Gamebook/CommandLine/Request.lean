import Gamebook.CommandLine.Grammar
import Gamebook.Reference.Scene
import Gamebook.Settings.Read

/-! What a command line asks for. -/

namespace Gamebook.CommandLine

/-- Why nothing is done. -/
inductive Refusal where
  -- Only help is asked for.
  | help
  | misuse (cause : Misuse)
  deriving DecidableEq, Repr

/-- The commands. -/
inductive Command where
  | validate | reachability | version
  deriving DecidableEq, Repr

/-- What stands before a command: how much is shown on the console and where events are recorded. -/
structure Preamble where
  verbosity : Nat
  logFile : Option Path
  deriving DecidableEq, Repr

/-- A request to validate content. Switches make the settings of the content stricter. -/
structure ValidateRequest where
  content : Path
  schemas : Option Path
  failOnWarnings : Bool
  strict : Bool
  asJson : Bool
  deriving DecidableEq, Repr

/-- A request to report which scenes are reached; a depth replaces that of the settings. -/
structure ReachabilityRequest where
  content : Path
  maxDepth : Option Int
  following : Following
  asJson : Bool
  deriving DecidableEq, Repr

/-- What is asked of the program. -/
inductive Request where
  | validate (request : ValidateRequest)
  | reachability (request : ReachabilityRequest)
  | version
  deriving DecidableEq, Repr

/-- The name of a command. -/
def Command.name : Command → String
  | validate => "validate"
  | reachability => "reachability"
  | version => "version"

/-- The command of a name. -/
def Command.ofName? (name : String) : Option Command :=
  [Command.validate, .reachability, .version].find? fun command => command.name = name

/-- An option before the command. -/
inductive PreambleOption where
  | help
  | verbose
  | logFile (file : String)
  deriving DecidableEq, Repr

/-- An option of the validation. -/
inductive ValidateOption where
  | help
  | content (path : String)
  | schemas (path : String)
  | failOnWarnings
  | strict
  | json
  deriving DecidableEq, Repr

/-- An option of the reachability report. -/
inductive ReachabilityOption where
  | help
  | content (path : String)
  | maxDepth (value : String)
  | noGoto
  | json
  deriving DecidableEq, Repr

/-- An option that asks for help. -/
def helpRule {α : Type} (meaning : α) : OptionRule α := ⟨"--help", some 'h', .switch meaning⟩

/-- The option that names the content directory. -/
def contentRule {α : Type} (meaning : String → α) : OptionRule α :=
  ⟨"--content-path", some 'c', .valued meaning⟩

/-- The options before the command. -/
def preambleRules : List (OptionRule PreambleOption) := [
  helpRule .help,
  ⟨"--verbose", some 'v', .switch .verbose⟩,
  ⟨"--log-file", none, .valued .logFile⟩]

/-- The options of the validation. -/
def validateRules : List (OptionRule ValidateOption) := [
  helpRule .help,
  contentRule .content,
  ⟨"--schemas-path", none, .valued .schemas⟩,
  ⟨"--fail-on-warnings", none, .switch .failOnWarnings⟩,
  ⟨"--strict", none, .switch .strict⟩,
  ⟨"--json", none, .switch .json⟩]

/-- The options of the reachability report. -/
def reachabilityRules : List (OptionRule ReachabilityOption) := [
  helpRule .help,
  contentRule .content,
  ⟨"--max-depth", none, .valued .maxDepth⟩,
  ⟨"--no-goto", none, .switch .noGoto⟩,
  ⟨"--json", none, .switch .json⟩]

/-- The options of a command that has no others. -/
def bareRules : List (OptionRule Unit) := [helpRule ()]

/-- The last of the values that options give. -/
def last? {α β : Type} (value? : α → Option β) (options : List α) : Option β :=
  (options.filterMap value?).getLast?

/-- The variable that names the content directory where no option does. -/
def contentVariable : String := "SCENELINT_CONTENT_PATH"

/-- The content directory: the one that is named, or that of a variable which is not empty, or the
usual one. -/
def contentPath (environment : Table String) (named : Option String) : Path :=
  match named, Table.get? contentVariable environment with
  | some path, _ => .ofText path
  | none, some path => if path = "" then Settings.defaultContent else .ofText path
  | none, none => Settings.defaultContent

/-- A depth given as an option. -/
def readDepth (value : String) : Except Refusal Int :=
  match Text.readPaddedInteger value.toList with
  | .ok depth => if depth < 1 then .error (.misuse (.notADepth value)) else .ok depth
  | .error _ => .error (.misuse (.notADepth value))

/-- A line with options only; help comes before any other refusal. -/
def readOptions {α : Type} [DecidableEq α] (rules : List (OptionRule α)) (help : α)
    (arguments : List String) : Except Refusal (List α) :=
  match OptionRule.readLine rules true arguments with
  | .error misuse => .error (.misuse misuse)
  | .ok line => if help ∈ line.options then .error .help else match line.arguments with
    | [] => .ok line.options
    | argument :: _ => .error (.misuse (.unexpectedArgument argument))

/-- Reads the options of the validation. -/
def readValidate (environment : Table String) (arguments : List String) :
    Except Refusal ValidateRequest := do
  let options ← readOptions validateRules .help arguments
  let path? : ValidateOption → Option String
    | .content path => some path
    | _ => none
  let schemas? : ValidateOption → Option String
    | .schemas path => some path
    | _ => none
  return {
    content := contentPath environment (last? path? options)
    schemas := (last? schemas? options).map Path.ofText
    failOnWarnings := .failOnWarnings ∈ options
    strict := .strict ∈ options
    asJson := .json ∈ options }

/-- Reads the options of the reachability report. -/
def readReachability (environment : Table String) (arguments : List String) :
    Except Refusal ReachabilityRequest := do
  let options ← readOptions reachabilityRules .help arguments
  let path? : ReachabilityOption → Option String
    | .content path => some path
    | _ => none
  let depth? : ReachabilityOption → Option String
    | .maxDepth value => some value
    | _ => none
  let maxDepth ← match last? depth? options with
    | none => pure none
    | some value => (readDepth value).map some
  return {
    content := contentPath environment (last? path? options)
    maxDepth
    following := if .noGoto ∈ options then .choicesOnly else .everything
    asJson := .json ∈ options }

namespace Request

/-- Reads what follows the name of a command. -/
def read (environment : Table String) (arguments : List String) :
    Command → Except Refusal Request
  | .validate => (readValidate environment arguments).map validate
  | .reachability => (readReachability environment arguments).map reachability
  | .version => (readOptions bareRules () arguments).map fun _ => version

end Request

/-- A command with the arguments after its name. -/
structure CommandCall where
  preamble : Preamble
  command : Command
  arguments : List String

/-- Reads a line up to its command. -/
def CommandCall.read (arguments : List String) : Except Refusal CommandCall :=
  match OptionRule.readLine preambleRules false arguments with
  | .error misuse => .error (.misuse misuse)
  | .ok ⟨options, rest⟩ =>
    if .help ∈ options then .error .help
    else match rest with
      | [] => .error (.misuse .missingCommand)
      | name :: rest =>
        match Command.ofName? name with
        | none => .error (.misuse (.unknownCommand name))
        | some command =>
          let file? : PreambleOption → Option String
            | .logFile file => some file
            | _ => none
          .ok {
            preamble := {
              verbosity := options.count .verbose
              logFile := (last? file? options).map Path.ofText }
            command
            arguments := rest }

end Gamebook.CommandLine
