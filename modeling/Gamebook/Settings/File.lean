import Gamebook.Disk
import Gamebook.Settings.Read
import Gamebook.Text.Utf8
import Gamebook.Yaml.Document

/-! Settings from the file in a content directory and from the environment. -/

namespace Gamebook

/-- Why there are no settings. -/
inductive SettingsFailure where
  -- The file cannot be loaded; there is no reason in words when it is no YAML text.
  | unloadable (path : Path) (reason : Option String)
  | ended (fault : Fault)

/-- The report of a settings file that cannot be loaded. -/
def settingsFailureMessage (path : Path) (reason : Option String) : String :=
  s!"Failed to load config at {path.text}: " ++ reason.getD "invalid YAML"

namespace Settings

/-- The name of the settings file. -/
def fileName : String := "scenelint.yaml"

/-- The variable that may make warnings count. -/
def failOnWarningsVariable : String := "SCENELINT_FAIL_ON_WARNINGS"

/-- The variable that may make a validation strict. -/
def strictVariable : String := "SCENELINT_STRICT"

/-- The value in the bytes of a settings file. -/
def valueOf (path : Path) (bytes : List UInt8) : Except SettingsFailure Yaml.Node :=
  match Text.decodePieces (bytes.length + 1) [] bytes with
  | .error fault => .error (.unloadable path (some fault.message))
  | .ok chars =>
    match Yaml.parse (Text.normalizeNewlines chars) with
    | .error fault => .error (.unloadable path fault.reason?)
    | .ok value => .ok value

/-- The value of the settings file, which may be missing. -/
def readValue (disk : Disk) (path : Path) : Except SettingsFailure Yaml.Node :=
  match disk.find? path with
  | none => .ok .null
  | some .directory => .error (.unloadable path none)
  | some (.file (.refused report)) => .error (.unloadable path (some report))
  | some (.file (.bytes bytes)) => valueOf path bytes

/-- The table of the value of a settings file; null is an empty table. -/
def tableOf (path : Path) : Yaml.Node → Except SettingsFailure (Table Yaml.Node)
  | .null => .ok []
  | .table entries => .ok (Yaml.Node.textEntries entries)
  | _ => .error (.unloadable path (some "Expected a mapping at the top level"))

/-- A fault in the settings as a failure to load them; an infinite depth ends the run. -/
def failure (path : Path) : SettingsFault → SettingsFailure
  | .depthInfinite => .ended .infiniteDepth
  | fault => .unloadable path (some fault.message)

/-- Settings with the switches that variables of the environment override. -/
def overridden (environment : Table String) (settings : Settings) : Settings :=
  let failOnWarnings := switchFrom? (Table.get? failOnWarningsVariable environment)
  let strict := switchFrom? (Table.get? strictVariable environment)
  { settings with
    failOnWarnings := failOnWarnings.getD settings.failOnWarnings
    strict := strict.getD settings.strict }

/-- The settings of a table and the environment. -/
def ofTableAndEnvironment (content : Path) (table : Table Yaml.Node) (environment : Table String) :
    Except SettingsFailure Settings := do
  let settings ← (ofTable content table).mapError (failure (content.child fileName))
  return settings.overridden environment

/-- The settings of the value of the settings file. -/
def ofValue (content : Path) (value : Yaml.Node) (environment : Table String) :
    Except SettingsFailure Settings := do
  let table ← tableOf (content.child fileName) value
  ofTableAndEnvironment content table environment

/-- The settings of a content directory. -/
def load (disk : Disk) (content : Path) (environment : Table String) :
    Except SettingsFailure Settings := do
  let value ← readValue disk (content.child fileName)
  ofValue content value environment

end Settings

end Gamebook
