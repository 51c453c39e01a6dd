import Gamebook.Json.Reader
import Gamebook.Document
import Gamebook.Fault
import Gamebook.Settings
import Gamebook.Text.Integer
import Gamebook.Yaml.Node

/-! Settings as a table of values writes them. -/

namespace Gamebook

/-- Why a table gives no settings. -/
inductive SettingsFault where
  -- An integer has too many digits to be written out.
  | unwritable
  | notBoolean (key : String) (value : Yaml.Node)
  | depthIsBoolean (value : Bool)
  | depthNotNumeral (text : String)
  | depthTooLong (digits : Nat)
  | depthOfWrongType (value : Yaml.Node)
  | depthNotANumber
  | depthInfinite
  | depthBelowOne

namespace SettingsFault

/-- The name of the type of a value that is no number. -/
def typeName : Yaml.Node → String
  | .list _ => "list"
  | .table _ => "dict"
  | .time (.day _) => "datetime.date"
  | .time (.moment _) => "datetime.datetime"
  | _ => "NoneType"

/-- The longest part of a quoted text that a message repeats. -/
def quotedLimit : Nat := 200

/-- A fault in words. -/
def message : SettingsFault → String
  | unwritable => Text.integerUnwrittenMessage
  | notBoolean key value => s!"{key} must be a boolean, got {value.shown}"
  | depthIsBoolean value => s!"max_depth must be an integer, got {(Json.bool value).shown}"
  | depthNotNumeral text =>
    let shown := String.ofList ((Text.quoted text).toList.take quotedLimit)
    s!"invalid literal for int() with base 10: {shown}"
  | depthTooLong digits => Text.integerTooLongMessage digits
  | depthOfWrongType value =>
    "int() argument must be a string, a bytes-like object or a real number, not '"
      ++ typeName value ++ "'"
  | depthNotANumber => "cannot convert float NaN to integer"
  | depthInfinite => infiniteDepthMessage
  | depthBelowOne => "max_depth must be >= 1"

end SettingsFault

namespace Settings

/-- The words that mean yes. -/
def yesWords : List String := ["1", "true", "yes", "on"]

/-- Whether a text means yes; the case of letters and blanks around it do not matter. -/
def meansYes (text : String) : Bool :=
  yesWords.contains (String.ofList (Text.lowerAscii (Text.trim Text.isBlank text.toList)))

/-- What a variable of the environment says, if it is set to anything. -/
def switchFrom? (value : Option String) : Option Bool :=
  match value with
  | none => none
  | some text => if text = "" then none else some (meansYes text)

/-- A switch of a table, which is off when it is not there. -/
def readSwitch (table : Table Yaml.Node) (key : String) : Except SettingsFault Bool :=
  match Table.get? key table with
  | none => .ok false
  | some (.bool value) => .ok value
  | some (.text value) => .ok (meansYes value)
  | some value => if value.isWritable then .error (.notBoolean key value) else .error .unwritable

/-- An integer written as text. -/
def readNumeral (text : String) : Except SettingsFault Int :=
  (Text.readInteger text.toList).mapError fun
    | .unreadable => .depthNotNumeral text
    | .tooLong digits => .depthTooLong digits

/-- A depth before its lower bound is checked. -/
def readInteger : Yaml.Node → Except SettingsFault Int
  | .bool value => .error (.depthIsBoolean value)
  | .int value => .ok value
  | .real .nan => .error .depthNotANumber
  | .real (.infinite _) => .error .depthInfinite
  | .real value => .ok ((value.truncate?).getD 0)
  | .text value => readNumeral value
  | value => .error (.depthOfWrongType value)

/-- The depth of a table. -/
def readDepth (table : Table Yaml.Node) : Except SettingsFault Int :=
  match Table.get? "max_depth" table with
  | none => .ok Reachability.defaultMaxDepth
  | some value => do
    let depth ← readInteger value
    if depth < 1 then .error .depthBelowOne else return depth

/-- A value as plain text. -/
def writeOut (value : Yaml.Node) : Except SettingsFault String :=
  if value.isWritable then .ok value.plain else .error .unwritable

/-- The directory of schemas of a table; a relative one lies below the content. -/
def readSchemas (content : Path) (table : Table Yaml.Node) : Except SettingsFault (Option Path) :=
  match Table.get? "schemas_path" table with
  | none => .ok none
  | some .null => .ok none
  | some value => (writeOut value).map fun text => some (content.join (.ofText text))

/-- The directory of scenes of a table. -/
def readScenes (table : Table Yaml.Node) : Except SettingsFault String :=
  match Table.get? "scenes_dir" table with
  | none => .ok Corpus.defaultScenes
  | some value => writeOut value

/-- The settings that a table writes for a content directory. -/
def ofTable (content : Path) (table : Table Yaml.Node) : Except SettingsFault Settings := do
  let schemas ← readSchemas content table
  let scenes ← readScenes table
  let failOnWarnings ← readSwitch table "fail_on_warnings"
  let strict ← readSwitch table "strict"
  let maxDepth ← readDepth table
  return { content, schemas, scenes, failOnWarnings, strict, maxDepth }

end Settings

end Gamebook
