import Gamebook.CrossReference
import Gamebook.Json.Writer

/-! What a validation run has found so far, and its verdict. -/

namespace Gamebook

/-- The messages of a run so far. -/
structure Report where
  errors : List String
  warnings : List String
  fileCount : Nat
  deriving DecidableEq, Repr

/-- The outcome of a run. -/
structure Verdict where
  passed : Bool
  errors : List String
  warnings : List String
  fileCount : Nat
  sceneIndex : Table Json
  referenced : IdSet
  missing : IdSet
  unreachable : IdSet

/-- The message about references to scenes that are not there. -/
def missingMessage (ids : List String) : String :=
  s!"Missing {ids.length} scene(s) referenced by content: "
    ++ String.intercalate ", " (sortIds ids)

/-- The message about scenes that nothing refers to. -/
def unreachableMessage (ids : List String) : String :=
  s!"{ids.length} unreachable scene(s) (not referenced by any content): "
    ++ String.intercalate ", " (sortIds ids)

/-- The message about a file that cannot be read. -/
def loadFailureMessage (file reason : String) : String := s!"Failed to load {file}: {reason}"

/-- The message about a scene that another file has already defined. -/
def duplicateMessage (id file first : String) : String :=
  s!"Duplicate scene id '{id}' in {file} (already defined in {first})"

/-- The message about an entry of the index that names another scene than its key. -/
def mismatchMessage (key id : String) : String :=
  s!"Scene index key '{key}' does not match its entry id '{id}'"

namespace Report

/-- A report on nothing. -/
def empty : Report := ⟨[], [], 0⟩

/-- Counts a file. -/
def countFile (report : Report) : Report := { report with fileCount := report.fileCount + 1 }

/-- Adds errors. -/
def addErrors (messages : List String) (report : Report) : Report :=
  { report with errors := report.errors ++ messages }

/-- Adds warnings. -/
def addWarnings (messages : List String) (report : Report) : Report :=
  { report with warnings := report.warnings ++ messages }

/-- Adds the error for missing scenes and the warning for unreachable ones. -/
def addCrossReference (missing unreachable : List String) (report : Report) : Report :=
  (report.addErrors (if missing.isEmpty then [] else [missingMessage missing])).addWarnings
    (if unreachable.isEmpty then [] else [unreachableMessage unreachable])

/-- Whether no error was found. -/
def passed (report : Report) : Bool := report.errors.isEmpty

/-- The verdict on a run with an index and its cross reference. -/
def verdict (report : Report) (index : Table Json) (found : CrossReference) : Verdict :=
  { passed := report.passed
    errors := report.errors
    warnings := report.warnings
    fileCount := report.fileCount
    sceneIndex := index
    referenced := found.referenced
    missing := found.missing
    unreachable := found.unreachable }

/-- The verdict if every entry of the index is an object. -/
def verdict? (report : Report) (index : Table Json) (found : CrossReference) : Option Verdict :=
  if index.all (·.2.isObject) then some (report.verdict index found) else none

end Report

namespace Verdict

/-- Whether there are warnings. -/
def hasWarnings (verdict : Verdict) : Bool := !verdict.warnings.isEmpty

/-- A verdict as a document. -/
def document (verdict : Verdict) : Json :=
  .object [
    ("passed", .bool verdict.passed),
    ("errors", .list (verdict.errors.map .text)),
    ("warnings", .list (verdict.warnings.map .text)),
    ("fileCount", .int verdict.fileCount),
    ("sceneIndex", .object verdict.sceneIndex),
    ("referencedScenes", .list (verdict.referenced.ids.map .text)),
    ("missingScenes", .list (verdict.missing.ids.map .text)),
    ("unreachableScenes", .list (verdict.unreachable.ids.map .text))]

/-- The JSON text of a verdict. -/
def text (indent : Option Nat) (verdict : Verdict) : String :=
  verdict.document.written (.document indent)

end Verdict

end Gamebook
