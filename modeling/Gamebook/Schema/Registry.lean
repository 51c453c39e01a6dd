import Gamebook.Fault
import Gamebook.Schema.Check
import Gamebook.Schema.Meta
import Gamebook.Schema.Standard

/-! The schemas of a run: where each one comes from, and the messages of a check. -/

namespace Gamebook.Schema

/-- A schema that fits the schema of schemas of its draft. -/
structure Compiled where
  draft : Draft
  schema : Json

/-- Why a value is no schema. -/
inductive CompileFault where
  | invalid (failure : Failure)
  | blocked (obstacle : Obstacle)

namespace Compiled

/-- The draft that a schema names; an unknown draft counts as the seventh. -/
def draftOf (schema : Json) : Except CompileFault Draft :=
  (draftWithin .draft7 schema).mapError fun misfit => .blocked (.misfit misfit)

/-- Checks a schema itself; the first violation is the reason to refuse it. -/
def ofJson (schema : Json) : Except CompileFault Compiled := do
  let draft ← draftOf schema
  let findings := check draft (Meta.ofDraft draft) schema
  match findings.violations, findings.obstacle with
  | violation :: _, _ => .error (.invalid violation.failure)
  | [], some obstacle => .error (.blocked obstacle)
  | [], none => .ok ⟨draft, schema⟩

/-- What a check of a document finds. -/
def check (compiled : Compiled) (document : Json) : Findings :=
  Schema.check compiled.draft compiled.schema document

end Compiled

/-- Whether a list of texts comes no later than another one, text by text. -/
def notAfter : List String → List String → Bool
  | [], _ => true
  | _ :: _, [] => false
  | a :: as, b :: bs => decide (a < b) || (a == b && notAfter as bs)

/-- A violation as it is reported: the path to it, and what is wrong in words. -/
structure Remark where
  path : List LocPart
  text : String
  deriving DecidableEq

namespace Remark

/-- The steps of the path of a remark as text. -/
def steps (remark : Remark) : List String := remark.path.map LocPart.text

/-- Whether a remark comes no later than another one: by path, then by text. -/
def isNotAfter (a b : Remark) : Bool :=
  if a.steps = b.steps then decide (a.text ≤ b.text)
  else notAfter a.steps b.steps

/-- A remark as a message, after the label of its document. -/
def message (label : String) (remark : Remark) : String :=
  s!"{label}:{Pointer.written remark.steps} - {remark.text}"

/-- The messages of remarks, in order of their paths. -/
def messages (label : String) (remarks : List Remark) : List String :=
  (remarks.mergeSort isNotAfter).map (message label)

/-- There is one message for each remark. -/
@[simp] theorem length_messages (label : String) (remarks : List Remark) :
    (messages label remarks).length = remarks.length := by
  rw [messages, List.length_map, List.length_mergeSort]

end Remark

/-- A violation in words. -/
def Violation.remark (violation : Violation) : Remark :=
  ⟨violation.path, violation.failure.message⟩

/-- The messages of violations, in order of their paths. -/
def messages (label : String) (violations : List Violation) : List String :=
  Remark.messages label (violations.map Violation.remark)

/-- There is one message for each violation. -/
@[simp] theorem length_messages (label : String) (violations : List Violation) :
    (messages label violations).length = violations.length := by
  rw [messages, Remark.length_messages, List.length_map]

/-- The messages of a check that is carried to its end. -/
def Findings.messages (label : String) (findings : Findings) : Except Obstacle (List String) :=
  match findings.obstacle with
  | some obstacle => .error obstacle
  | .none => .ok (Schema.messages label findings.violations)

/-- The schemas of a run by the names of the documents that they are for. -/
structure Registry where
  schemas : Table Compiled

/-- Why the schemas of a run are not there. -/
inductive LoadFault where
  | unloadable (name : String) (path : Path) (reason : String)
  | ended (fault : Fault)

namespace Registry

/-- The documents that have schemas, each with its standard schema. -/
def standards : Table Json :=
  [("manifest", Standard.manifest), ("scene", Standard.scene), ("items", Standard.items),
    ("stats", Standard.stats)]

/-- The file name of a schema. -/
def fileName (name : String) : String := name ++ "-schema.json"

/-- Where the standard schemas are said to be. -/
def standardDirectory : Path := .ofText "<bundled>"

/-- Where a schema comes from. -/
inductive Source where
  | file (path : Path)
  | standard (path : Path)

/-- The path of a source. -/
def Source.path : Source → Path
  | file path => path
  | standard path => path

/-- The source of a schema: a directory of schemas if one is given, or else that of the content if
it holds the schema, or else the standard schemas. -/
def source (disk : Disk) (content : Path) (schemas : Option Path) (name : String) : Source :=
  let file := Path.ofText (fileName name)
  match schemas with
  | some directory => .file (directory.join file)
  | none =>
    let path := (content.child "schemas").join file
    if disk.isFile path then .file path else .standard (standardDirectory.join file)

/-- The schema in the contents of a file. -/
def read (name : String) (path : Path) : FileContents → Except LoadFault Json
  | .refused report => .error (.unloadable name path report)
  | .bytes bytes => match Document.ofBytes bytes with
    | .ok (.object members) => .ok (.object members)
    | .ok _ => .error (.unloadable name path "Schema must be a JSON object")
    | .error (.undecodable fault) => .error (.ended (.undecodable fault))
    | .error (.integerTooLong digits) => .error (.ended (.integerTooLong digits))
    | .error (.malformed problem position line column) => .error (.unloadable name path
        s!"{problem.message}: line {line} column {column} (char {position})")

/-- A schema that can be used, or why it cannot. -/
def compile (name : String) (path : Path) (schema : Json) : Except LoadFault Compiled :=
  match Compiled.ofJson schema with
  | .ok compiled => .ok compiled
  | .error (.invalid failure) => .error (.unloadable name path failure.message)
  | .error (.blocked obstacle) => .error (.ended (.blocked obstacle))

/-- The schema for one kind of document. -/
def loadOne (disk : Disk) (content : Path) (schemas : Option Path) (name : String)
    (standard : Json) : Except LoadFault (Path × Compiled) :=
  match source disk content schemas name with
  | .standard path => return (path, ← compile name path standard)
  | .file path =>
    match disk.contents? path with
    | none => .error (.unloadable name path "File not found")
    | some contents => do return (path, ← compile name path (← read name path contents))

/-- All schemas of a run, with their paths. -/
def load (disk : Disk) (content : Path) (schemas : Option Path) :
    Except LoadFault (Table (Path × Compiled)) :=
  standards.mapM fun (name, standard) =>
    return (name, ← loadOne disk content schemas name standard)

/-- The registry of loaded schemas. -/
def ofLoaded (loaded : Table (Path × Compiled)) : Registry :=
  ⟨loaded.map fun (name, _, compiled) => (name, compiled)⟩

/-- What a check of a document by the schema of a name finds; there may be no such schema. -/
def check? (registry : Registry) (name : String) (document : Json) : Option Findings :=
  (Table.get? name registry.schemas).map (·.check document)

end Registry

end Gamebook.Schema
