import Gamebook.Text.Lines

/-! Paths with slashes, in the form in which they are shown. -/

namespace Gamebook

/-- A path: its leading slashes, and its parts without empty ones and single dots. -/
structure Path where
  root : String
  parts : List String
  deriving DecidableEq, Repr, Inhabited

namespace Path

/-- The root of a text: one leading slash, or exactly two. -/
def rootOf : List Char → String
  | '/' :: '/' :: '/' :: _ => "/"
  | '/' :: '/' :: _ => "//"
  | '/' :: _ => "/"
  | _ => ""

/-- The path that a text names. -/
def ofText (input : String) : Path :=
  let chars := input.toList
  { root := rootOf chars
    parts := ((Text.splitAt '/' chars).map String.ofList).filter fun part =>
      part ≠ "" && part ≠ "." }

/-- A path as shown; the empty path is a dot. -/
def text (path : Path) : String :=
  if path.root = "" && path.parts.isEmpty then "."
  else path.root ++ String.intercalate "/" path.parts

/-- Whether a path starts at a root. -/
def isAbsolute (path : Path) : Bool := path.root ≠ ""

/-- A path below another one; an absolute path stays as it is. -/
def join (base path : Path) : Path :=
  if path.isAbsolute then path else { base with parts := base.parts ++ path.parts }

/-- A named entry below a path. -/
def child (base : Path) (name : String) : Path := { base with parts := base.parts ++ [name] }

/-- The path without its last part. -/
def parent (path : Path) : Path := { path with parts := path.parts.dropLast }

/-- The last part. -/
def name (path : Path) : String := path.parts.getLast?.getD ""

/-- The last part without its extension; a leading dot starts no extension. -/
def stem (path : Path) : String :=
  let backwards := path.name.toList.reverse
  let extension := backwards.takeWhile (· ≠ '.')
  match backwards.drop extension.length with
  | '.' :: base =>
    if extension.isEmpty || base.isEmpty then path.name else String.ofList base.reverse
  | _ => path.name

/-- Parts with each pair of dots cancelled by the part before it, where there is one; the parts
already read are given backwards. -/
def straightened (read : List String) : List String → List String
  | [] => read.reverse
  | part :: rest => match read with
    | above :: before =>
      if part = ".." ∧ above ≠ ".." then straightened before rest
      else straightened (part :: read) rest
    | [] => straightened [part] rest

/-- A path with each pair of dots cancelled by the part before it; none leads above the root. -/
def straight (path : Path) : Path :=
  let parts := straightened [] path.parts
  { path with parts := if path.isAbsolute then parts.dropWhile (· = "..") else parts }

/-- The place of a path without dots below the working directory. -/
def place? (path : Path) : Option (List String) :=
  if path.isAbsolute ∨ path.parts.head? = some ".." then none else some path.parts

/-- The rest of a list of parts after the parts of a base. -/
def partsBelow? : List String → List String → Option (List String)
  | [], parts => some parts
  | _ :: _, [] => none
  | first :: base, part :: parts => if first = part then partsBelow? base parts else none

/-- The path as seen from a base that it starts with. -/
def relativeTo? (base path : Path) : Option Path :=
  if base.root = path.root then (partsBelow? base.parts path.parts).map (⟨"", ·⟩) else none

end Path

end Gamebook
