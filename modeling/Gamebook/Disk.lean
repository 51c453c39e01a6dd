import Gamebook.IdSet
import Gamebook.Path
import Gamebook.Text.Quoted

/-! Directory trees below a working directory, and the files and directories that paths name. -/

namespace Gamebook

/-- What comes of reading a file. -/
inductive FileContents where
  | bytes (held : List UInt8)
  -- The file is there, but the system refuses to read it.
  | refused (report : String)
  deriving DecidableEq

/-- What stands at a place of a directory tree. -/
inductive DiskEntry where
  | directory
  | file (contents : FileContents)
  deriving DecidableEq

/-- Why a path leads to no place. -/
inductive PathObstacle where
  -- Nothing stands where a directory is wanted.
  | missing
  -- A file stands there.
  | throughFile
  | outside
  deriving DecidableEq, Repr

/-- What cannot be made at a path. -/
inductive DiskFault where
  -- A directory, where a file stands.
  | occupied (path : Path)
  -- A directory, below a file.
  | belowFile (path : Path)
  -- A file, where a directory stands.
  | isDirectory (path : Path)
  deriving DecidableEq, Repr

/-- A fault in words. -/
def DiskFault.message : DiskFault → String
  | occupied path => s!"[Errno 17] File exists: {Text.quoted path.text}"
  | belowFile path => s!"[Errno 20] Not a directory: {Text.quoted path.text}"
  | isDirectory path => s!"[Errno 21] Is a directory: {Text.quoted path.text}"

/-- A directory tree; a place is the list of names that leads there from the working directory. -/
structure Disk where
  entries : List (List String × DiskEntry)

namespace Disk

/-- A working directory with nothing in it. -/
def empty : Disk := ⟨[]⟩

/-- The entry of a place; the working directory itself is the empty place. -/
def entryAt? (place : List String) (disk : Disk) : Option DiskEntry :=
  if place.isEmpty then some .directory
  else (disk.entries.find? (·.1 = place)).map (·.2)

/-- Whether a place holds a directory. -/
def hasDirectory (place : List String) (disk : Disk) : Bool :=
  disk.entryAt? place == some .directory

/-- Follows names from a place, given backwards; every name but the last must lead to a directory,
and two dots lead back up, though not out of the tree. -/
def follow (disk : Disk) : List String → List String → Except PathObstacle (List String)
  | place, [] => .ok place
  | place, name :: rest =>
    match disk.entryAt? place.reverse with
    | none => .error .missing
    | some (.file _) => .error .throughFile
    | some .directory =>
      if name = ".." then
        match place with
        | [] => .error .outside
        | _ :: above => follow disk above rest
      else follow disk (name :: place) rest

/-- The place that the parts of a path name. -/
def placeOf (parts : List String) (disk : Disk) : Except PathObstacle (List String) :=
  (disk.follow [] parts).map List.reverse

/-- The place that a path names. The paths of a run are taken to be relative, so an absolute one
leads out of the tree. -/
def place? (path : Path) (disk : Disk) : Option (List String) :=
  if path.isAbsolute then none else (disk.placeOf path.parts).toOption

/-- The entry that a path names. -/
def find? (path : Path) (disk : Disk) : Option DiskEntry :=
  (disk.place? path).bind fun place => disk.entryAt? place

/-- Whether a path names something. -/
def holds (path : Path) (disk : Disk) : Bool := (disk.find? path).isSome

/-- What comes of reading the file that a path names. -/
def contents? (path : Path) (disk : Disk) : Option FileContents :=
  match disk.find? path with
  | some (.file contents) => some contents
  | _ => none

/-- The bytes of a file that can be read. -/
def bytes? (path : Path) (disk : Disk) : Option (List UInt8) :=
  match disk.contents? path with
  | some (.bytes bytes) => some bytes
  | _ => none

/-- Whether a path names a file. -/
def isFile (path : Path) (disk : Disk) : Bool := (disk.contents? path).isSome

/-- The names of the files of a directory, in increasing order. -/
def fileNames (path : Path) (disk : Disk) : List String :=
  match disk.place? path with
  | none => []
  | some place => sortIds (disk.entries.filterMap fun (other, entry) =>
      match entry with
      | .file _ => if other.dropLast = place then other.getLast? else none
      | .directory => none)

/-- A tree with a directory at a place, unless something stands there already. -/
def addDirectory (place : List String) (disk : Disk) : Disk :=
  if (disk.entryAt? place).isSome then disk else ⟨disk.entries ++ [(place, .directory)]⟩

/-- A tree with directories at a place and at every place above it. -/
def addDirectories (place : List String) (disk : Disk) : Disk :=
  (List.range place.length).foldl (fun disk length => disk.addDirectory (place.take (length + 1)))
    disk

/-- A tree with a file at a place, in place of what stood there, below directories as needed. -/
def write (place : List String) (bytes : List UInt8) (disk : Disk) : Disk :=
  let disk := disk.addDirectories place.dropLast
  ⟨disk.entries.filter (·.1 ≠ place) ++ [(place, .file (.bytes bytes))]⟩

/-- A tree with more bytes at the end of the file at a place; one that cannot be read stays so. -/
def append (place : List String) (bytes : List UInt8) (disk : Disk) : Disk :=
  ⟨disk.entries.map fun (other, entry) => match entry with
    | .file (.bytes before) =>
      (other, .file (.bytes (if other = place then before ++ bytes else before)))
    | entry => (other, entry)⟩

/-- What comes of making a directory where the parts of a path lead: a tree, or the obstacle on
the way. A directory that is there is left alone. -/
def makeDirectory (parts : List String) (disk : Disk) :
    Except PathObstacle (Except DiskFault Disk) :=
  (disk.placeOf parts).map fun place =>
    match disk.entryAt? place with
    | some .directory => .ok disk
    | some (.file _) => .error (.occupied ⟨"", parts⟩)
    | none => .ok (disk.addDirectory place)

/-- A tree with a directory where the parts of a path lead, given backwards. Where a directory on
the way is missing, the path up to the last part is made first. -/
def makeBackwards (disk : Disk) : List String → Except DiskFault Disk
  | [] => .ok disk
  | name :: above =>
    let parts := (name :: above).reverse
    match disk.makeDirectory parts with
    | .ok made => made
    | .error .throughFile => .error (.belowFile ⟨"", parts⟩)
    | .error .outside => .ok disk
    | .error .missing => do
      let disk ← makeBackwards disk above
      match disk.makeDirectory parts with
      | .ok made => made
      | .error .throughFile => .error (.belowFile ⟨"", parts⟩)
      | .error _ => .ok disk

/-- A tree with a directory at a path and wherever one is missing on the way. -/
def makeDirectories (path : Path) (disk : Disk) : Except DiskFault Disk :=
  if path.isAbsolute then .ok disk else disk.makeBackwards path.parts.reverse

/-- A tree with a file at a path, which is empty unless it is there already. The directories before
it are made as the path names them; the file itself stands where the path leads without dots. -/
def provide (path : Path) (disk : Disk) : Except DiskFault Disk := do
  let disk ← disk.makeDirectories path.parent
  match path.straight.place? with
  | none => return disk
  | some place => match disk.entryAt? place with
    | none => return disk.write place []
    | some (.file _) => return disk
    | some .directory => .error (.isDirectory path.straight)

end Disk

end Gamebook
