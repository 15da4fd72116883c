import DocumentSchema.Entries
import DocumentSchema.Files.FilePath
import DocumentSchema.Text.Utf8

/-!
# Files

A file system holds octets and directories at places, a place being the names on the way from the
root. Paths are read from a working directory. Whatever a path goes through must be a directory that
is there; so a path that ends with a slash is only ever the path of a directory.

Besides files there are devices, which are always empty when read: one that takes all that is
written to it and keeps nothing, and one that is full and refuses every octet.
-/

namespace DocumentSchema

/-- The names on the way from the root. -/
abbrev Place := List String

/-- What stands at a place. -/
inductive FileNode where
  | file (contents : Octets)
  | directory
  | device (full : Bool)
  deriving DecidableEq, Repr

/-- A file system. The root is a directory by itself. -/
structure FileSystem where
  nodes : Entries Place FileNode := []
  workingDirectory : Place := []

namespace FileSystem

/-- What stands at a place. -/
def node? (files : FileSystem) (place : Place) : Option FileNode :=
  if place = [] then some .directory else files.nodes.get? place

/-- The contents of the file at a place. -/
def contents? (files : FileSystem) (place : Place) : Option Octets :=
  match files.node? place with
  | some (.file contents) => some contents
  | _ => none

/-- The file system with another node at a place. -/
def set (files : FileSystem) (place : Place) (node : FileNode) : FileSystem :=
  { files with nodes := files.nodes.insert place node }

/-! ## Places of paths -/

/-- The longest name, in octets. -/
def maxNameSize : Nat := 255

/-- The longest path, in octets. -/
def maxPathSize : Nat := 4095

/-- The text can be a name. -/
def isName (text : String) : Bool :=
  text.utf8ByteSize ≤ maxNameSize && !text.toList.contains (Char.ofNat 0)

/-- The place reached from a place by the parts of a path. -/
def walk (files : FileSystem) : Place → List String → Option Place
  | place, [] => some place
  | place, part :: rest =>
    if files.node? place ≠ some .directory then none
    else match FilePath.component? part with
      | some (.name text) => if isName text then files.walk (place ++ [text]) rest else none
      | some .up => files.walk place.dropLast rest
      | _ => files.walk place rest

/-- The place that a path means, whether or not something stands there. -/
def place? (files : FileSystem) (path : String) : Option Place :=
  if path = "" ∨ maxPathSize < path.utf8ByteSize then none
  else
    files.walk (if FilePath.isAbsolute path then [] else files.workingDirectory)
      (FilePath.parts path)

/-- What stands at a path. -/
def find? (files : FileSystem) (path : String) : Option FileNode :=
  (files.place? path).bind files.node?

/-! ## Reading -/

/-- The path is that of a directory. -/
def isDirectory (files : FileSystem) (path : String) : Bool := files.find? path = some .directory

/-- The octets at a path. -/
def read? (files : FileSystem) (path : String) : Option Octets :=
  match files.find? path with
  | some (.file contents) => some contents
  | some (.device _) => some []
  | _ => none

/-- The name of a node that is a file directly in a directory. -/
def nameIn? (directory : Place) : Place × FileNode → Option String
  | (place, .file _) => if place.dropLast = directory then place.getLast? else none
  | _ => none

/-- The names of the files directly in a directory, in the order of their code points. -/
def fileNames (files : FileSystem) (path : String) : List String :=
  match files.place? path with
  | none => []
  | some place =>
    (files.nodes.filterMap (nameIn? place)).mergeSort fun first second ↦ decide (first ≤ second)

/-! ## Writing -/

/-- The file system with an empty file at a path, and its place. What was in the file is gone. A
device is opened as it is. -/
def create? (files : FileSystem) (path : String) : Option (FileSystem × Place) := do
  let place ← files.place? path
  match files.node? place with
  | some .directory => none
  | some (.device _) => some (files, place)
  | some (.file _) | none => some (files.set place (.file []), place)

/-- Octets put over others from an offset on; a gap before the offset is filled with zeros. -/
def overwrite (contents : Octets) (offset : Nat) (octets : Octets) : Octets :=
  contents.take offset ++ List.replicate (offset - contents.length) 0 ++ octets ++
    contents.drop (offset + octets.length)

/-- The file system after octets are written at an offset of what stands at a place. -/
def write? (files : FileSystem) (place : Place) (offset : Nat) (octets : Octets) :
    Option FileSystem :=
  match files.node? place with
  | some (.file contents) => some (files.set place (.file (overwrite contents offset octets)))
  | some (.device full) => if full && !octets.isEmpty then none else some files
  | _ => none

/-- The file system with directories at the places down to a place, where nothing stands there yet.
-/
def makeDirectories (files : FileSystem) : Place → List String → FileSystem
  | _, [] => files
  | above, name :: rest =>
    let place := above ++ [name]
    let files := if (files.node? place).isSome then files else files.set place .directory
    files.makeDirectories place rest

/-- The file system with a node at a place and directories above it. -/
def plant (files : FileSystem) (place : Place) (node : FileNode) : FileSystem :=
  (files.makeDirectories [] place.dropLast).set place node

/-! ## Laws -/

@[simp] theorem node?_root (files : FileSystem) : files.node? [] = some .directory := rfl

theorem node?_set (files : FileSystem) {place : Place} (h : place ≠ []) (other : Place)
    (node : FileNode) :
    (files.set place node).node? other = if other = place then some node else files.node? other := by
  unfold node? set
  rw [Entries.get?_insert]
  by_cases ho : other = place
  · subst ho
    simp [h]
  · simp [ho]

/-- Writing at the end appends. -/
@[simp] theorem overwrite_length (contents octets : Octets) :
    overwrite contents contents.length octets = contents ++ octets := by
  simp [overwrite]

end FileSystem

end DocumentSchema
