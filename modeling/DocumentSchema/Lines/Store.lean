import DocumentSchema.Files.FileSystem
import DocumentSchema.Gzip.Member
import DocumentSchema.SchemaError
import DocumentSchema.Text.Quoted

/-!
# Stores

A store is a named sequence of octets, and a source is a sequence of stores. The stores of a source
are known before any of them is opened, so that their order does not depend on what happens while
they are read: a list of stores in memory is read in its order, a directory in the order of the
names of its files, and any other path is one store.

A file that begins like a compressed store is decompressed, whatever its name. If it is broken, what
comes before the broken place can still be read, and then reading fails.

A store that is open is a snapshot: it has the octets that were there when it was opened. A program
that reads a file in portions sees what is written to the file in between, so for a file longer than
a buffer the two differ if the file is changed while it is being read.
-/

namespace DocumentSchema

/-- A store that is open. If it is not complete, reading fails after its octets. -/
structure Store where
  name : String
  octets : Octets
  complete : Bool := true
  deriving DecidableEq

/-- A store that can be opened. -/
inductive StoreRef where
  | memory (name : String) (octets : Octets)
  | file (path : String)
  deriving DecidableEq

/-- Where stores come from. -/
inductive Source where
  | memory (stores : List (String × Octets))
  | files (path : String)

namespace Store

/-- A description of a store for people. -/
def describe (store : Store) : String := "Store \x7b name: " ++ quoted store.name ++ ", .. \x7d"

/-- The whole text of a store; it cannot be read if the store is not complete. -/
def text? (store : Store) : Option String :=
  if store.complete then some (decodeTextLossy store.octets) else none

end Store

/-- A store opened. Its name is the path it was opened by. -/
def StoreRef.open (files : FileSystem) : StoreRef → Except Failure Store
  | memory name octets => .ok { name, octets }
  | file path =>
    match files.read? path with
    | none => .error (.io s!"'{path}'")
    | some octets =>
      if Gzip.isCompressed octets then
        let (octets, complete) := Gzip.decompress octets
        .ok { name := path, octets, complete }
      else .ok { name := path, octets }

namespace Source

/-- The paths of the files that a path stands for. -/
def paths (files : FileSystem) (path : String) : List String :=
  if files.isDirectory path then (files.fileNames path).map (FilePath.join path) else [path]

/-- The stores of a source in order. -/
def stores (files : FileSystem) : Source → List StoreRef
  | memory stores => stores.map fun (name, octets) ↦ .memory name octets
  | .files path => (paths files path).map .file

end Source

end DocumentSchema
