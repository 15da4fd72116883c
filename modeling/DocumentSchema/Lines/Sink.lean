import DocumentSchema.Files.FileSystem
import DocumentSchema.Lines.Writer

/-!
# Sinks

A sink writes documents to files, and which file a document goes to depends on the store it came
from. One file is open at a time. Documents in a row with the same target share it; another target
closes it, and opening a target again empties it, so of several runs of documents for one target
only the last stays.

Octets are held back until there are more of them than the buffer takes, or the file is closed. That
is why a device that refuses them is often noticed only when its file is closed.
-/

namespace DocumentSchema

/-! ## Open files -/

/-- A file that is open for writing: what is held back goes to the offset. -/
structure OpenFile where
  path : String
  place : Place
  offset : Nat := 0
  pending : Octets := []

namespace OpenFile

/-- No more than this many octets are held back. -/
def bufferSize : Nat := 8192

/-- What is held back is written. -/
def flush? (file : OpenFile) (files : FileSystem) : Option (FileSystem × OpenFile) := do
  let files ← files.write? file.place file.offset file.pending
  return (files, { file with offset := file.offset + file.pending.length, pending := [] })

/-- Octets are written, or held back for now. -/
def write? (file : OpenFile) (files : FileSystem) (octets : Octets) :
    Option (FileSystem × OpenFile) :=
  let file := { file with pending := file.pending ++ octets }
  if file.pending.length ≤ bufferSize then some (files, file) else file.flush? files

end OpenFile

/-! ## Sinks -/

/-- The target of the documents of each store, and the file that is open. -/
structure Sink where
  target : String → String
  current : Option OpenFile := none

namespace Sink

/-- Every document goes to one file. -/
def toFile (path : String) : String → String := fun _ ↦ path

/-- The file name for stores whose name does not end with one. -/
def defaultName : String := "documents.jsonl"

/-- The documents of a store go to a file in a directory that is named like the store. -/
def intoDirectory (directory : String) : String → String := fun store ↦
  FilePath.join directory ((FilePath.fileName? store).getD defaultName)

/-- The failure that a path could not be written. -/
def failed (path : String) : Except Failure Unit := .error (.io s!"'{path}'")

/-- The open file, if there is one, is closed. -/
def close (sink : Sink) (files : FileSystem) : FileSystem × Sink × Except Failure Unit :=
  match sink.current with
  | none => (files, sink, .ok ())
  | some file =>
    match file.flush? files with
    | some (files, _) => (files, { sink with current := none }, .ok ())
    | none => (files, { sink with current := none }, failed file.path)

/-- A target is created and opened. -/
def openTarget (sink : Sink) (files : FileSystem) (path : String) :
    FileSystem × Sink × Except Failure Unit :=
  match files.create? path with
  | some (files, place) => (files, { sink with current := some { path, place } }, .ok ())
  | none => (files, sink, failed path)

/-- The open file is the one at a path. -/
def isOpen (sink : Sink) (path : String) : Bool :=
  match sink.current with
  | some file => FilePath.same file.path path
  | none => false

/-- The file of a path is made the open one. -/
def switch (sink : Sink) (files : FileSystem) (path : String) :
    FileSystem × Sink × Except Failure Unit :=
  if sink.isOpen path then (files, sink, .ok ())
  else match sink.close files with
    | (files, sink, .ok ()) => sink.openTarget files path
    | failed => failed

/-- A document is written to the open file. -/
def write (sink : Sink) (files : FileSystem) (document : Json) :
    FileSystem × Sink × Except Failure Unit :=
  match sink.current with
  | none => (files, sink, .ok ())
  | some file =>
    match file.write? files (documentLine document) with
    | some (files, file) => (files, { sink with current := some file }, .ok ())
    | none => (files, sink, .error (.io "failed to write document"))

/-- A document of a store is written to its target. -/
def add (sink : Sink) (files : FileSystem) (store : String) (document : Json) :
    FileSystem × Sink × Except Failure Unit :=
  match sink.switch files (sink.target store) with
  | (files, sink, .ok ()) => sink.write files document
  | failed => failed

/-- The sink is given up: its file is closed, and whether that succeeds is not asked. -/
def drop (sink : Sink) (files : FileSystem) : FileSystem := (sink.close files).1

/-- Documents with their stores are added one after the other, each whatever became of those before
it. -/
def addAll : Sink → FileSystem → List (String × Json) →
    FileSystem × Sink × List (Except Failure Unit)
  | sink, files, [] => (files, sink, [])
  | sink, files, (store, document) :: rest =>
    let (files, sink, result) := sink.add files store document
    let (files, sink, results) := addAll sink files rest
    (files, sink, result :: results)

end Sink

end DocumentSchema
