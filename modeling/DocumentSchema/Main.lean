import DocumentSchema.CommandLine.Run

/-!
# The program

The outer layer of the program. It looks at what stands at the paths that a command names, carries
the command out on what it saw, prints, and writes the files that are different afterwards. What a
command does is decided in `CommandLine.Run`.
-/

namespace DocumentSchema

/-- The place of a path that is read from a place, by its components alone. -/
def placeFrom (start : Place) (path : String) : Place :=
  (FilePath.components path).foldl (fun place component ↦
    match component with
    | .root => []
    | .here => place
    | .up => place.dropLast
    | .name text => place ++ [text]) start

/-- The paths that a command names. -/
def Command.paths : Command → List String
  | validate options =>
    [options.schema, options.input] ++ options.accepted.toList ++ options.rejected.toList
  | check schema => [schema]

/-- The paths on the way to a path, the path itself last. -/
def pathsTo (path : String) : List String :=
  let parts := FilePath.parts path
  (List.range parts.length).map fun count ↦ "/".intercalate (parts.take (count + 1))

/-- The files with what stands at a path. What cannot be looked at is taken not to be there. -/
def observe (files : FileSystem) (path : String) : IO FileSystem := do
  let place := placeFrom files.workingDirectory path
  try
    match (← (← IO.FS.realPath path).metadata).type with
    | .dir => return files.makeDirectories [] place
    | .file => return files.plant place (.file (← IO.FS.readBinFile path).toList)
    | _ => return files.plant place (.device false)
  catch _ => return files

/-- The files with what stands on the way to a path, and in the path if it is a directory. -/
def observeAll (files : FileSystem) (path : String) : IO FileSystem := do
  let files ← (pathsTo path).foldlM observe files
  if files.isDirectory path then
    let entries ← (← IO.FS.realPath path).readDir
    entries.foldlM (fun files entry ↦ observe files (FilePath.join path entry.fileName)) files
  else return files

/-- All octets of standard input. -/
partial def readInput (input : IO.FS.Stream) (octets : ByteArray) : IO Octets := do
  let more ← input.read 65536
  if more.isEmpty then return octets.toList else readInput input (octets ++ more)

/-- The files that are different afterwards are written. -/
def writeChanges (before after : FileSystem) : IO Unit := do
  for (place, node) in after.nodes do
    if let .file contents := node then
      if before.contents? place ≠ some contents then
        IO.FS.writeBinFile ("/" ++ "/".intercalate place) ⟨contents.toArray⟩

/-- A command is carried out, and its outcome shown. -/
def carryOut (arguments : List String) : IO UInt32 := do
  let named := match Command.ofArguments arguments with
    | .ok command => command.paths
    | .error _ => []
  let start : FileSystem := { workingDirectory := placeFrom [] (← IO.currentDir).toString }
  let start := start.makeDirectories [] start.workingDirectory
  let files ← named.foldlM observeAll start
  let input ← if named.contains standardInput then readInput (← IO.getStdin) .empty else pure []
  let outcome := runArguments arguments files input
  for value in outcome.printed do
    IO.println value.text
  writeChanges files outcome.files
  if let some failure := outcome.failure then
    IO.eprintln s!"okay: {failure.message}"
  return outcome.status.toUInt32

end DocumentSchema

/-- The program. -/
def main (arguments : List String) : IO UInt32 := DocumentSchema.carryOut arguments
