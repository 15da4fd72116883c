import DocumentSchema.CommandLine.Command
import DocumentSchema.Lines.Reader
import DocumentSchema.Lines.Sink
import DocumentSchema.SchemaFile
import DocumentSchema.Validation

/-!
# Runs

A run of the program is a function of its arguments, the files, and what it is given on standard
input. It prints one value per line, changes files, and ends with a status: zero if nothing was
reported, one if something was, two if the run could not be carried out.

Validating goes through the documents of a source in order. The findings about each are printed as
they come, and the document goes to the file for accepted documents if there are none, and to the
file for rejected ones otherwise. Lines that are not the text of a value are reported at the end.
When a run fails, what was printed stays printed, and what was on its way to a file is still written
if that is possible.

Each store is read at once when its turn comes (see `Store`), and only then are its documents handed
over. So a run whose output file is the very store it is reading is described only if the store is no
longer than a buffer; of a longer one, what has not been read yet would be replaced by the output. A
store that comes earlier or later may be an output file.
-/

namespace DocumentSchema

/-! ## The schema -/

/-- The text of a file. -/
def FileSystem.readText? (files : FileSystem) (path : String) : Option String :=
  (files.read? path).bind decodeText?

/-- The schema file at a path. -/
def SchemaFile.load (files : FileSystem) (path : String) : Except Failure SchemaFile :=
  match files.readText? path with
  | some text => ofToml text
  | none => .error (.config s!"failed to read schema file '{path}'")

/-- The schema of the file at a path. Members that are not declared are ignored if the file says so
or the caller does. No custom checks are known. -/
def Schema.load (files : FileSystem) (path : String) (ignoreExtraFields : Bool) :
    Except Failure Schema := do
  let file ← SchemaFile.load files path
  let file := { file with ignoreExtraFields := file.ignoreExtraFields || ignoreExtraFields }
  (file.compile {}).mapError .schema

/-! ## Findings about a document -/

/-- What every message about a document says of it. -/
def Document.context (document : Document) : Members :=
  [("store", .string document.store), ("document_number", .ofNat document.number)]

/-- The findings about a document. That it is not an object is a finding like others. -/
def Document.findings (document : Document) (schema : Schema) : Except Failure (List Message) :=
  match schema.validate document.contents document.context with
  | .error (.documentNotObject found) =>
    .ok [(((Message.new Message.Kind.invalidType Path.root).withExpected
      (.string "object")).withContext "found" (.string found)).extendContext document.context]
  | result => result

/-! ## Validating -/

/-- How far a run has come. -/
structure Run where
  files : FileSystem
  accepted : Option Sink := none
  rejected : Option Sink := none
  printed : List Message := []
  malformed : List Message := []
  reported : Nat := 0

/-- What a run that was carried out comes to. -/
inductive Report where
  | clean
  | findings (count : Nat)
  deriving DecidableEq, Repr

namespace Report

/-- What a number of messages comes to. -/
def ofCount (count : Nat) : Report := if count = 0 then clean else findings count

/-- The status that the program ends with. -/
def status : Report → Nat
  | clean => 0
  | findings _ => 1

end Report

namespace Run

/-- Messages are counted and printed. -/
def print (run : Run) (messages : List Message) : Run :=
  { run with
    reported := run.reported + messages.length
    printed := run.printed ++ messages }

/-- A document is handed to a sink, if there is one. -/
def hand (files : FileSystem) (document : Document) :
    Option Sink → FileSystem × Option Sink × Except Failure Unit
  | none => (files, none, .ok ())
  | some sink =>
    let (files, sink, result) := sink.add files document.store document.contents
    (files, some sink, result)

/-- A document is handed to the sink for accepted documents or to the one for rejected documents. -/
def route (run : Run) (document : Document) (clean : Bool) : Run × Except Failure Unit :=
  if clean then
    let (files, accepted, result) := hand run.files document run.accepted
    ({ run with files, accepted }, result)
  else
    let (files, rejected, result) := hand run.files document run.rejected
    ({ run with files, rejected }, result)

/-- A document is validated and routed, and then its findings are printed. -/
def addDocument (schema : Schema) (run : Run) (document : Document) : Run × Except Failure Unit :=
  match document.findings schema with
  | .error failure => (run, .error failure)
  | .ok messages =>
    match run.route document messages.isEmpty with
    | (run, .ok ()) => (run.print messages, .ok ())
    | failed => failed

/-- Items are gone through in order, up to the first failure. -/
def addItems (schema : Schema) : Run → List Item → Run × Except Failure Unit
  | run, [] => (run, .ok ())
  | run, .document document :: rest =>
    match run.addDocument schema document with
    | (run, .ok ()) => addItems schema run rest
    | failed => failed
  | run, .malformed message :: rest =>
    addItems schema { run with malformed := run.malformed ++ [message] } rest
  | run, .failure failure :: _ => (run, .error failure)

/-- Stores are opened and gone through in order, each when its turn comes. What is written while a
store is gone through does not change what is read of it. -/
def addStores (schema : Schema) : Run → Nat → List StoreRef → Run × Except Failure Unit
  | run, _, [] => (run, .ok ())
  | run, first, store :: rest =>
    let (items, next) := store.items run.files first
    match run.addItems schema items with
    | (run, .ok ()) => addStores schema run next rest
    | failed => failed

/-- A sink is closed, if there is one. -/
def finishSink (files : FileSystem) : Option Sink → FileSystem × Except Failure Unit
  | none => (files, .ok ())
  | some sink =>
    let (files, _, result) := sink.close files
    (files, result)

/-- A sink is given up, if there is one. -/
def dropSink (files : FileSystem) : Option Sink → FileSystem
  | none => files
  | some sink => sink.drop files

/-- The run with both sinks given up. -/
def abandon (run : Run) : Run :=
  { run with
    files := dropSink (dropSink run.files run.rejected) run.accepted
    accepted := none
    rejected := none }

/-- Both sinks are closed. -/
def finish (run : Run) : Run × Except Failure Unit :=
  let (files, result) := finishSink run.files run.accepted
  let run := { run with files, accepted := none }
  match result with
  | .error failure => (run.abandon, .error failure)
  | .ok () =>
    let (files, result) := finishSink run.files run.rejected
    ({ run with files, rejected := none }, result)

/-- A whole source is validated. -/
def validateSource (schema : Schema) (source : Source) (run : Run) : Run × Except Failure Report :=
  match run.addStores schema 1 (source.stores run.files) with
  | (run, .ok ()) =>
    let (run, result) := (run.print run.malformed).finish
    (run, result.map fun () ↦ .ofCount run.reported)
  | (run, .error failure) => (run.abandon, .error failure)

end Run

/-! ## The program -/

/-- How a run ended: the files, the values printed, the status, and the failure if there was one. -/
structure Outcome where
  files : FileSystem
  printed : List Json := []
  status : Nat := 0
  failure : Option Failure := none

namespace Outcome

/-- The end of a run that could not be carried out. -/
def failed (files : FileSystem) (printed : List Json) (failure : Failure) : Outcome :=
  { files, printed, status := 2, failure := some failure }

/-- The end of a run whose findings were printed. -/
def ofRun : Run × Except Failure Report → Outcome
  | (run, .error failure) => failed run.files (run.printed.map Message.toJson) failure
  | (run, .ok report) =>
    { files := run.files
      printed := run.printed.map Message.toJson
      status := report.status }

end Outcome

/-- The name of the store that standard input is, and the operand that means it. -/
def standardInput : String := "-"

/-- The sink that sends every document to a path, if there is a path. -/
def Sink.ofPath? (path : Option String) : Option Sink :=
  path.map fun path ↦ { target := Sink.toFile path }

/-- Documents are validated. -/
def ValidateOptions.run (options : ValidateOptions) (files : FileSystem) (input : Octets) :
    Outcome :=
  match Schema.load files options.schema options.ignoreExtraFields with
  | .error failure => .failed files [] failure
  | .ok schema =>
    let source : Source :=
      if options.input = standardInput then .memory [(standardInput, input)]
      else .files options.input
    .ofRun (Run.validateSource schema source
      { files
        accepted := Sink.ofPath? options.accepted
        rejected := Sink.ofPath? options.rejected })

/-- What checking prints about a path of a schema. -/
def FieldDefinition.summary (path : String) (field : FieldDefinition) : Json :=
  .object [("field", .string path), ("strictness", .string field.strictness.name),
    ("nullable", .bool field.nullable),
    ("types", .array (field.types.map fun type ↦ .string type.name))]

/-- A schema file is checked. -/
def checkSchema (schema : String) (files : FileSystem) : Outcome :=
  match Schema.load files schema false with
  | .error failure => .failed files [] failure
  | .ok schema =>
    { files, printed := schema.fields.map fun (path, field) ↦ field.summary path }

/-- The run of a command. -/
def Command.run (command : Command) (files : FileSystem) (input : Octets) : Outcome :=
  match command with
  | .validate options => options.run files input
  | .check schema => checkSchema schema files

/-- The run of a command line. One that is refused changes and prints nothing. -/
def runArguments (arguments : List String) (files : FileSystem) (input : Octets) : Outcome :=
  match Command.ofArguments arguments with
  | .ok command => command.run files input
  | .error .help => { files }
  | .error .usage => { files, status := 2 }

end DocumentSchema
