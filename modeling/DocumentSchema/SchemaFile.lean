import DocumentSchema.CustomChecks
import DocumentSchema.Declaration
import DocumentSchema.Toml.Document

/-!
# Schema files

A schema file lists declarations of fields, which are met in the order of the file, and says
whether members that no declaration mentions are ignored. It is written in TOML, or given as a
document value of the same layout. Both kinds of values are read by one reader, which knows of a
value only what `LayoutValue` says.

A declaration has a path, a presence, perhaps a type and the name of a custom check; everything
else in it is a parameter of the check. What is wrong with a declaration is found when the schema
is made, not when the file is read.
-/

namespace DocumentSchema

/-! ## Values of a file -/

/-- Values in which a schema file can be written. -/
class LayoutValue (α : Type) where
  /-- The text of a string. -/
  string? : α → Option String
  /-- The truth value of a boolean. -/
  bool? : α → Option Bool
  /-- The items of a list. -/
  items? : α → Option (List α)
  /-- The entries of a table. -/
  entries? : α → Option (List (String × α))
  /-- The value stands for no value. -/
  isAbsent : α → Bool
  /-- The value says nothing beyond being there. -/
  isUnit : α → Bool
  /-- The value as a parameter. -/
  toJson : α → Json

instance : LayoutValue Json where
  string? := Json.asString?
  bool? := fun
    | .bool value => some value
    | _ => none
  items? := Json.asArray?
  entries? := Json.asObject?
  isAbsent := Json.isNull
  isUnit := Json.isNull
  toJson := id

instance : LayoutValue Toml where
  string? := fun
    | .string value => some value
    | _ => none
  bool? := fun
    | .boolean value => some value
    | _ => none
  items? := fun
    | .array items => some items
    | _ => none
  entries? := fun
    | .table entries => some entries
    | _ => none
  isAbsent := fun _ ↦ false
  isUnit := fun
    | .table [] | .array [] => true
    | _ => false
  toJson := Toml.toJson

/-! ## The file -/

/-- One declaration of a schema file. -/
structure SchemaFile.Entry where
  path : String
  presence : Presence := .required
  type : Option String := none
  validator : Option String := none
  params : Params := []

/-- A schema file. -/
structure SchemaFile where
  ignoreExtraFields : Bool := false
  fields : List SchemaFile.Entry := []

/-- The name of a presence. -/
def Presence.name : Presence → String
  | required => "required"
  | optional => "optional"

/-- The presence of a name. -/
def Presence.ofName? (name : String) : Option Presence :=
  [required, optional].find? fun presence ↦ presence.name = name

namespace SchemaFile

section Reading

variable {α : Type} [LayoutValue α]

open LayoutValue

/-- A presence is written as its name, or as a table whose one key is the name and whose value says
nothing. -/
def readPresence? (value : α) : Option Presence :=
  match string? value with
  | some name => Presence.ofName? name
  | none =>
    match entries? value with
    | some [(name, value)] => if isUnit value then Presence.ofName? name else none
    | _ => none

/-- A text that may be absent. -/
def readOptional? (value : α) : Option (Option String) :=
  if isAbsent value then some none else (string? value).map some

/-- The keys of a declaration that are not parameters. -/
def entryKeys : List String := ["path", "presence", "type", "validator"]

/-- A value read if its key is there, and otherwise a value that stands in for it. -/
def readOr {β : Type} (entries : List (String × α)) (key : String) (read : α → Option β)
    (default : β) : Option β :=
  match entries.lookup key with
  | some value => read value
  | none => some default

/-- A declaration. -/
def Entry.read? (value : α) : Option Entry := do
  let entries ← entries? value
  let path ← string? (← entries.lookup "path")
  let presence ← readOr entries "presence" readPresence? .required
  let type ← readOr entries "type" readOptional? none
  let validator ← readOr entries "validator" readOptional? none
  let params := entries.filter fun (key, _) ↦ !entryKeys.contains key
  return { path, presence, type, validator,
           params := Entries.ofList (params.map fun (key, value) ↦ (key, toJson value)) }

/-- The declarations of a file. -/
def readFields? (value : α) : Option (List Entry) := do
  (← items? value).mapM Entry.read?

/-- The keys of a file. -/
def fileKeys : List String := ["ignore_extra_fields", "fields"]

/-- A file is a table without other keys, or the values of its keys in order. -/
def read? (value : α) : Option SchemaFile := do
  let entries ← match entries? value with
    | some entries => pure entries
    | none =>
      let items ← items? value
      if items.length ≤ fileKeys.length then pure (fileKeys.zip items) else none
  if entries.any fun (key, _) ↦ !fileKeys.contains key then none
  else
    let ignoreExtraFields ← readOr entries "ignore_extra_fields" bool? false
    let fields ← readOr entries "fields" readFields? []
    return { ignoreExtraFields, fields }

end Reading

/-- The file of a document value. -/
def ofJson? (value : Json) : Option SchemaFile := read? value

/-- The file of a TOML text. -/
def ofToml (text : String) : Except Failure SchemaFile :=
  match (Toml.parse? text).bind fun entries ↦ read? (Toml.table entries) with
  | some file => .ok file
  | none => .error (.config "failed to parse schema TOML")

/-! ## The schema -/

/-- The type of a declaration. A custom check can be named only for a custom type, and must be
registered. -/
def Entry.fieldType (checks : CustomChecks) (entry : Entry) : Except SchemaError FieldType :=
  let type := match entry.type with
    | some name => FieldType.named name
    | none => FieldType.untyped
  match entry.validator with
  | none => .ok (type.withParams entry.params)
  | some name =>
    if type.name ≠ some BaseType.custom.name then
      Params.invalid entry.path s!"validator '{name}' requires type 'custom'"
    else match checks.get? name with
      | some function => .ok ((type.withFunction function).withParams entry.params)
      | none => Params.invalid entry.path s!"no custom validator registered as '{name}'"

/-- The declaration that an entry makes. -/
def Entry.declaration (checks : CustomChecks) (entry : Entry) : Except SchemaError Declaration :=
  (entry.fieldType checks).map (.field entry.path entry.presence)

/-- The schema after entries that all succeed, or the first fault. -/
def declareEntries (checks : CustomChecks) (schema : Schema) :
    List Entry → Except SchemaError Schema
  | [] => .ok schema
  | entry :: rest => do
    let declaration ← entry.declaration checks
    match schema.declare declaration with
    | (schema, .ok ()) => declareEntries checks schema rest
    | (_, .error error) => .error error

/-- The schema that a file makes. -/
def compile (file : SchemaFile) (checks : CustomChecks) : Except SchemaError Schema :=
  declareEntries checks { ignoreExtraFields := file.ignoreExtraFields } file.fields

end SchemaFile

end DocumentSchema
