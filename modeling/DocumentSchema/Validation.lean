import DocumentSchema.Index

/-!
# Validation

A document is validated against a schema in three passes over its index: the values at each path
against its rules, the members that are required and absent, and the members that the schema does
not know. Findings come in this order, within a pass in the order of the schema, and within a path
in document order.

A member is missing only from an object that is there. If the place above is itself absent, null or
of another shape, that is a finding of its own or allowed, and nothing is said about what would be
below it.
-/

namespace DocumentSchema

namespace Schema

/-- The findings about one value: that it is null where null is not allowed, or those of the rules
in order. -/
def checkEntry (field : FieldDefinition) (entry : IndexEntry) :
    Except SchemaError (List Message) :=
  if entry.value.isNull then
    .ok (if field.nullable then [] else [Message.new Message.Kind.nullValue entry.path])
  else do
    let findings ← field.rules.mapM fun rule ↦ rule.check.run entry.path entry.value
    return findings.filterMap id

/-- The findings about the values of one path. -/
def checkField (index : Index) (path : String) (field : FieldDefinition) :
    Except SchemaError (List Message) := do
  return (← (index.entries path).mapM (checkEntry field)).flatten

/-- The findings about all values. -/
def checkValues (schema : Schema) (index : Index) : Except SchemaError (List Message) := do
  return (← schema.fields.mapM fun (path, field) ↦ checkField index path field).flatten

/-- The finding that a member is missing from a value, if the value is an object without it. -/
def missingFrom (key : String) (entry : IndexEntry) : Option Message :=
  match entry.value with
  | .object members =>
    if Entries.contains members key then none
    else some (Message.new Message.Kind.missingField (Path.child entry.path key))
  | _ => none

/-- The findings that the member at a path is missing. -/
def missingAt (index : Index) (path : String) (field : FieldDefinition) : List Message :=
  if field.strictness ≠ .required || Path.isListTemplate path then []
  else match Path.splitLast? path with
    | none => []
    | some (parent, key) => (index.entries parent).filterMap (missingFrom key)

/-- The findings about members that are missing. -/
def reportMissing (schema : Schema) (index : Index) : List Message :=
  schema.fields.flatMap fun (path, field) ↦ missingAt index path field

/-- The findings about members that are not known. -/
def reportExtra (schema : Schema) (index : Index) : List Message :=
  if schema.ignoreExtraFields then []
  else index.extraFields.map (Message.new Message.Kind.extraField)

/-- The findings about a document. Every entry of the context goes into each of them. -/
def validate (schema : Schema) (document : Json) (context : Members) :
    Except Failure (List Message) :=
  match document with
  | .object _ =>
    let index := Index.ofDocument schema.knows document
    match schema.checkValues index with
    | .error error => .error (.schema error)
    | .ok findings =>
      .ok ((findings ++ schema.reportMissing index ++ schema.reportExtra index).map
        (·.extendContext context))
  | _ => .error (.documentNotObject document.describe)

end Schema

end DocumentSchema
