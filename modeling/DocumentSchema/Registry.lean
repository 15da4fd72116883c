import DocumentSchema.Validation

/-!
# The registry of schemas

A registry keeps the schema made for each id. The first definition of an id that succeeds is kept,
and later definitions of the id are not even run; putting a schema in replaces the one that is
there. A definition that is at fault leaves no trace. A definition that aborts while the registry is
busy with it makes the registry unavailable for good.

Every operation answers with the registry afterwards, with whether it ran the definition, and with
what came of it. Schemas are numbered as they are made, so that a caller can tell whether two
answers are the same schema.
-/

namespace DocumentSchema

/-- What running a definition comes to. -/
inductive Definition where
  | made (schema : Schema)
  | fault (error : SchemaError)
  | aborts

namespace Definition

/-- The definition that consists of declarations. -/
def ofDeclarations (declarations : List Declaration) : Definition :=
  match Schema.compile declarations with
  | .ok schema => made schema
  | .error error => fault error

end Definition

/-- A schema with the number it was made under. -/
structure Registered where
  number : Nat
  schema : Schema

/-- What comes of an operation that may run a definition. -/
inductive Answer (α : Type) where
  | value (value : α)
  | failure (failure : Failure)
  | aborted

/-- A registry of schemas. -/
structure Registry where
  schemas : Entries String Registered := []
  /-- The number of the next schema. -/
  next : Nat := 0
  /-- A definition aborted while the registry was busy with it. -/
  unavailable : Bool := false

/-- A registry after an operation, whether the operation ran the definition, and its answer. -/
structure Registry.Step (α : Type) where
  registry : Registry
  ran : Bool
  answer : Answer α

namespace Registry

/-- The schema of an id. -/
def find? (registry : Registry) (id : String) : Option Registered := registry.schemas.get? id

/-- The registry with a newly made schema under an id. -/
def put (registry : Registry) (id : String) (schema : Schema) : Registry :=
  { registry with
    schemas := registry.schemas.insert id ⟨registry.next, schema⟩
    next := registry.next + 1 }

/-- The schema of an id; if there is none, its definition is run. -/
def getOrCompile (registry : Registry) (id : String) (definition : Definition) :
    Step Registered :=
  if registry.unavailable then ⟨registry, false, .failure .registryUnavailable⟩
  else match registry.find? id with
    | some found => ⟨registry, false, .value found⟩
    | none =>
      match definition with
      | .made schema => ⟨registry.put id schema, true, .value ⟨registry.next, schema⟩⟩
      | .fault error => ⟨registry, true, .failure (.schema error)⟩
      | .aborts => ⟨{ registry with unavailable := true }, true, .aborted⟩

/-- A definition is run before the registry is asked, and its schema put under an id. -/
def insert (registry : Registry) (id : String) (definition : Definition) : Step Registered :=
  match definition with
  | .aborts => ⟨registry, true, .aborted⟩
  | .fault error => ⟨registry, true, .failure (.schema error)⟩
  | .made schema =>
    if registry.unavailable then ⟨registry, true, .failure .registryUnavailable⟩
    else ⟨registry.put id schema, true, .value ⟨registry.next, schema⟩⟩

/-- The schema of an id, if there is one. -/
def get (registry : Registry) (id : String) : Except Failure (Option Registered) :=
  if registry.unavailable then .error .registryUnavailable else .ok (registry.find? id)

/-- The number of ids that have a schema. -/
def size (registry : Registry) : Except Failure Nat :=
  if registry.unavailable then .error .registryUnavailable else .ok registry.schemas.length

/-- The findings about a document by the schema of an id, whose definition is run if need be. -/
def validate (registry : Registry) (id : String) (definition : Definition) (document : Json)
    (context : Members) : Step (List Message) :=
  let step := registry.getOrCompile id definition
  let answer := match step.answer with
    | .value found =>
      match found.schema.validate document context with
      | .ok messages => .value messages
      | .error failure => .failure failure
    | .failure failure => .failure failure
    | .aborted => .aborted
  ⟨step.registry, step.ran, answer⟩

@[simp] theorem find?_put (registry : Registry) (id other : String) (schema : Schema) :
    (registry.put id schema).find? other
      = if other = id then some ⟨registry.next, schema⟩ else registry.find? other :=
  Entries.get?_insert registry.schemas id other ⟨registry.next, schema⟩

@[simp] theorem registry_validate (registry : Registry) (id : String) (definition : Definition)
    (document : Json) (context : Members) :
    (registry.validate id definition document context).registry
      = (registry.getOrCompile id definition).registry := rfl

@[simp] theorem ran_validate (registry : Registry) (id : String) (definition : Definition)
    (document : Json) (context : Members) :
    (registry.validate id definition document context).ran
      = (registry.getOrCompile id definition).ran := rfl

end Registry

end DocumentSchema
