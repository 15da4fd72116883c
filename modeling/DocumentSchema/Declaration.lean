import DocumentSchema.Schema

/-!
# Declarations

A schema grows by declarations. A declaration of a path makes demands along a walk: on the elements
of the path if it is declared to be a list, on the path itself, and on every path above it up to the
root, each of which must be an object or a list for the declared path to exist. Demands are met one
after the other; the first that contradicts what is known is a fault, and what was met before it
stays met.

A demand never takes back what is known. A strictness, once known, is fixed; null once allowed stays
allowed; a rule of a structural type can be replaced by an explicit one, and no rule goes away.
-/

namespace DocumentSchema

/-! ## Demands -/

/-- A kind of value that holds others. -/
inductive ContainerKind where
  | object
  | list
  deriving DecidableEq, Repr

namespace ContainerKind

/-- The type of a container. -/
def type : ContainerKind → BaseType
  | object => .object
  | list => .list

/-- The check that a container passes as such. -/
def check : ContainerKind → Check
  | object => .object
  | list => .list {}

end ContainerKind

/-- What a declaration asks of a path: that it be there as the element of a declared list, that it
have the declared type, or that it hold the path below. -/
inductive Demand.Part where
  | element
  | declared (type : ResolvedType)
  | container (kind : ContainerKind)

/-- A demand on one path. -/
structure Demand where
  path : String
  strictness : Strictness
  part : Demand.Part

namespace FieldDefinition

/-- The two strictnesses contradict each other. -/
def checkStrictness (field : FieldDefinition) (path : String) (strictness : Strictness) :
    Except SchemaError Unit :=
  match field.strictness, strictness with
  | .required, .optional => .error (.alreadyRequired (Path.stripListMarkers path))
  | .optional, .required => .error (.alreadyOptional (Path.stripListMarkers path))
  | _, _ => .ok ()

/-- A type is named for a path that has a named type already, and they disagree about null. -/
def checkNullability (field : FieldDefinition) (path : String) (nullable : Bool) :
    Except SchemaError Unit :=
  if !field.hasExplicitRule || field.nullable == nullable then .ok ()
  else if nullable then .error (.alreadyNonNullable (Path.stripListMarkers path))
  else .error (.alreadyNullable (Path.stripListMarkers path))

/-- A rule that nobody named is added if there is none of its type. -/
def addImplicit (field : FieldDefinition) (rule : Rule) : FieldDefinition :=
  if field.hasRuleFor rule.type then field else { field with rules := field.rules ++ [rule] }

/-- A rule that a declaration named is added; one of a structural type replaces those of its type.
-/
def addExplicit (field : FieldDefinition) (rule : Rule) : FieldDefinition :=
  let kept :=
    if rule.type.isStructural then field.rules.filter (·.type ≠ rule.type) else field.rules
  { field with rules := kept ++ [rule] }

/-- The definition with a rule. -/
def addRule (field : FieldDefinition) (rule : Rule) : FieldDefinition :=
  if rule.implicit then field.addImplicit rule else field.addExplicit rule

/-- The definition with a strictness, unless it has one. -/
def settle (field : FieldDefinition) (strictness : Strictness) : FieldDefinition :=
  if field.strictness = .unknown then { field with strictness } else field

end FieldDefinition

/-- The demand contradicts what is known about its path. -/
def Demand.check (demand : Demand) (field : FieldDefinition) : Except SchemaError Unit := do
  field.checkStrictness demand.path demand.strictness
  match demand.part with
  | .declared type =>
    if type.implicit then return ()
    else field.checkNullability demand.path type.nullable
  | _ => return ()

/-- What is known about a path after a demand. -/
def Demand.update (demand : Demand) (field : FieldDefinition) : FieldDefinition :=
  let field := match demand.part with
    | .element => field
    | .declared type =>
      let field := field.addRule ⟨type.type, type.nullable, type.implicit, type.check⟩
      { field with nullable := field.nullable || type.nullable }
    | .container kind => field.addImplicit ⟨kind.type, false, true, kind.check⟩
  field.settle demand.strictness

namespace Schema

/-- The schema after a demand, or the contradiction. -/
def meet (schema : Schema) (demand : Demand) : Except SchemaError Schema := do
  let field := schema.entry demand.path
  demand.check field
  return schema.set demand.path (demand.update field)

/-- The schema after demands in order, up to the first contradiction. -/
def meetAll (schema : Schema) : List Demand → Schema × Except SchemaError Unit
  | [] => (schema, .ok ())
  | demand :: rest =>
    match schema.meet demand with
    | .ok schema => schema.meetAll rest
    | .error error => (schema, .error error)

end Schema

/-! ## The walk -/

/-- The container of a path, its kind, and the strictness it gets. A list passes its strictness on
to the container; of the object around a member nothing is known, unless it is the root. -/
def containerStep? (path : String) (strictness : Strictness) :
    Option (String × ContainerKind × Strictness) :=
  if Path.isRoot path then none
  else match Path.stripMarker? path with
    | some container => some (container, .list, strictness)
    | none =>
      match Path.splitLastDot? path with
      | some (before, _) => some (before, .object, .unknown)
      | none => some (Path.root, .object, .required)

/-- The demands on the paths above a path. Every step but the last shortens the path, so the length
of the path bounds the steps. -/
def containersAbove : Nat → String → Strictness → List Demand
  | 0, _, _ => []
  | fuel + 1, path, strictness =>
    match containerStep? path strictness with
    | none => []
    | some (container, kind, strictness) =>
      ⟨container, strictness, .container kind⟩ :: containersAbove fuel container strictness

/-- The walk of a declaration: every demand that it makes, in order. -/
def walk (path : String) (type : ResolvedType) (strictness : Strictness) : List Demand :=
  let elements : List Demand :=
    if type.type = .list && !type.implicit then [⟨Path.element path, strictness, .element⟩] else []
  elements ++ ⟨path, strictness, .declared type⟩ ::
    containersAbove (path.length + 1) path strictness

/-! ## Declarations -/

/-- Whether a declared field must be present. -/
inductive Presence where
  | required
  | optional
  deriving DecidableEq, Repr

/-- The strictness that a presence gives. -/
def Presence.strictness : Presence → Strictness
  | required => .required
  | optional => .optional

/-- A step in the making of a schema. -/
inductive Declaration where
  | field (path : String) (presence : Presence) (type : FieldType)
  | ignoreExtraFields

namespace Schema

/-- The schema after a path is declared. The path is trimmed, read, and only then is the type
understood; the root cannot be optional, whatever its type. -/
def declareField (schema : Schema) (path : String) (presence : Presence) (type : FieldType) :
    Schema × Except SchemaError Unit :=
  let path := trim path
  if presence = .optional && Path.isRoot path then
    (schema, .error (.optionalNotAllowed Path.root))
  else
    let path := Path.normalize path
    match Path.segments path, type.resolve path with
    | .error error, _ | .ok _, .error error => (schema, .error error)
    | .ok _, .ok type => schema.meetAll (walk path type presence.strictness)

/-- The schema after a declaration. -/
def declare (schema : Schema) : Declaration → Schema × Except SchemaError Unit
  | .field path presence type => schema.declareField path presence type
  | .ignoreExtraFields => ({ schema with ignoreExtraFields := true }, .ok ())

/-- The schema after declarations that all succeed, or the first fault. -/
def declareAll (schema : Schema) : List Declaration → Except SchemaError Schema
  | [] => .ok schema
  | declaration :: rest =>
    match schema.declare declaration with
    | (schema, .ok ()) => schema.declareAll rest
    | (_, .error error) => .error error

/-- The schema that declarations make from nothing. -/
def compile (declarations : List Declaration) : Except SchemaError Schema :=
  ({} : Schema).declareAll declarations

@[simp] theorem compile_nil : compile [] = .ok {} := rfl

theorem meetAll_cons_ok {schema next : Schema} {demand : Demand} {rest : List Demand}
    (h : schema.meet demand = .ok next) : schema.meetAll (demand :: rest) = next.meetAll rest := by
  rw [meetAll, h]

theorem meetAll_cons_error {schema : Schema} {demand : Demand} {rest : List Demand}
    {error : SchemaError} (h : schema.meet demand = .error error) :
    schema.meetAll (demand :: rest) = (schema, .error error) := by
  rw [meetAll, h]

end Schema

end DocumentSchema
