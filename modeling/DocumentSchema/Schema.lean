import DocumentSchema.FieldType
import DocumentSchema.Path

/-!
# Schemas

A schema knows a set of paths, in the order in which they were first mentioned, and for each path
whether it must be present, whether it may be null, and which rules its values are checked by. The
order is the order in which findings are reported. A path occurs once.
-/

namespace DocumentSchema

/-- Whether a path must be present. Of a path that is only mentioned as a step to others this is
not known, and it is never reported missing. -/
inductive Strictness where
  | unknown
  | required
  | optional
  deriving DecidableEq, Repr

/-- The name of a strictness. -/
def Strictness.name : Strictness → String
  | unknown => "unknown"
  | required => "required"
  | optional => "optional"

/-- A rule for the values at a path; `implicit` if no declaration asked for it by name. -/
structure Rule where
  type : BaseType
  nullable : Bool
  implicit : Bool
  check : Check

/-- What a schema knows about a path. -/
structure FieldDefinition where
  strictness : Strictness := .unknown
  nullable : Bool := false
  rules : List Rule := []

namespace FieldDefinition

/-- Some declaration named a type for the path. -/
def hasExplicitRule (field : FieldDefinition) : Bool := field.rules.any fun rule ↦ !rule.implicit

/-- There is a rule of a type. -/
def hasRuleFor (field : FieldDefinition) (type : BaseType) : Bool :=
  field.rules.any fun rule ↦ rule.type = type

/-- The types of the rules in the order of evaluation. -/
def types (field : FieldDefinition) : List BaseType := field.rules.map (·.type)

end FieldDefinition

/-- A schema: what is known about each path, in the order of first mention. -/
structure Schema where
  fields : Entries String FieldDefinition := []
  ignoreExtraFields : Bool := false

namespace Schema

/-- What is known about a path. -/
def field? (schema : Schema) (path : String) : Option FieldDefinition := schema.fields.get? path

/-- The paths in the order of first mention. -/
def paths (schema : Schema) : List String := schema.fields.keys

/-- The path is known. -/
def knows (schema : Schema) (path : String) : Bool := schema.paths.contains path

/-- What is known about a path, or nothing yet. -/
def entry (schema : Schema) (path : String) : FieldDefinition := (schema.field? path).getD {}

/-- The schema with another definition of a path. -/
def set (schema : Schema) (path : String) (field : FieldDefinition) : Schema :=
  { schema with fields := schema.fields.insert path field }

@[simp] theorem field?_set (schema : Schema) (path other : String) (field : FieldDefinition) :
    (schema.set path field).field? other
      = if other = path then some field else schema.field? other :=
  Entries.get?_insert schema.fields path other field

theorem paths_set (schema : Schema) (path : String) (field : FieldDefinition) :
    (schema.set path field).paths
      = if path ∈ schema.paths then schema.paths else schema.paths ++ [path] :=
  Entries.keys_insert schema.fields path field

theorem mem_paths_set {schema : Schema} {path other : String} {field : FieldDefinition} :
    other ∈ (schema.set path field).paths ↔ other = path ∨ other ∈ schema.paths :=
  Entries.mem_keys_insert

theorem knows_iff {schema : Schema} {path : String} :
    schema.knows path = true ↔ path ∈ schema.paths := List.contains_iff_mem

theorem field?_eq_none_iff {schema : Schema} {path : String} :
    schema.field? path = none ↔ path ∉ schema.paths := Entries.get?_eq_none_iff

/-- Of a path that is not known there is nothing yet. -/
theorem entry_of_notMem {schema : Schema} {path : String} (h : path ∉ schema.paths) :
    schema.entry path = {} := by
  rw [entry, field?_eq_none_iff.mpr h, Option.getD_none]

@[simp] theorem entry_set (schema : Schema) (path other : String) (field : FieldDefinition) :
    (schema.set path field).entry other = if other = path then field else schema.entry other := by
  rw [entry, field?_set]
  split <;> rfl

/-- Where no path is repeated, the schema lists of a path what it knows about it. -/
theorem mem_fields_iff {schema : Schema} (h : schema.paths.Nodup) {path : String}
    {field : FieldDefinition} :
    (path, field) ∈ schema.fields ↔ path ∈ schema.paths ∧ schema.entry path = field := by
  rw [Entries.mem_iff_get?_eq_some h, entry, field?]
  cases hget : schema.fields.get? path with
  | none =>
    have hpath : path ∉ schema.paths := field?_eq_none_iff.mp hget
    simp [hpath]
  | some found =>
    by_cases hpath : path ∈ schema.paths
    · simp [hpath]
    · rw [← field?_eq_none_iff, field?, hget] at hpath
      cases hpath

end Schema

end DocumentSchema
