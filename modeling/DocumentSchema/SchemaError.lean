/-!
# Faults of a schema

Everything that can be wrong with a declaration, and the one fault that can come up while documents
are checked: a function supplied from outside that fails. Each fault names the field it concerns.
-/

namespace DocumentSchema

/-- A fault of a schema. -/
inductive SchemaError where
  | optionalNotAllowed (field : String)
  | alreadyRequired (field : String)
  | alreadyOptional (field : String)
  | alreadyNullable (field : String)
  | alreadyNonNullable (field : String)
  | unknownType (field typeName : String)
  | invalidParameter (field reason : String)
  | invalidPath (field reason : String)
  | customValidator (field source : String)
  deriving DecidableEq, Repr

namespace SchemaError

/-- The stable name of the kind of fault. -/
def kind : SchemaError → String
  | optionalNotAllowed _ => "optional_not_allowed"
  | alreadyRequired _ => "already_required"
  | alreadyOptional _ => "already_optional"
  | alreadyNullable _ => "already_nullable"
  | alreadyNonNullable _ => "already_non_nullable"
  | unknownType _ _ => "unknown_type"
  | invalidParameter _ _ => "invalid_parameter"
  | invalidPath _ _ => "invalid_path"
  | customValidator _ _ => "custom_validator"

/-- The field that the fault concerns. -/
def field : SchemaError → String
  | optionalNotAllowed field | alreadyRequired field | alreadyOptional field
  | alreadyNullable field | alreadyNonNullable field | unknownType field _
  | invalidParameter field _ | invalidPath field _ | customValidator field _ => field

/-- The text of the failure that lies behind the fault, if one does. -/
def source? : SchemaError → Option String
  | customValidator _ source => some source
  | _ => none

/-- The text of the fault. -/
def message : SchemaError → String
  | optionalNotAllowed _ => "root cannot be optional"
  | alreadyRequired field => s!"field '{field}' marked as optional, but it's already required"
  | alreadyOptional field => s!"field '{field}' marked as required, but it's already optional"
  | alreadyNullable field => s!"field '{field}' marked as non-nullable, but it's already nullable"
  | alreadyNonNullable field =>
    s!"field '{field}' marked as nullable, but it's already non-nullable"
  | unknownType field typeName => s!"type '{typeName}' specified for field '{field}' is invalid"
  | invalidParameter field reason => s!"invalid parameter for field '{field}': {reason}"
  | invalidPath field reason => s!"invalid field path '{field}': {reason}"
  | customValidator field source => s!"custom validator for field '{field}' failed: {source}"

end SchemaError

/-- Why an operation as a whole did not succeed. Findings about documents are not failures. -/
inductive Failure where
  | schema (error : SchemaError)
  | documentNotObject (found : String)
  | config (reason : String)
  | io (reason : String)
  | registryUnavailable
  deriving DecidableEq, Repr

/-- The text of a failure. -/
def Failure.message : Failure → String
  | schema error => s!"schema error: {error.message}"
  | documentNotObject found => s!"document must be an object, found {found}"
  | config reason => s!"configuration error: {reason}"
  | io reason => s!"i/o error: {reason}"
  | registryUnavailable => "schema registry unavailable"

end DocumentSchema
