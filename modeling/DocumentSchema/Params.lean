import DocumentSchema.Json.Printer
import DocumentSchema.SchemaError

/-!
# Parameters of checks

A check is configured by named values. Each check says which names it takes; another name, or a
value of the wrong type, is a fault of the schema. A value of null is the same as no value, but its
name must still be one that the check takes.
-/

namespace DocumentSchema

/-- Named values that configure a check. -/
abbrev Params := Members

namespace Params

/-- A parameter that cannot be used. -/
def invalid {α : Type} (field reason : String) : Except SchemaError α :=
  .error (.invalidParameter field reason)

/-- The first name that is not among the allowed ones is a fault. -/
def rejectUnknown (field : String) (params : Params) (allowed : List String) :
    Except SchemaError Unit :=
  match params.find? fun (key, _) ↦ !allowed.contains key with
  | some (key, _) => invalid field s!"unknown parameter '{key}'"
  | none => .ok ()

/-- The value of a parameter that is set. -/
def present? (params : Params) (key : String) : Option Json :=
  (params.get? key).filter fun value ↦ !value.isNull

/-- A parameter read by a partial reader. What the reader refuses is a fault that names the wanted
type and the value. -/
def readAs {α : Type} (wanted : String) (read : Json → Option α) (field : String)
    (params : Params) (key : String) : Except SchemaError (Option α) :=
  match present? params key with
  | none => .ok none
  | some value =>
    match read value with
    | some result => .ok (some result)
    | none => invalid field s!"'{key}' must be {wanted}, got {value.text}"

/-- The number of a value. -/
def number? : Json → Option Number
  | .number value => some value
  | _ => none

/-- The count of a value: an integer that is not negative. -/
def count? : Json → Option Nat
  | .number value => value.asCount?
  | _ => none

/-- The truth value of a value. -/
def bool? : Json → Option Bool
  | .bool value => some value
  | _ => none

/-- A numeric bound, kept as it was written. -/
def bound : String → Params → String → Except SchemaError (Option Number) :=
  readAs "a number" number?

/-- A bound on a count. -/
def count : String → Params → String → Except SchemaError (Option Nat) :=
  readAs "a non-negative integer" count?

/-- A text. -/
def string : String → Params → String → Except SchemaError (Option String) :=
  readAs "a string" Json.asString?

/-- A truth value. -/
def boolean : String → Params → String → Except SchemaError (Option Bool) :=
  readAs "a boolean" bool?

/-- A list of values. -/
def list : String → Params → String → Except SchemaError (Option (List Json)) :=
  readAs "a list" Json.asArray?

end Params

end DocumentSchema
