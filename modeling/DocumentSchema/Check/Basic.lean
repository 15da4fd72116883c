import DocumentSchema.Check.Structure
import DocumentSchema.Check.Text

/-!
# Checks

A check is what a declaration's type comes down to once its name is known and its parameters are
read: a shape with its limits, or a function supplied from outside. Only such a function can fail;
its failure is a fault of the schema, not a finding about the document.
-/

namespace DocumentSchema

/-- A function supplied from outside. It sees the field, the value and all parameters, and answers a
finding, or nothing, or the text of a failure. -/
abbrev CustomCheck := String → Json → Params → Except String (Option Message)

/-- The types that a declaration can name. -/
inductive BaseType where
  | any
  | object
  | list
  | number
  | integer
  | string
  | boolean
  | custom
  deriving DecidableEq, Repr

namespace BaseType

/-- The names of types. Two types have a short name too. -/
def names : List (String × BaseType) :=
  [("any", any), ("object", object), ("list", list), ("number", number), ("integer", integer),
    ("int", integer), ("string", string), ("boolean", boolean), ("bool", boolean),
    ("custom", custom)]

/-- The type of a name. -/
def ofName? (name : String) : Option BaseType := names.lookup name

/-- The full name of a type. -/
def name : BaseType → String
  | any => "any"
  | object => "object"
  | list => "list"
  | number => "number"
  | integer => "integer"
  | string => "string"
  | boolean => "boolean"
  | custom => "custom"

/-- The type is one that a path implies for the places above it. -/
def isStructural : BaseType → Bool
  | object | list => true
  | _ => false

@[simp] theorem ofName?_name (type : BaseType) : ofName? type.name = some type := by
  cases type <;> rfl

end BaseType

/-- A check with its limits. -/
inductive Check where
  | any
  | object
  | boolean
  | list (limits : ListLimits)
  | number (limits : NumberLimits)
  | integer (limits : NumberLimits)
  | text (limits : TextLimits)
  | custom (function : CustomCheck) (params : Params)

namespace Check

/-- The check that a type comes down to for a field. -/
def build (type : BaseType) (field : String) (params : Params) (function : Option CustomCheck) :
    Except SchemaError Check :=
  match type with
  | .any => do
    Params.rejectUnknown field params []
    return any
  | .object => do
    Params.rejectUnknown field params []
    return object
  | .list => list <$> ListLimits.ofParams field params
  | .number => number <$> NumberLimits.ofParams field params
  | .integer => integer <$> NumberLimits.ofParams field params
  | .string => text <$> TextLimits.ofParams field params
  | .boolean => do
    Params.rejectUnknown field params []
    return boolean
  | .custom =>
    match function with
    | some function => .ok (custom function params)
    | none => Params.invalid field "no custom validation function specified"

/-- The finding of a check about a value at a concrete path. -/
def run : Check → String → Json → Except SchemaError (Option Message)
  | any, _, _ => .ok none
  | object, path, value => .ok (checkObject path value)
  | boolean, path, value => .ok (checkBoolean path value)
  | list limits, path, value => .ok (checkList limits path value)
  | number limits, path, value => .ok (checkNumber limits path value)
  | integer limits, path, value => .ok (checkInteger limits path value)
  | text limits, path, value => .ok (checkText limits path value)
  | custom function params, path, value =>
    (function path value params).mapError (.customValidator path)

end Check

end DocumentSchema
