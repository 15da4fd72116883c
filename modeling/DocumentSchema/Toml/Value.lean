import DocumentSchema.Json.Value

/-!
# Configuration values

The values of a TOML document. Tables keep the order of the file. A float may be one that no
document value can express, an infinity or not a number; a date or a time is kept as its text.

Where such a value becomes a parameter, a float without a document value turns into null, and a date
or time into an object with a single reserved key.
-/

namespace DocumentSchema

/-- A value of a TOML document. A float is `none` if it is infinite or not a number. -/
inductive Toml where
  | string (value : String)
  | integer (value : Int)
  | float (value : Option Binary64)
  | boolean (value : Bool)
  | datetime (text : String)
  | array (items : List Toml)
  | table (entries : List (String × Toml))
  deriving Inhabited

namespace Toml

/-- The reserved key under which a date or time is a parameter. -/
def datetimeKey : String := "$__toml_private_datetime"

mutual

/-- The document value of a configuration value. -/
def toJson : Toml → Json
  | string value => .string value
  | integer value => .number (.integer value)
  | float (some value) => .number (.float value)
  | float none => .null
  | boolean value => .bool value
  | datetime text => .object [(datetimeKey, .string text)]
  | array items => .array (toJsonItems items)
  | table entries => .object (toJsonEntries entries)

/-- The document values of items. -/
def toJsonItems : List Toml → List Json
  | [] => []
  | item :: rest => item.toJson :: toJsonItems rest

/-- The document values of entries. -/
def toJsonEntries : List (String × Toml) → Members
  | [] => []
  | (key, value) :: rest => (key, value.toJson) :: toJsonEntries rest

end

end Toml

end DocumentSchema
