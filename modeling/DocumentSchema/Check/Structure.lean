import DocumentSchema.Check.Number

/-!
# Checks on shape

An object, a list, or a truth value. A list may have bounds on the number of its elements.
-/

namespace DocumentSchema

/-- Bounds on the number of elements of a list. -/
structure ListLimits where
  min : Option Nat := none
  max : Option Nat := none
  deriving DecidableEq

namespace ListLimits

/-- The parameters that configure limits. -/
def paramNames : List String := ["min", "max"]

/-- Limits from parameters. -/
def ofParams (field : String) (params : Params) : Except SchemaError ListLimits := do
  Params.rejectUnknown field params paramNames
  let min ← Params.count field params "min"
  let max ← Params.count field params "max"
  return { min, max }

def written (count : Option Nat) : Json := (count.map Json.ofNat).getD .null

/-- What a finding says was expected. -/
def expected (limits : ListLimits) : Json :=
  .object [("min", written limits.min), ("max", written limits.max)]

/-- The finding about a list of so many elements, if it does not pass. -/
def check (limits : ListLimits) (field : String) (count : Nat) : Option Message :=
  if limits.min.any (count < ·) then
    some ((Message.new Message.Kind.tooFewElements field).withExpected limits.expected)
  else if limits.max.any (· < count) then
    some ((Message.new Message.Kind.tooManyElements field).withExpected limits.expected)
  else none

end ListLimits

/-- The check of a list. -/
def checkList (limits : ListLimits) (field : String) : Json → Option Message
  | .array items => limits.check field items.length
  | _ => some (.invalidType field "list")

/-- The check of an object. -/
def checkObject (field : String) : Json → Option Message
  | .object _ => none
  | _ => some (.invalidType field "object")

/-- The check of a truth value. -/
def checkBoolean (field : String) : Json → Option Message
  | .bool _ => none
  | _ => some (.invalidType field "boolean")

end DocumentSchema
