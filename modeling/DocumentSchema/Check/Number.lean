import DocumentSchema.Message
import DocumentSchema.Params

/-!
# Checks on numbers

A number passes if it is one of the options, or if it lies within the bounds; with options and
without a bound only the options count. When it does not pass, the finding is that it is too small,
else that it is too large, else that it is no option. All comparisons are made between the values
as floats, so the spelling of a number does not matter.
-/

namespace DocumentSchema

/-- Bounds and options for a number, as they were written. -/
structure NumberLimits where
  min : Option Number := none
  max : Option Number := none
  options : Option (List Number) := none
  deriving DecidableEq

namespace NumberLimits

/-- The parameters that configure limits. -/
def paramNames : List String := ["min", "max", "options"]

/-- The options among the parameters; every one must be a number. -/
def readOptions (field : String) (params : Params) :
    Except SchemaError (Option (List Number)) := do
  match ← Params.list field params "options" with
  | none => return none
  | some items =>
    return some (← items.mapM fun item ↦
      match Params.number? item with
      | some number => .ok number
      | none => Params.invalid field s!"number option {item.text} is not a number")

/-- Limits from parameters. Options are looked at before bounds. -/
def ofParams (field : String) (params : Params) : Except SchemaError NumberLimits := do
  Params.rejectUnknown field params paramNames
  let options ← readOptions field params
  let min ← Params.bound field params "min"
  let max ← Params.bound field params "max"
  return { min, max, options }

/-- The number is below the lower bound. -/
def tooSmall (limits : NumberLimits) (n : Number) : Bool :=
  limits.min.any fun min ↦ n.units < min.units

/-- The number is above the upper bound. -/
def tooLarge (limits : NumberLimits) (n : Number) : Bool :=
  limits.max.any fun max ↦ max.units < n.units

/-- The number is one of the options. -/
def isOption (limits : NumberLimits) (n : Number) : Bool :=
  limits.options.any fun options ↦ options.any fun option ↦ option.units == n.units

/-- Some bound is set. -/
def hasBounds (limits : NumberLimits) : Bool := limits.min.isSome || limits.max.isSome

/-- The number passes. -/
def accepts (limits : NumberLimits) (n : Number) : Bool :=
  limits.isOption n ||
    (!limits.tooSmall n && !limits.tooLarge n && (limits.hasBounds || limits.options.isNone))

def written (number : Option Number) : Json := (number.map Json.number).getD .null

def optionsEntry (limits : NumberLimits) : Members :=
  (limits.options.map fun options ↦ ("options", Json.array (options.map .number))).toList

/-- What a finding about a bound says was expected. -/
def expectedBounds (limits : NumberLimits) : Json :=
  .object ([("min", written limits.min), ("max", written limits.max)] ++ limits.optionsEntry)

/-- What a finding about the options says was expected. -/
def expectedOptions (limits : NumberLimits) : Json := .object limits.optionsEntry

/-- The finding about a number, if it does not pass. -/
def check (limits : NumberLimits) (field : String) (n : Number) : Option Message :=
  if limits.accepts n then none
  else if limits.tooSmall n then
    some ((Message.new Message.Kind.numberTooSmall field).withExpected limits.expectedBounds)
  else if limits.tooLarge n then
    some ((Message.new Message.Kind.numberTooLarge field).withExpected limits.expectedBounds)
  else
    some ((Message.new Message.Kind.invalidNumberOption field).withExpected limits.expectedOptions)

end NumberLimits

/-- A finding that a value has the wrong type. -/
def Message.invalidType (field expected : String) : Message :=
  (Message.new Message.Kind.invalidType field).withExpected (.string expected)

/-- The check of a number. -/
def checkNumber (limits : NumberLimits) (field : String) : Json → Option Message
  | .number n => limits.check field n
  | _ => some (.invalidType field "number")

/-- The check of a whole number; a float without fraction is one. -/
def checkInteger (limits : NumberLimits) (field : String) : Json → Option Message
  | .number n => if n.isIntegral then limits.check field n else some (.invalidType field "integer")
  | _ => some (.invalidType field "integer")

end DocumentSchema
