import DocumentSchema.Check.Basic
import DocumentSchema.Text.Quoted

/-!
# Named custom checks

Functions supplied from outside cannot be written in a schema file, so a file refers to them by
name. A name stands for one function, the one registered last.
-/

namespace DocumentSchema

/-- Custom checks by name. -/
structure CustomChecks where
  functions : Entries String CustomCheck := []

namespace CustomChecks

/-- The checks with a function registered under a name. -/
def register (checks : CustomChecks) (name : String) (function : CustomCheck) : CustomChecks :=
  { functions := checks.functions.insert name function }

/-- The function of a name. -/
def get? (checks : CustomChecks) (name : String) : Option CustomCheck := checks.functions.get? name

/-- The name is registered. -/
def contains (checks : CustomChecks) (name : String) : Bool := (checks.get? name).isSome

/-- The names in the order of their code points. -/
def names (checks : CustomChecks) : List String :=
  checks.functions.keys.mergeSort fun first second ↦ decide (first ≤ second)

/-- A description of the checks for people. -/
def describe (checks : CustomChecks) : String :=
  "CustomValidators \x7b names: [" ++ ", ".intercalate (checks.names.map quoted) ++ "] \x7d"

@[simp] theorem get?_register (checks : CustomChecks) (name other : String)
    (function : CustomCheck) :
    (checks.register name function).get? other
      = if other = name then some function else checks.get? other :=
  Entries.get?_insert checks.functions name other function

end CustomChecks

end DocumentSchema
