import DocumentSchema.Check.Basic
import DocumentSchema.Text.Blank
import DocumentSchema.Text.Quoted

/-!
# Types of fields

The type part of a declaration: perhaps a name, whether null is allowed, parameters, and a function
for a custom type. A question mark after a name allows null. A declaration without a name only says
that the field is there; it comes down to a check that accepts everything and is marked implicit.
-/

namespace DocumentSchema

/-- The type part of a declaration. -/
structure FieldType where
  name : Option String := none
  nullable : Bool := false
  params : Params := []
  function : Option CustomCheck := none
  deriving Inhabited

/-- A type with its name understood and its check built. -/
structure ResolvedType where
  type : BaseType
  nullable : Bool
  implicit : Bool
  check : Check

namespace FieldType

/-- No type: the field only has to be there. -/
def untyped : FieldType := {}

/-- The name and the nullability that a written name stands for. -/
def readName (written : String) : String × Bool :=
  let trimmed := trim written
  match trimmed.toList.reverse with
  | '?' :: rest => (String.ofList (trimEndChars rest.reverse), true)
  | _ => (trimmed, false)

/-- A named type. -/
def named (written : String) : FieldType :=
  let (name, nullable) := readName written
  { name := some name, nullable }

/-- A custom type with its function. -/
def custom (function : CustomCheck) : FieldType :=
  { named "custom" with function := some function }

/-- The type with a function for a custom check. -/
def withFunction (type : FieldType) (function : CustomCheck) : FieldType :=
  { type with function := some function }

/-- The type with null allowed. -/
def allowNull (type : FieldType) : FieldType := { type with nullable := true }

/-- The type with a parameter set. -/
def withParam (type : FieldType) (key : String) (value : Json) : FieldType :=
  { type with params := type.params.insert key value }

/-- The type with all given parameters set. -/
def withParams (type : FieldType) (params : Params) : FieldType :=
  { type with params := type.params.update params }

/-- The type understood for a field. -/
def resolve (type : FieldType) (field : String) : Except SchemaError ResolvedType := do
  let (base, implicit) ← match type.name with
    | none => .ok (BaseType.any, true)
    | some name =>
      match BaseType.ofName? name with
      | some base => .ok (base, false)
      | none => .error (.unknownType field name)
  let check ← Check.build base field type.params type.function
  return { type := base, nullable := type.nullable, implicit, check }

/-! ## Small laws -/

@[simp] theorem name_untyped : untyped.name = none := rfl

@[simp] theorem nullable_untyped : untyped.nullable = false := rfl

@[simp] theorem function_untyped : untyped.function = none := rfl

@[simp] theorem name_named (written : String) : (named written).name = some (readName written).1 := by
  rw [named]

@[simp] theorem nullable_named (written : String) :
    (named written).nullable = (readName written).2 := by
  rw [named]

@[simp] theorem function_named (written : String) : (named written).function = none := by
  rw [named]

@[simp] theorem name_withFunction (type : FieldType) (function : CustomCheck) :
    (type.withFunction function).name = type.name := rfl

@[simp] theorem nullable_withFunction (type : FieldType) (function : CustomCheck) :
    (type.withFunction function).nullable = type.nullable := rfl

@[simp] theorem function_withFunction (type : FieldType) (function : CustomCheck) :
    (type.withFunction function).function = some function := rfl

@[simp] theorem name_withParams (type : FieldType) (params : Params) :
    (type.withParams params).name = type.name := rfl

@[simp] theorem nullable_withParams (type : FieldType) (params : Params) :
    (type.withParams params).nullable = type.nullable := rfl

@[simp] theorem function_withParams (type : FieldType) (params : Params) :
    (type.withParams params).function = type.function := rfl

/-! ## Description -/

mutual

/-- A value inside a description. -/
private def describeValue : Json → String
  | .null => "Null"
  | .bool true => "Bool(true)"
  | .bool false => "Bool(false)"
  | .number value => "Number(" ++ value.text ++ ")"
  | .string value => "String(" ++ quoted value ++ ")"
  | .array [] => "Array []"
  | .array (item :: rest) => "Array [" ++ describeValue item ++ describeItems rest ++ "]"
  | .object [] => "Object \x7b\x7d"
  | .object ((key, value) :: rest) =>
    "Object \x7b" ++ quoted key ++ ": " ++ describeValue value ++ describeMembers rest ++ "\x7d"

/-- The items after the first. -/
private def describeItems : List Json → String
  | [] => ""
  | item :: rest => ", " ++ describeValue item ++ describeItems rest

/-- The members after the first. -/
private def describeMembers : List (String × Json) → String
  | [] => ""
  | (key, value) :: rest =>
    ", " ++ quoted key ++ ": " ++ describeValue value ++ describeMembers rest

end

private def describeParams : Params → String
  | [] => "\x7b\x7d"
  | (key, value) :: rest =>
    "\x7b" ++ quoted key ++ ": " ++ describeValue value ++ describeMembers rest ++ "\x7d"

/-- A description of the type for people. -/
def describe (type : FieldType) : String :=
  let name := match type.name with
    | none => "None"
    | some name => "Some(" ++ quoted name ++ ")"
  let function := if type.function.isSome then "Some(\"<fn>\")" else "None"
  "TypeSpec \x7b name: " ++ name ++ ", nullable: " ++ (if type.nullable then "true" else "false") ++
    ", params: " ++ describeParams type.params ++ ", function: " ++ function ++ " \x7d"

end FieldType

end DocumentSchema
