import DocumentSchema.Entries
import DocumentSchema.Json.Number

/-!
# Document values

A value is a tree of objects and lists over scalars. The members of an object stand in the order in
which their keys were first written, and everything that walks a document keeps to that order. A
key occurs once: writing it again replaces the value where the key first stood. The tree type does
not enforce this; `Json.KeysDistinct` says it of every object of a tree, and the reader produces
only such trees.
-/

namespace DocumentSchema

/-- A document value. -/
inductive Json where
  | null
  | bool (value : Bool)
  | number (value : Number)
  | string (value : String)
  | array (items : List Json)
  | object (members : List (String × Json))
  deriving Inhabited

/-- Named values in order: the members of an object, parameters, contexts. -/
abbrev Members := Entries String Json

/-! ## Kinds -/

/-- The shape of a value, as far as structure is concerned. -/
inductive ValueKind where
  | object
  | list
  | scalar
  | null
  deriving DecidableEq, Repr

namespace Json

/-- The shape of a value. -/
def kind : Json → ValueKind
  | null => .null
  | bool _ | number _ | string _ => .scalar
  | array _ => .list
  | object _ => .object

/-- The name of a value's type. -/
def describe : Json → String
  | null => "null"
  | bool _ => "boolean"
  | number _ => "number"
  | string _ => "string"
  | array _ => "list"
  | object _ => "object"

/-- The value is null. -/
def isNull : Json → Bool
  | null => true
  | _ => false

/-- The value is an object. -/
def isObject : Json → Bool
  | object _ => true
  | _ => false

/-- The text of a string. -/
def asString? : Json → Option String
  | string value => some value
  | _ => none

/-- The items of a list. -/
def asArray? : Json → Option (List Json)
  | array items => some items
  | _ => none

/-- The members of an object. -/
def asObject? : Json → Option Members
  | object members => some members
  | _ => none

/-- An integer of a document. -/
def ofNat (n : Nat) : Json := number (.integer n)

@[simp] theorem kind_eq_object_iff (value : Json) : value.kind = .object ↔ value.isObject := by
  cases value <;> simp [kind, isObject]

theorem isNull_iff {value : Json} : value.isNull = true ↔ value = .null := by
  cases value <;> simp [isNull]

theorem isObject_iff {value : Json} :
    value.isObject = true ↔ ∃ members, value = .object members := by
  cases value <;> simp [isObject]

theorem asString?_eq_some_iff {value : Json} {text : String} :
    value.asString? = some text ↔ value = .string text := by
  cases value <;> simp [asString?]

theorem asObject?_eq_some_iff {value : Json} {members : Members} :
    value.asObject? = some members ↔ value = .object members := by
  cases value <;> simp [asObject?]

@[simp] theorem kind_eq_null_iff (value : Json) : value.kind = .null ↔ value.isNull := by
  cases value <;> simp [kind, isNull]

/-! ## Well-formed trees -/

mutual

/-- In every object of the tree each key occurs once. -/
def KeysDistinct : Json → Prop
  | array items => KeysDistinctItems items
  | object members => (Entries.keys members).Nodup ∧ KeysDistinctMembers members
  | _ => True

/-- `KeysDistinct` for each item. -/
def KeysDistinctItems : List Json → Prop
  | [] => True
  | item :: rest => item.KeysDistinct ∧ KeysDistinctItems rest

/-- `KeysDistinct` for each member's value. -/
def KeysDistinctMembers : List (String × Json) → Prop
  | [] => True
  | (_, value) :: rest => value.KeysDistinct ∧ KeysDistinctMembers rest

end

theorem keysDistinctItems_iff (items : List Json) :
    KeysDistinctItems items ↔ ∀ item ∈ items, item.KeysDistinct := by
  induction items with
  | nil => simp [KeysDistinctItems]
  | cons item rest ih => simp [KeysDistinctItems, ih]

theorem keysDistinctMembers_iff (members : Members) :
    KeysDistinctMembers members ↔ ∀ entry ∈ members, entry.2.KeysDistinct := by
  induction members with
  | nil => simp [KeysDistinctMembers]
  | cons entry rest ih => obtain ⟨key, value⟩ := entry; simp [KeysDistinctMembers, ih]

mutual

/-- The number of objects and lists around the innermost value, the value itself included. -/
def depth : Json → Nat
  | array items => depthItems items + 1
  | object members => depthMembers members + 1
  | _ => 0

/-- The greatest depth of an item. -/
def depthItems : List Json → Nat
  | [] => 0
  | item :: rest => max item.depth (depthItems rest)

/-- The greatest depth of a member's value. -/
def depthMembers : List (String × Json) → Nat
  | [] => 0
  | (_, value) :: rest => max value.depth (depthMembers rest)

end

end Json

end DocumentSchema
