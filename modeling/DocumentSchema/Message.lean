import DocumentSchema.Json.Value

/-!
# Messages

A message is one finding about a document: its kind, the concrete path it concerns, what was
expected there, and a context that whoever runs the check adds, such as the number of the document.

On the wire a message is one flat object, kind and field first. The three names it uses itself are
reserved: no context key can take them, so a context can never change what a message says. Reading
the wire form back gives the same message, except that an expectation of null is read as none.
-/

namespace DocumentSchema

/-! ## Kinds -/

namespace Message.Kind

def missingField : String := "missing_field"
def extraField : String := "extra_field"
def invalidType : String := "invalid_type"
def nullValue : String := "null_value"
def tooFewElements : String := "too_few_elements"
def tooManyElements : String := "too_many_elements"
def numberTooSmall : String := "number_too_small"
def numberTooLarge : String := "number_too_large"
def invalidNumberOption : String := "invalid_number_option"
def noMatch : String := "no_match"
def stringTooShort : String := "string_too_short"
def stringTooLong : String := "string_too_long"
def invalidStringOption : String := "invalid_string_option"
def malformedJson : String := "malformed_json"

end Message.Kind

/-! ## The type -/

/-- A finding about a document. -/
structure Message where
  kind : String
  field : String
  expected : Option Json := none
  context : Members := []
  deriving Inhabited

namespace Message

/-- A message of a kind about a field. -/
def new (kind field : String) : Message := { kind, field }

/-- The keys that a message uses itself. -/
def reservedKeys : List String := ["type", "field", "expected"]

/-- The key may stand in a context. -/
def isContextKey (key : String) : Bool := !reservedKeys.contains key

/-- The message with an expectation, which replaces an earlier one. -/
def withExpected (message : Message) (expected : Json) : Message :=
  { message with expected := some expected }

/-- The message with a context entry; reserved keys are passed over. -/
def withContext (message : Message) (key : String) (value : Json) : Message :=
  if isContextKey key then { message with context := message.context.insert key value }
  else message

/-- The message with every entry of a context. -/
def extendContext (message : Message) (context : Members) : Message :=
  context.foldl (fun message (key, value) ↦ message.withContext key value) message

/-- A short text for people. -/
def display (message : Message) : String := message.kind ++ ": " ++ message.field

/-! ## The wire form -/

/-- The entries of the wire object. -/
def wire (message : Message) : Members :=
  [("type", .string message.kind), ("field", .string message.field)] ++
    (message.expected.map fun expected ↦ ("expected", expected)).toList ++ message.context

/-- The wire object. -/
def toJson (message : Message) : Json := .object message.wire

/-- The message of a wire object. Kind and field must be strings. -/
def ofWire? (wire : Json) : Option Message := do
  let members ← wire.asObject?
  let kind ← (← members.get? "type").asString?
  let field ← (← members.get? "field").asString?
  let expected := (members.get? "expected").filter fun value ↦ !value.isNull
  return { kind, field, expected, context := members.filter fun (key, _) ↦ isContextKey key }

@[simp] theorem kind_new (kind field : String) : (new kind field).kind = kind := rfl

@[simp] theorem kind_withExpected (message : Message) (expected : Json) :
    (message.withExpected expected).kind = message.kind := rfl

@[simp] theorem kind_withContext (message : Message) (key : String) (value : Json) :
    (message.withContext key value).kind = message.kind := by
  unfold withContext
  split <;> rfl

@[simp] theorem field_withContext (message : Message) (key : String) (value : Json) :
    (message.withContext key value).field = message.field := by
  unfold withContext
  split <;> rfl

@[simp] theorem expected_withContext (message : Message) (key : String) (value : Json) :
    (message.withContext key value).expected = message.expected := by
  unfold withContext
  split <;> rfl

@[simp] theorem extendContext_nil (message : Message) : message.extendContext [] = message := rfl

theorem extendContext_cons (message : Message) (entry : String × Json) (context : Members) :
    message.extendContext (entry :: context)
      = (message.withContext entry.1 entry.2).extendContext context := rfl

@[simp] theorem kind_extendContext (message : Message) (context : Members) :
    (message.extendContext context).kind = message.kind := by
  induction context generalizing message with
  | nil => rfl
  | cons entry rest ih => rw [extendContext_cons, ih, kind_withContext]

@[simp] theorem field_extendContext (message : Message) (context : Members) :
    (message.extendContext context).field = message.field := by
  induction context generalizing message with
  | nil => rfl
  | cons entry rest ih => rw [extendContext_cons, ih, field_withContext]

@[simp] theorem expected_extendContext (message : Message) (context : Members) :
    (message.extendContext context).expected = message.expected := by
  induction context generalizing message with
  | nil => rfl
  | cons entry rest ih => rw [extendContext_cons, ih, expected_withContext]

end Message

end DocumentSchema
