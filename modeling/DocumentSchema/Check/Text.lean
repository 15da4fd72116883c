import DocumentSchema.Check.Number
import DocumentSchema.Pattern.Match
import DocumentSchema.Unicode.Case

/-!
# Checks on strings

A string may have to match a pattern, to be one of some options, or to have a length in characters
within bounds. It passes as soon as *one* of the configured kinds of limit accepts it; with none
configured every string passes. The finding is named after the first kind that is configured, in
the order just given.

A pattern enters the limits as its text and a predicate, so nothing here depends on how matching
works.
-/

namespace DocumentSchema

/-- A pattern that a string may have to match. -/
structure TextPattern where
  source : String
  accepts : String → Bool

/-- The pattern of a text that a whole string is to match. It is put between the start and the end
of the string as it stands, and the result must be a pattern. -/
def TextPattern.compile? (source : String) : Option TextPattern :=
  (Pattern.compile? ("^(?:" ++ source ++ ")$")).map fun pattern ↦
    { source, accepts := pattern.occursIn }

/-- Options for a string. The texts compared are in lower case unless case matters. -/
structure TextOptions where
  declared : List String
  caseSensitive : Bool

namespace TextOptions

/-- The form of a text that is compared. -/
def comparable (options : TextOptions) (text : String) : String :=
  if options.caseSensitive then text else Unicode.lowerText text

/-- The string is one of the options. -/
def contains (options : TextOptions) (text : String) : Bool :=
  options.declared.any fun option ↦ options.comparable option == options.comparable text

end TextOptions

/-- The limits of a string. -/
structure TextLimits where
  pattern : Option TextPattern := none
  options : Option TextOptions := none
  min : Option Nat := none
  max : Option Nat := none

namespace TextLimits

/-- The parameters that configure limits. -/
def paramNames : List String := ["regex", "options", "case_sensitive", "min", "max"]

def readPattern (field : String) (params : Params) :
    Except SchemaError (Option TextPattern) := do
  match ← Params.string field params "regex" with
  | none => return none
  | some source =>
    match TextPattern.compile? source with
    | some pattern => return some pattern
    | none => Params.invalid field s!"invalid regex '{source}'"

def readOptions (field : String) (params : Params) (caseSensitive : Bool) :
    Except SchemaError (Option TextOptions) := do
  match ← Params.list field params "options" with
  | none => return none
  | some items =>
    let declared ← items.mapM fun item ↦
      match item.asString? with
      | some text => .ok text
      | none => Params.invalid field s!"string option {item.text} is not a string"
    return some { declared, caseSensitive }

/-- Limits from parameters, looked at in the order of the fields. -/
def ofParams (field : String) (params : Params) : Except SchemaError TextLimits := do
  Params.rejectUnknown field params paramNames
  let pattern ← readPattern field params
  let caseSensitive := (← Params.boolean field params "case_sensitive").getD true
  let options ← readOptions field params caseSensitive
  let min ← Params.count field params "min"
  let max ← Params.count field params "max"
  return { pattern, options, min, max }

/-- A bound on the length is set. -/
def hasLength (limits : TextLimits) : Bool := limits.min.isSome || limits.max.isSome

/-- No limit is set. -/
def isUnlimited (limits : TextLimits) : Bool :=
  limits.pattern.isNone && limits.options.isNone && !limits.hasLength

/-- The pattern accepts the string. -/
def isMatch (limits : TextLimits) (text : String) : Bool :=
  limits.pattern.any fun pattern ↦ pattern.accepts text

/-- The string is one of the options. -/
def isOption (limits : TextLimits) (text : String) : Bool :=
  limits.options.any fun options ↦ options.contains text

/-- The string has fewer characters than the lower bound. -/
def tooShort (limits : TextLimits) (text : String) : Bool :=
  limits.min.any fun min ↦ text.length < min

/-- The string has more characters than the upper bound. -/
def tooLong (limits : TextLimits) (text : String) : Bool :=
  limits.max.any fun max ↦ max < text.length

/-- A bound on the length is set and the length is within bounds. -/
def isWithin (limits : TextLimits) (text : String) : Bool :=
  limits.hasLength && !limits.tooShort text && !limits.tooLong text

/-- The string passes. -/
def accepts (limits : TextLimits) (text : String) : Bool :=
  limits.isUnlimited || limits.isMatch text || limits.isOption text || limits.isWithin text

def written (count : Option Nat) : Json := (count.map Json.ofNat).getD .null

/-- What a finding says was expected: the limits that are set, as declared. -/
def expected (limits : TextLimits) : Json :=
  .object <|
    (limits.pattern.map fun pattern ↦ ("regex", Json.string pattern.source)).toList ++
    (limits.options.map fun options ↦
      ("options", Json.array (options.declared.map .string))).toList ++
    (if limits.hasLength then [("min", written limits.min), ("max", written limits.max)] else [])

/-- The kind of finding about a string that does not pass. -/
def findingKind (limits : TextLimits) (text : String) : String :=
  if limits.pattern.isSome then Message.Kind.noMatch
  else if limits.options.isSome then Message.Kind.invalidStringOption
  else if limits.tooShort text then Message.Kind.stringTooShort
  else Message.Kind.stringTooLong

/-- The finding about a string, if it does not pass. -/
def check (limits : TextLimits) (field text : String) : Option Message :=
  if limits.accepts text then none
  else some ((Message.new (limits.findingKind text) field).withExpected limits.expected)

end TextLimits

/-- The check of a string. -/
def checkText (limits : TextLimits) (field : String) : Json → Option Message
  | .string text => limits.check field text
  | _ => some (.invalidType field "string")

end DocumentSchema
