import DocumentSchema.Entries

/-!
# Commands

The program has two commands, one that validates documents and one that checks a schema file. Each
has options, which are written with their long name, or for the schema file with a letter, and take
a value or none; what is no option is an operand. After two hyphens everything is an operand, and a
single hyphen always is one.

An argument that the command does not know, an option given twice, a value that is missing or empty,
and an operand too many or too few all refuse the command line as a whole.
-/

namespace DocumentSchema

/-- What validating needs to know. -/
structure ValidateOptions where
  schema : String
  input : String
  accepted : Option String := none
  rejected : Option String := none
  ignoreExtraFields : Bool := false
  deriving DecidableEq, Repr

/-- What the program is asked to do. -/
inductive Command where
  | validate (options : ValidateOptions)
  | check (schema : String)
  deriving DecidableEq, Repr

/-- Why a command line is not a command: it asks for help, or it cannot be read. -/
inductive Refusal where
  | help
  | usage
  deriving DecidableEq, Repr

/-! ## Arguments -/

/-- An argument by its form. -/
inductive Argument where
  /-- Two hyphens. -/
  | operandsFollow
  /-- An option, and the value written to it in the same argument. -/
  | option (name : String) (value : Option String)
  /-- A letter that no command knows. -/
  | unknown
  | operand (text : String)
  deriving DecidableEq, Repr

namespace Argument

/-- An option after its two hyphens. -/
def ofLong (text : List Char) : Argument :=
  let name := String.ofList (text.takeWhile (· ≠ '='))
  match text.dropWhile (· ≠ '=') with
  | _ :: value => option name (some (String.ofList value))
  | [] => option name none

/-- Options by their letter, after the hyphen. -/
def ofLetters : List Char → Argument
  | 'h' :: _ => option "help" none
  | ['s'] => option "schema" none
  | 's' :: '=' :: value => option "schema" (some (String.ofList value))
  | 's' :: value => option "schema" (some (String.ofList value))
  | _ => unknown

/-- The argument that a text is. -/
def ofText (text : String) : Argument :=
  match text.toList with
  | ['-'] => operand text
  | ['-', '-'] => operandsFollow
  | '-' :: '-' :: rest => ofLong rest
  | '-' :: rest => ofLetters rest
  | _ => operand text

end Argument

/-! ## Reading -/

/-- What a command takes. -/
structure Grammar where
  valued : List String
  flags : List String := []
  operands : Nat := 0

/-- What was given to a command. -/
structure Given where
  values : Entries String String := []
  flags : List String := []
  operands : List String := []

namespace Given

/-- An option with its value. -/
def addValue (given : Given) (name value : String) : Except Refusal Given :=
  if value = "" || given.values.contains name then .error .usage
  else .ok { given with values := given.values.insert name value }

/-- An option without a value. -/
def addFlag (given : Given) (name : String) : Except Refusal Given :=
  if given.flags.contains name then .error .usage
  else .ok { given with flags := name :: given.flags }

/-- An operand. -/
def addOperand (grammar : Grammar) (given : Given) (text : String) : Except Refusal Given :=
  if text = "" || grammar.operands ≤ given.operands.length then .error .usage
  else .ok { given with operands := given.operands ++ [text] }

/-- The arguments of a command, read from the left. The first that does not fit decides. -/
def read (grammar : Grammar) : Given → List String → Except Refusal Given
  | given, [] => .ok given
  | given, text :: rest =>
    match Argument.ofText text with
    | .operandsFollow => rest.foldlM (addOperand grammar) given
    | .operand text => do read grammar (← given.addOperand grammar text) rest
    | .unknown => .error .usage
    | .option name none =>
      if grammar.valued.contains name then
        match rest with
        | [] => .error .usage
        | value :: rest =>
          match Argument.ofText value with
          | .operand value => do read grammar (← given.addValue name value) rest
          | _ => .error .usage
      else if name = "help" then .error .help
      else if grammar.flags.contains name then do read grammar (← given.addFlag name) rest
      else .error .usage
    | .option name (some value) =>
      if grammar.valued.contains name then do read grammar (← given.addValue name value) rest
      else .error .usage

/-- The value of an option that must be there. -/
def required (given : Given) (name : String) : Except Refusal String :=
  match given.values.get? name with
  | some value => .ok value
  | none => .error .usage

end Given

/-! ## Commands -/

namespace Command

/-- What validating takes. -/
def validateGrammar : Grammar where
  valued := ["schema", "accepted", "rejected"]
  flags := ["ignore-extra-fields"]
  operands := 1

/-- What checking takes. -/
def checkGrammar : Grammar where
  valued := ["schema"]

/-- The names of commands, which are also what help can be asked about. -/
def names : List String := ["validate", "check", "help"]

/-- The command of a command line. -/
def ofArguments : List String → Except Refusal Command
  | "validate" :: arguments => do
    let given ← Given.read validateGrammar {} arguments
    let schema ← given.required "schema"
    match given.operands with
    | [input] =>
      return validate {
        schema, input
        accepted := given.values.get? "accepted"
        rejected := given.values.get? "rejected"
        ignoreExtraFields := given.flags.contains "ignore-extra-fields" }
    | _ => .error .usage
  | "check" :: arguments => do
    let given ← Given.read checkGrammar {} arguments
    return check (← given.required "schema")
  | ["help"] => .error .help
  | ["help", name] => .error (if names.contains name then .help else .usage)
  | text :: _ =>
    .error (if Argument.ofText text = .option "help" none then .help else .usage)
  | [] => .error .usage

end Command

end DocumentSchema
