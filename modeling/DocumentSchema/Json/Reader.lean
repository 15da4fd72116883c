import DocumentSchema.Json.Value

/-!
# Reading values

Reading has two stages. The first cuts the characters into tokens; a string or a number is one
token, already decoded, and characters that begin no token end the reading. The second runs over
the tokens with a stack of the lists and objects that are still open. Both stages are structural:
the first on its characters, the second on its tokens, and the depth of nesting is the height of
the stack, which is bounded.

The grammar is strict: no surplus comma, no leading zero, no lone surrogate, no control character
inside a string, nothing but blanks after the value.
-/

namespace DocumentSchema

/-! ## Tokens -/

/-- A token of a document's text. -/
inductive JsonToken where
  | openList
  | closeList
  | openObject
  | closeObject
  | colon
  | comma
  | scalar (value : Json)

/-- The blanks between tokens. -/
def isJsonBlank (c : Char) : Bool := c == ' ' || c == '\n' || c == '\t' || c == '\r'

/-- The value of a digit in base sixteen. -/
def hexValue? (c : Char) : Option Nat :=
  if '0' ≤ c && c ≤ '9' then some (c.toNat - '0'.toNat)
  else if 'a' ≤ c && c ≤ 'f' then some (c.toNat - 'a'.toNat + 10)
  else if 'A' ≤ c && c ≤ 'F' then some (c.toNat - 'A'.toNat + 10)
  else none

namespace JsonToken

/-- The value of four digits in base sixteen. -/
def hexUnit? (a b c d : Char) : Option Nat := do
  return (((← hexValue? a) * 16 + (← hexValue? b)) * 16 + (← hexValue? c)) * 16 + (← hexValue? d)

/-- The character that a letter after a backslash stands for. -/
def escapeLetter? (c : Char) : Option Char :=
  if c = '"' || c = '\\' || c = '/' then some c
  else if c = 'b' then some '\x08'
  else if c = 'f' then some '\x0c'
  else if c = 'n' then some '\n'
  else if c = 'r' then some '\r'
  else if c = 't' then some '\t'
  else none

/-- The characters of a string up to its closing quote, and what follows. The characters read so
far come in reverse, with the leading unit of a surrogate pair that still needs its second. -/
def readString : List Char → Option Nat → List Char → Option (String × List Char)
  | done, none, '"' :: rest => some (String.ofList done.reverse, rest)
  | done, pending, '\\' :: 'u' :: a :: b :: c :: d :: rest =>
    match hexUnit? a b c d, pending with
    | none, _ => none
    | some unit, none =>
      if 0xD800 ≤ unit && unit < 0xDC00 then readString done (some unit) rest
      else if 0xDC00 ≤ unit && unit < 0xE000 then none
      else readString (Char.ofNat unit :: done) none rest
    | some unit, some leading =>
      if 0xDC00 ≤ unit && unit < 0xE000 then
        let code := 0x10000 + (leading - 0xD800) * 0x400 + (unit - 0xDC00)
        readString (Char.ofNat code :: done) none rest
      else none
  | done, none, '\\' :: c :: rest =>
    match escapeLetter? c with
    | some escaped => readString (escaped :: done) none rest
    | none => none
  | done, none, c :: rest =>
    if c.toNat < 32 || c = '\\' then none else readString (c :: done) none rest
  | _, _, _ => none

/-- The leading digits of a text and what follows. -/
def spanDigits (text : List Char) : List Char × List Char :=
  (text.takeWhile Char.isDigit, text.dropWhile Char.isDigit)

/-- The sign of a number, true if there is a minus, and what follows. -/
def readSign : List Char → Bool × List Char
  | '-' :: rest => (true, rest)
  | text => (false, text)

/-- The fraction of a number, if one follows. -/
def readFraction (text : List Char) : Option (Option (List Char) × List Char) :=
  match text with
  | '.' :: rest =>
    match spanDigits rest with
    | ([], _) => none
    | (digits, rest) => some (some digits, rest)
  | rest => some (none, rest)

/-- The sign of an exponent. -/
def readExponentSign : List Char → Bool × List Char
  | '-' :: rest => (true, rest)
  | '+' :: rest => (false, rest)
  | text => (false, text)

/-- The exponent of a number, if one follows. -/
def readExponent (text : List Char) : Option (Option (Bool × List Char) × List Char) :=
  match text with
  | 'e' :: rest | 'E' :: rest =>
    let (negative, rest) := readExponentSign rest
    match spanDigits rest with
    | ([], _) => none
    | (digits, rest) => some (some (negative, digits), rest)
  | rest => some (none, rest)

/-- A number at the front of a text and what follows. -/
def readNumber (text : List Char) : Option (Number × List Char) := do
  let (negative, text) := readSign text
  let (whole, text) := spanDigits text
  match whole with
  | [] => none
  | '0' :: _ :: _ => none
  | _ =>
    let (fraction, text) ← readFraction text
    let (exponent, rest) ← readExponent text
    return (← Number.ofLiteral? ⟨negative, whole, fraction, exponent⟩, rest)

/-- The token at the front of a text that is not blank there, and what follows. -/
def readToken : List Char → Option (JsonToken × List Char)
  | '[' :: rest => some (.openList, rest)
  | ']' :: rest => some (.closeList, rest)
  | '\x7b' :: rest => some (.openObject, rest)
  | '\x7d' :: rest => some (.closeObject, rest)
  | ':' :: rest => some (.colon, rest)
  | ',' :: rest => some (.comma, rest)
  | '"' :: rest => (readString [] none rest).map fun (text, rest) ↦ (.scalar (.string text), rest)
  | 'n' :: 'u' :: 'l' :: 'l' :: rest => some (.scalar .null, rest)
  | 't' :: 'r' :: 'u' :: 'e' :: rest => some (.scalar (.bool true), rest)
  | 'f' :: 'a' :: 'l' :: 's' :: 'e' :: rest => some (.scalar (.bool false), rest)
  | text => (readNumber text).map fun (number, rest) ↦ (.scalar (.number number), rest)

/-- The tokens of a text; those read so far come in reverse. Every step takes at least one
character, so the number of characters is fuel enough. -/
def readTokens : Nat → List JsonToken → List Char → Option (List JsonToken)
  | _, done, [] => some done.reverse
  | 0, _, _ :: _ => none
  | fuel + 1, done, c :: rest =>
    if isJsonBlank c then readTokens fuel done rest
    else match readToken (c :: rest) with
      | some (token, rest) => readTokens fuel (token :: done) rest
      | none => none

end JsonToken

/-- The tokens of a text. -/
def jsonTokens? (text : List Char) : Option (List JsonToken) :=
  JsonToken.readTokens text.length [] text

/-! ## Values -/

namespace Json

/-- A list or an object that is still open. Items are kept in reverse; an object remembers the key
whose value is being read. -/
inductive OpenValue where
  | list (items : List Json)
  | object (members : Members) (key : String)

/-- What may come next. -/
inductive Expecting where
  | value
  | itemOrEnd
  | keyOrEnd (members : Members)
  | key (members : Members)
  | colon (members : Members) (key : String)
  | separator
  | nothing (result : Json)

/-- No more than this many lists and objects lie around a value. -/
def maxDepth : Nat := 127

/-- The state after a whole value. -/
def finishValue (value : Json) : List OpenValue → List OpenValue × Expecting
  | [] => ([], .nothing value)
  | .list items :: outer => (.list (value :: items) :: outer, .separator)
  | .object members key :: outer => (.object (members.insert key value) key :: outer, .separator)

/-- The state after the opening of a list or an object. -/
def openWith (outer : List OpenValue) (expecting : Expecting)
    (opened : List OpenValue) : Option (List OpenValue × Expecting) :=
  if outer.length < maxDepth then some (opened, expecting) else none

/-- One token. While an object waits for a key it is not on the stack, and the state holds its
members. -/
def readStep (stack : List OpenValue) (expecting : Expecting) (token : JsonToken) :
    Option (List OpenValue × Expecting) :=
  match expecting, token with
  | .value, .scalar value | .itemOrEnd, .scalar value => some (finishValue value stack)
  | .value, .openList | .itemOrEnd, .openList => openWith stack .itemOrEnd (.list [] :: stack)
  | .value, .openObject | .itemOrEnd, .openObject => openWith stack (.keyOrEnd []) stack
  | .itemOrEnd, .closeList =>
    match stack with
    | .list items :: outer => some (finishValue (.array items.reverse) outer)
    | _ => none
  | .keyOrEnd members, .closeObject => some (finishValue (.object members) stack)
  | .keyOrEnd members, .scalar (.string key) | .key members, .scalar (.string key) =>
    some (stack, .colon members key)
  | .colon members key, .colon => some (.object members key :: stack, .value)
  | .separator, .comma =>
    match stack with
    | .list _ :: _ => some (stack, .value)
    | .object members _ :: outer => some (outer, .key members)
    | [] => none
  | .separator, .closeList =>
    match stack with
    | .list items :: outer => some (finishValue (.array items.reverse) outer)
    | _ => none
  | .separator, .closeObject =>
    match stack with
    | .object members _ :: outer => some (finishValue (.object members) outer)
    | _ => none
  | _, _ => none

def readValue : List OpenValue → Expecting → List JsonToken → Option Json
  | [], .nothing result, [] => some result
  | _, _, [] => none
  | stack, expecting, token :: rest =>
    match readStep stack expecting token with
    | some (stack, expecting) => readValue stack expecting rest
    | none => none

/-- The value that a sequence of tokens spells. -/
def ofTokens? (tokens : List JsonToken) : Option Json := readValue [] .value tokens

/-- The value that a text spells. -/
def parse? (text : String) : Option Json := do
  ofTokens? (← jsonTokens? text.toList)

end Json

end DocumentSchema
