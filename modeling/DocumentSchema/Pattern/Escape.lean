import DocumentSchema.Json.Reader
import DocumentSchema.Pattern.Tree
import DocumentSchema.Text.Blank

/-!
# Escapes in patterns

What follows a backslash, inside brackets and outside. In verbose mode blanks and comments may stand
between the parts of an escape, so every step that moves past a character skips them.

A reader takes the characters that are left and answers what it read and what is left after it;
`none` means that the pattern is refused.
-/

namespace DocumentSchema.Pattern

/-! ## Blanks of verbose mode -/

/-- What follows blanks and line comments, from within a comment or not. -/
def skipBlanksFrom (comment : Bool) : List Char → List Char
  | [] => []
  | c :: rest =>
    if comment then skipBlanksFrom (c ≠ '\n') rest
    else if isBlank c then skipBlanksFrom false rest
    else if c = '#' then skipBlanksFrom true rest
    else c :: rest

/-- In verbose mode, what follows blanks and comments; otherwise nothing is skipped. -/
def skipBlanks (verbose : Bool) (text : List Char) : List Char :=
  if verbose then skipBlanksFrom false text else text

/-- Characters of one kind, with blanks allowed between them in verbose mode, and what follows. -/
def readRun (kind : Char → Bool) (verbose : Bool) : Nat → List Char → List Char →
    List Char × List Char
  | fuel + 1, done, c :: rest =>
    if kind c then readRun kind verbose fuel (c :: done) (skipBlanks verbose rest)
    else (done.reverse, c :: rest)
  | _, done, text => (done.reverse, text)

/-! ## Numbers -/

/-- A number of 32 bits in base ten. -/
def boundOf? (digits : List Char) : Option Nat :=
  let value := Number.digitsValue digits
  if digits.isEmpty || Nat.pow 2 32 ≤ value then none else some value

/-- A bound of a repetition: digits with blanks around them. -/
def readBound (verbose : Bool) (text : List Char) : Option Nat × List Char :=
  let text := text.dropWhile isBlank
  let (digits, rest) := readRun Char.isDigit verbose text.length [] text
  let (_, rest) := readRun isBlank verbose rest.length [] rest
  (boundOf? digits, rest)

/-- The character with a code point, if there is one. -/
def charOfCode? (code : Nat) : Option Char :=
  if code.isValidChar then some (Char.ofNat code) else none

/-- The value of digits in base sixteen. -/
def hexDigitsValue? (digits : List Char) : Option Nat :=
  digits.foldlM (fun n c ↦ (hexValue? c).map (16 * n + ·)) 0

/-- A code point in a fixed number of digits. -/
def readFixedHex (verbose : Bool) : Nat → List Char → List Char →
    Option (List Char × List Char)
  | 0, done, text => some (done.reverse, text)
  | count + 1, done, c :: rest =>
    if (hexValue? c).isSome then readFixedHex verbose count (c :: done) (skipBlanks verbose rest)
    else none
  | _ + 1, _, [] => none

/-- Characters up to a closing brace, and what follows the brace. -/
def readBraced (verbose : Bool) : Nat → List Char → List Char →
    Option (List Char × List Char)
  | fuel + 1, done, c :: rest =>
    if c = '\x7d' then some (done.reverse, rest)
    else readBraced verbose fuel (c :: done) (skipBlanks verbose rest)
  | _, _, _ => none

/-- The character with a code point in digits of base sixteen. -/
def hexChar? (digits : List Char) : Option Char :=
  if digits.isEmpty then none else (hexDigitsValue? digits).bind charOfCode?

/-- A code point from its first digit or brace on. -/
def readHexDigits (verbose : Bool) (count : Nat) : List Char → Option (Literal × List Char)
  | '\x7b' :: rest =>
    let inner := skipBlanks verbose rest
    (readBraced verbose inner.length [] inner).bind fun (digits, rest) ↦
      (hexChar? digits).map fun char ↦ (⟨char, false⟩, skipBlanks verbose rest)
  | text =>
    (readFixedHex verbose count [] text).bind fun (digits, rest) ↦
      (hexChar? digits).map fun char ↦ (⟨char, count == 2⟩, rest)

/-- A code point in braces or in a fixed number of digits. -/
def readHex (verbose : Bool) (count : Nat) (text : List Char) : Option (Literal × List Char) :=
  readHexDigits verbose count (skipBlanks verbose text)

/-! ## Properties -/

/-- A text before and after the first place where a separator stands. -/
def cutAt (separator : List Char) : List Char → List Char → Option (List Char × List Char)
  | before, text =>
    if separator.isPrefixOf text then some (before.reverse, text.drop separator.length)
    else match text with
      | [] => none
      | c :: rest => cutAt separator (c :: before) rest

/-- The query that a name in braces makes, and whether it is negated once more. -/
def propertyOfName (name : List Char) : PropertyQuery × Bool :=
  match cutAt ['!', '='] [] name with
  | some (key, value) => (.valued (String.ofList key) (String.ofList value), true)
  | none =>
    match cutAt [':'] [] name <|> cutAt ['='] [] name with
    | some (key, value) => (.valued (String.ofList key) (String.ofList value), false)
    | none => (.named (String.ofList name), false)

/-- A property from its letter or brace on. -/
def readPropertyName (verbose negated : Bool) : List Char →
    Option ((Bool × PropertyQuery) × List Char)
  | [] => none
  | '\x7b' :: rest =>
    let inner := skipBlanks verbose rest
    (readBraced verbose inner.length [] inner).bind fun (name, rest) ↦
      let (query, again) := propertyOfName name
      some ((negated != again, query), rest)
  | c :: rest =>
    if c = '\\' then none
    else some ((negated, .named (String.singleton c)), skipBlanks verbose rest)

/-- A property, named by one letter or in braces. -/
def readProperty (verbose negated : Bool) (text : List Char) :
    Option ((Bool × PropertyQuery) × List Char) :=
  readPropertyName verbose negated (skipBlanks verbose text)

/-! ## Escapes -/

/-- What an escape denotes. -/
inductive Escape where
  | literal (literal : Literal)
  | anchor (anchor : Anchor)
  | property (negated : Bool) (query : PropertyQuery)
  | letter (negated : Bool) (letterClass : LetterClass)

/-- A character with a meaning of its own somewhere in a pattern. -/
def isMeta (c : Char) : Bool := "\\.+*?()|[]\x7b\x7d^$#&-~".toList.contains c

/-- A character that stands for itself after a backslash. -/
def isEscapable (c : Char) : Bool :=
  isMeta c || (c.toNat < 128 && !c.isAlphanum && c != '<' && c != '>')

/-- The character can be in the name of a word boundary. -/
def isBoundaryLetter (c : Char) : Bool := c.isAlpha || c == '-'

/-- The condition that a name in braces makes of a word boundary. -/
def boundaryOf? (name : List Char) : Option Anchor :=
  if name = "start".toList then some .wordStart
  else if name = "end".toList then some .wordEnd
  else if name = "start-half".toList then some .wordStartHalf
  else if name = "end-half".toList then some .wordEndHalf
  else none

/-- The condition that a name makes if a closing brace follows. -/
def closeBoundary : List Char × List Char → Option (Anchor × List Char)
  | (name, '\x7d' :: rest) => (boundaryOf? name).map fun anchor ↦ (anchor, rest)
  | _ => none

/-- A name in braces after the escape of a word boundary, from its first letter on. -/
def readBoundaryName (verbose : Bool) (text : List Char) : Option (Anchor × List Char) :=
  closeBoundary (readRun isBoundaryLetter verbose text.length [] text)

/-- The name in braces after the escape of a word boundary. If what follows the brace begins no
name, the brace belongs to a repetition and is left. -/
def readBoundary (verbose : Bool) (text : List Char) : Option (Anchor × List Char) :=
  match text with
  | '\x7b' :: inner =>
    if (skipBlanks verbose inner).head?.any isBoundaryLetter then
      readBoundaryName verbose (skipBlanks verbose inner)
    else some (.wordBoundary, text)
  | _ => some (.wordBoundary, text)

/-- How an escape is read on, told by the character after the backslash. -/
inductive EscapeForm where
  | single (escape : Escape)
  | hex (count : Nat)
  | property (negated : Bool)
  | boundary

/-- The form of an escape. Numbers of groups are refused. -/
def escapeForm? (c : Char) : Option EscapeForm :=
  let literal (char : Char) : Option EscapeForm := some (.single (.literal ⟨char, false⟩))
  let anchor (anchor : Anchor) : Option EscapeForm := some (.single (.anchor anchor))
  let letter (negated : Bool) (letterClass : LetterClass) : Option EscapeForm :=
    some (.single (.letter negated letterClass))
  if isEscapable c then literal c
  else match c with
    | 'x' => some (.hex 2)
    | 'u' => some (.hex 4)
    | 'U' => some (.hex 8)
    | 'p' => some (.property false)
    | 'P' => some (.property true)
    | 'd' => letter false .digit
    | 'D' => letter true .digit
    | 's' => letter false .space
    | 'S' => letter true .space
    | 'w' => letter false .word
    | 'W' => letter true .word
    | 'a' => literal '\x07'
    | 'f' => literal '\x0c'
    | 't' => literal '\t'
    | 'n' => literal '\n'
    | 'r' => literal '\r'
    | 'v' => literal '\x0b'
    | 'A' => anchor .textStart
    | 'z' => anchor .textEnd
    | 'b' => some .boundary
    | 'B' => anchor .notWordBoundary
    | '<' => anchor .wordStart
    | '>' => anchor .wordEnd
    | _ => none

/-- What is left of an escape after the character that tells its form. -/
def EscapeForm.read (verbose : Bool) (text : List Char) : EscapeForm →
    Option (Escape × List Char)
  | single escape => some (escape, text)
  | hex count => (readHex verbose count text).bind fun (read, rest) ↦ some (.literal read, rest)
  | property negated =>
    (readProperty verbose negated text).bind fun ((negated, query), rest) ↦
      some (.property negated query, rest)
  | boundary => (readBoundary verbose text).bind fun (read, rest) ↦ some (.anchor read, rest)

/-- An escape, from the character after the backslash on. -/
def readEscape (verbose : Bool) : List Char → Option (Escape × List Char)
  | [] => none
  | c :: rest => (escapeForm? c).bind (·.read verbose rest)

end DocumentSchema.Pattern
