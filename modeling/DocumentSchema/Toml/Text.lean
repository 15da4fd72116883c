import DocumentSchema.Json.Reader

/-!
# Blanks, strings and keys of TOML

Readers take the characters that are left and answer what they read and what is left after it; the
answer is `none` where the text is not well formed.

A basic string has escapes, a literal string has none. Either may be written over several lines
between three quotes; then a line break right after the opening is dropped, line breaks are plain
line feeds however they were written, and up to two quotes may stand before the closing ones.
-/

namespace DocumentSchema.Toml

/-! ## Blanks -/

/-- A blank inside a line. -/
def isInlineBlank (c : Char) : Bool := c == ' ' || c == '\t'

/-- What follows blanks inside a line. -/
def skipInline (text : List Char) : List Char := text.dropWhile isInlineBlank

/-- A character that may stand in a comment: no control but the tab. -/
def isCommentChar (c : Char) : Bool := c == '\t' || (32 ≤ c.toNat && c.toNat ≠ 127)

/-- What follows a line break, if one is here. -/
def lineBreak? : List Char → Option (List Char)
  | '\n' :: rest => some rest
  | '\r' :: '\n' :: rest => some rest
  | _ => none

/-- What follows a comment, if one is here. -/
def skipComment : List Char → List Char
  | '#' :: rest => rest.dropWhile isCommentChar
  | text => text

/-- What follows the end of a line: blanks, perhaps a comment, and a line break or the end. -/
def endOfLine? (text : List Char) : Option (List Char) :=
  match skipComment (skipInline text) with
  | [] => some []
  | rest => lineBreak? rest

/-- What follows blanks, comments and line breaks. -/
def skipLines : Nat → List Char → List Char
  | 0, text => text
  | fuel + 1, text =>
    match skipInline text with
    | '#' :: rest => skipLines fuel (rest.dropWhile isCommentChar)
    | rest =>
      match lineBreak? rest with
      | some rest => skipLines fuel rest
      | none => rest

/-! ## Strings -/

/-- The value of some digits in base sixteen in front. -/
private def hexPrefix? : Nat → Nat → List Char → Option (Nat × List Char)
  | 0, value, text => some (value, text)
  | _ + 1, _, [] => none
  | count + 1, value, c :: rest => do hexPrefix? count (16 * value + (← hexValue? c)) rest

private def readCodePoint (count : Nat) (text : List Char) : Option (Char × List Char) := do
  let (code, rest) ← hexPrefix? count 0 text
  if code.isValidChar then return (Char.ofNat code, rest) else none

/-- An escape, from the character after the backslash on. -/
private def readEscaped : List Char → Option (Char × List Char)
  | 'b' :: rest => some ('\x08', rest)
  | 't' :: rest => some ('\t', rest)
  | 'n' :: rest => some ('\n', rest)
  | 'f' :: rest => some ('\x0c', rest)
  | 'r' :: rest => some ('\r', rest)
  | '"' :: rest => some ('"', rest)
  | '\\' :: rest => some ('\\', rest)
  | 'u' :: rest => readCodePoint 4 rest
  | 'U' :: rest => readCodePoint 8 rest
  | _ => none

/-- A string on one line, from the character after its quote on. -/
private def readLine (quote : Char) (escapes : Bool) : Nat → List Char → List Char →
    Option (String × List Char)
  | 0, _, _ => none
  | _ + 1, _, [] => none
  | fuel + 1, done, c :: rest =>
    if c = quote then some (String.ofList done.reverse, rest)
    else if escapes && c = '\\' then
      match readEscaped rest with
      | some (c, rest) => readLine quote escapes fuel (c :: done) rest
      | none => none
    else if isCommentChar c then readLine quote escapes fuel (c :: done) rest
    else none

/-- What follows blanks and line breaks. -/
private def skipBreaks : Nat → List Char → List Char
  | 0, text => text
  | fuel + 1, text =>
    match lineBreak? (skipInline text) with
    | some rest => skipBreaks fuel rest
    | none => skipInline text

/-- What follows a line break that a backslash hides, with all blanks and line breaks after it. -/
private def hiddenBreak? (text : List Char) : Option (List Char) :=
  (lineBreak? (skipInline text)).map fun rest ↦ skipBreaks (rest.length + 1) rest

/-- A string over several lines, from the character after its opening line break on. -/
private def readLines (quote : Char) (escapes : Bool) : Nat → List Char → List Char →
    Option (String × List Char)
  | 0, _, _ => none
  | _ + 1, _, [] => none
  | fuel + 1, done, c :: rest =>
    if c = quote then
      let run := (c :: rest).takeWhile (· = quote)
      let after := (c :: rest).dropWhile (· = quote)
      if run.length < 3 then readLines quote escapes fuel (run ++ done) after
      else
        let kept := min (run.length - 3) 2
        some (String.ofList (List.replicate kept quote ++ done).reverse,
          List.replicate (run.length - 3 - kept) quote ++ after)
    else if escapes && c = '\\' then
      match hiddenBreak? rest with
      | some rest => readLines quote escapes fuel done rest
      | none =>
        match readEscaped rest with
        | some (c, rest) => readLines quote escapes fuel (c :: done) rest
        | none => none
    else match lineBreak? (c :: rest) with
      | some rest => readLines quote escapes fuel ('\n' :: done) rest
      | none => if isCommentChar c then readLines quote escapes fuel (c :: done) rest else none

/-- A string over several lines, from the character after its quotes on. -/
private def readLinesFrom (quote : Char) (escapes : Bool) (text : List Char) :
    Option (String × List Char) :=
  let text := (lineBreak? text).getD text
  readLines quote escapes text.length [] text

/-- A string that may not go over several lines. -/
def readPlainString : List Char → Option (String × List Char)
  | '"' :: rest => readLine '"' true rest.length [] rest
  | '\'' :: rest => readLine '\'' false rest.length [] rest
  | _ => none

/-- A string. -/
def readString : List Char → Option (String × List Char)
  | '"' :: '"' :: '"' :: rest => readLinesFrom '"' true rest
  | '\'' :: '\'' :: '\'' :: rest => readLinesFrom '\'' false rest
  | text => readPlainString text

/-! ## Keys -/

/-- A character of a key without quotes. -/
def isBareKeyChar (c : Char) : Bool := c.isAlphanum || c == '_' || c == '-'

private def readSimpleKey (text : List Char) : Option (String × List Char) :=
  match text with
  | '"' :: _ | '\'' :: _ => readPlainString text
  | _ =>
    match text.takeWhile isBareKeyChar with
    | [] => none
    | name => some (String.ofList name, text.dropWhile isBareKeyChar)

/-- No structure is nested to this depth or deeper, and no key has so many parts. -/
def nestingLimit : Nat := 80

private def readKeyParts : Nat → List String → List Char → Option (List String × List Char)
  | 0, _, _ => none
  | fuel + 1, done, text => do
    let (part, rest) ← readSimpleKey (skipInline text)
    match skipInline rest with
    | '.' :: rest => readKeyParts fuel (part :: done) rest
    | rest => return ((part :: done).reverse, rest)

/-- A key: parts between dots, with blanks around each. -/
def readKey (text : List Char) : Option (List String × List Char) :=
  readKeyParts (nestingLimit - 1) [] text

end DocumentSchema.Toml
