import DocumentSchema.Toml.Text
import DocumentSchema.Toml.Value

/-!
# Numbers, dates and times of TOML

What begins with a digit or a sign is tried as a date or a time, then as a float, then as an
integer; the first form that fits decides. Underscores may stand between digits. An integer must fit
64 bits with sign; a float is rounded to nearest, and only an overflow upwards is refused.

A date or time is checked field by field and kept in its canonical text: a `T` between date and
time, a fraction of at most nine digits without trailing zeros, an offset with a sign.
-/

namespace DocumentSchema.Toml

/-! ## Digits -/

/-- The first characters of a run of digits of some base with single underscores between them, and
what follows. -/
private def readRun (isDigit : Char → Bool) : List Char → List Char → List Char × List Char
  | done, '_' :: c :: rest =>
    if isDigit c then readRun isDigit (c :: done) rest else (done.reverse, '_' :: c :: rest)
  | done, c :: rest => if isDigit c then readRun isDigit (c :: done) rest else (done.reverse, c :: rest)
  | done, [] => (done.reverse, [])

/-- A run of digits that starts with a digit. -/
private def readDigits? (isDigit : Char → Bool) : List Char → Option (List Char × List Char)
  | c :: rest => if isDigit c then some (readRun isDigit [c] rest) else none
  | [] => none

private def readSign : List Char → Bool × List Char
  | '-' :: rest => (true, rest)
  | '+' :: rest => (false, rest)
  | text => (false, text)

/-- The digits of a decimal integer without its sign: zero alone, or digits that do not start with
zero. -/
private def readWhole : List Char → Option (List Char × List Char)
  | '0' :: rest => some (['0'], rest)
  | text => readDigits? Char.isDigit text

/-! ## Integers -/

private def inRange (value : Int) : Option Toml :=
  if -9223372036854775808 ≤ value && value ≤ 9223372036854775807 then some (.integer value)
  else none

private def digitsIn (base : Nat) (digits : List Char) : Nat :=
  digits.foldl (fun n c ↦ base * n + (hexValue? c).getD 0) 0

private def readBased (base : Nat) (text : List Char) : Option (Toml × List Char) := do
  let isDigit (c : Char) : Bool := (hexValue? c).any (· < base)
  let (digits, rest) ← readDigits? isDigit text
  return (← inRange (digitsIn base digits), rest)

/-- An integer. -/
private def readInteger : List Char → Option (Toml × List Char)
  | '0' :: 'x' :: rest => readBased 16 rest
  | '0' :: 'o' :: rest => readBased 8 rest
  | '0' :: 'b' :: rest => readBased 2 rest
  | text => do
    let (negative, text) := readSign text
    let (digits, rest) ← readWhole text
    let value : Int := digitsIn 10 digits
    return (← inRange (if negative then -value else value), rest)

/-! ## Floats -/

/-- An exponent with its sign. -/
private def readExponent : List Char → Option (Int × List Char)
  | 'e' :: rest | 'E' :: rest => do
    let (negative, rest) := readSign rest
    let (digits, rest) ← readDigits? Char.isDigit rest
    let value : Int := digitsIn 10 digits
    return (if negative then -value else value, rest)
  | _ => none

/-- The float with these parts; an overflow upwards is refused. -/
private def floatOf (negative : Bool) (whole fraction : List Char) (exponent : Int) :
    Option Toml :=
  let digits := digitsIn 10 (whole ++ fraction)
  match Binary64.ofDecimal? negative digits (exponent - fraction.length) with
  | some value => some (.float (some value))
  | none => if negative then some (.float none) else none

/-- A float: the result is `none` if there is none here, and `some none` if it is refused. -/
private def readFloat (text : List Char) : Option (Option (Toml × List Char)) := do
  let (negative, unsigned) := readSign text
  match unsigned with
  | 'i' :: 'n' :: 'f' :: rest | 'n' :: 'a' :: 'n' :: rest => return some (.float none, rest)
  | _ =>
    let (whole, rest) ← readWhole unsigned
    match rest with
    | '.' :: after =>
      let (fraction, rest) ← readDigits? Char.isDigit after
      match readExponent rest with
      | some (exponent, rest) =>
        return (floatOf negative whole fraction exponent).map (·, rest)
      | none => return (floatOf negative whole fraction 0).map (·, rest)
    | rest =>
      let (exponent, rest) ← readExponent rest
      return (floatOf negative whole [] exponent).map (·, rest)

/-! ## Dates and times -/

/-- A number of exactly so many digits within bounds. -/
private def readField (count low high : Nat) (text : List Char) : Option (Nat × List Char) :=
  let digits := text.take count
  let value := digitsIn 10 digits
  if digits.length = count && digits.all Char.isDigit && low ≤ value && value ≤ high then
    some (value, text.drop count)
  else none

private def readMark (mark : Char) : List Char → Option (List Char)
  | c :: rest => if c = mark then some rest else none
  | [] => none

/-- The number of days of a month. -/
def daysIn (year month : Nat) : Nat :=
  if month = 2 then if year % 4 = 0 && (year % 100 ≠ 0 || year % 400 = 0) then 29 else 28
  else if [4, 6, 9, 11].contains month then 30
  else 31

/-- A number in a fixed number of digits. -/
private def padded (width n : Nat) : String :=
  let digits := Nat.toDigits 10 n
  String.ofList (List.replicate (width - digits.length) '0' ++ digits)

private def readDate (text : List Char) : Option (String × List Char) := do
  let (year, text) ← readField 4 0 9999 text
  let (month, text) ← readField 2 1 12 (← readMark '-' text)
  let (day, text) ← readField 2 1 31 (← readMark '-' text)
  if day ≤ daysIn year month then
    return (padded 4 year ++ "-" ++ padded 2 month ++ "-" ++ padded 2 day, text)
  else none

/-- The fraction of a second: nine digits count, and trailing zeros are dropped. -/
private def readFraction : List Char → String × List Char
  | '.' :: c :: rest =>
    if c.isDigit then
      let digits := ((c :: rest).takeWhile Char.isDigit).take 9
      let kept := (digits.reverse.dropWhile (· = '0')).reverse
      (if kept.isEmpty then "" else "." ++ String.ofList kept, (c :: rest).dropWhile Char.isDigit)
    else ("", '.' :: c :: rest)
  | text => ("", text)

private def readTime (text : List Char) : Option (String × List Char) := do
  let (hour, text) ← readField 2 0 23 text
  let (minute, text) ← readField 2 0 59 (← readMark ':' text)
  let (second, text) ← readField 2 0 60 (← readMark ':' text)
  let (fraction, text) := readFraction text
  return (padded 2 hour ++ ":" ++ padded 2 minute ++ ":" ++ padded 2 second ++ fraction, text)

/-- An offset, if one is here. A negative offset of nothing is written as a positive one. -/
private def readOffset : List Char → Option (String × List Char)
  | 'Z' :: rest | 'z' :: rest => some ("Z", rest)
  | '+' :: rest => offset "+" rest
  | '-' :: rest => offset "-" rest
  | text => some ("", text)
where
  offset (sign : String) (text : List Char) : Option (String × List Char) := do
    let (hour, text) ← readField 2 0 23 text
    let (minute, text) ← readField 2 0 59 (← readMark ':' text)
    let sign := if hour = 0 && minute = 0 then "+" else sign
    return (sign ++ padded 2 hour ++ ":" ++ padded 2 minute, text)

/-- The text looks like a date from its year and hyphen on. -/
private def startsDate (text : List Char) : Bool :=
  ((readField 4 0 9999 text).bind fun (_, rest) ↦ readMark '-' rest).isSome

/-- The text looks like a time from its hour and colon on. -/
private def startsTime (text : List Char) : Bool :=
  ((readField 2 0 23 text).bind fun (_, rest) ↦ readMark ':' rest).isSome

/-- A date, a time, or both: the result is `none` if there is none here, and `some none` if one has
begun and is refused. -/
private def readDatetime (text : List Char) : Option (Option (Toml × List Char)) :=
  if startsDate text then
    some do
      let (date, rest) ← readDate text
      match rest with
      | c :: after =>
        if (c = 'T' || c = 't' || c = ' ') && startsTime after then
          let (time, rest) ← readTime after
          let (offset, rest) ← readOffset rest
          return (.datetime (date ++ "T" ++ time ++ offset), rest)
        else return (.datetime date, rest)
      | [] => return (.datetime date, rest)
  else if startsTime text then some ((readTime text).map fun (time, rest) ↦ (.datetime time, rest))
  else none

/-! ## Scalars -/

/-- A value that begins with a digit or a sign. -/
def readNumeric (text : List Char) : Option (Toml × List Char) :=
  match readDatetime text with
  | some result => result
  | none =>
    match readFloat text with
    | some result => result
    | none => readInteger text

/-- A value that is neither a list nor a table. -/
def readScalar : List Char → Option (Toml × List Char)
  | 't' :: 'r' :: 'u' :: 'e' :: rest => some (.boolean true, rest)
  | 'f' :: 'a' :: 'l' :: 's' :: 'e' :: rest => some (.boolean false, rest)
  | 'i' :: 'n' :: 'f' :: rest | 'n' :: 'a' :: 'n' :: rest => some (.float none, rest)
  | '"' :: rest => (readString ('"' :: rest)).map fun (text, rest) ↦ (.string text, rest)
  | '\'' :: rest => (readString ('\'' :: rest)).map fun (text, rest) ↦ (.string text, rest)
  | c :: rest => if c.isDigit || c = '+' || c = '-' then readNumeric (c :: rest) else none
  | [] => none

end DocumentSchema.Toml
