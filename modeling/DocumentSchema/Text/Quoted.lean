import DocumentSchema.Unicode.Category
import DocumentSchema.Unicode.Property

/-!
# Quoted text for people

A name inside a description is put in double quotes so that every character of it can be seen:
quotes, backslashes and the common controls are escaped by a letter, and whatever would not show by
itself (controls, formats, private and unassigned code points, separators other than the plain
blank, and marks that would join the character before) by its code point in braces.
-/

namespace DocumentSchema

/-- The character shows by itself. -/
def isPrintable (c : Char) : Bool :=
  if c.toNat < 128 then 32 ≤ c.toNat && c.toNat < 127
  else
    Unicode.assigned.contains c && !Unicode.control.contains c && !Unicode.format.contains c &&
      !Unicode.privateUse.contains c && !Unicode.separator.contains c

/-- The digits of a number in base sixteen. -/
def hexDigits (n : Nat) : String := String.ofList (Nat.toDigits 16 n)

/-- One character inside quotes. -/
def quoteChar (c : Char) : String :=
  if c = '"' then "\\\""
  else if c = '\\' then "\\\\"
  else if c = '\n' then "\\n"
  else if c = '\r' then "\\r"
  else if c = '\t' then "\\t"
  else if c.toNat = 0 then "\\0"
  else if isPrintable c && !Unicode.graphemeExtend.contains c then String.singleton c
  else "\\u\x7b" ++ hexDigits c.toNat ++ "\x7d"

/-- A text in quotes. -/
def quoted (text : String) : String :=
  "\"" ++ String.join (text.toList.map quoteChar) ++ "\""

end DocumentSchema
