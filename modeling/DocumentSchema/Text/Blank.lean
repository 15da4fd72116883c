/-!
# White space

The characters with the property `White_Space`: the ASCII blanks, the next-line control, and the
spaces and separators beyond ASCII. Names given in declarations are trimmed of them at both ends.
-/

namespace DocumentSchema

/-- The character is white space. -/
def isBlank (c : Char) : Bool :=
  let code := c.toNat
  (9 ≤ code && code ≤ 13) || code == 0x20 || code == 0x85 || code == 0xA0 || code == 0x1680 ||
    (0x2000 ≤ code && code ≤ 0x200A) || code == 0x2028 || code == 0x2029 || code == 0x202F ||
    code == 0x205F || code == 0x3000

/-- A list without its leading white space. -/
def trimStartChars (text : List Char) : List Char := text.dropWhile isBlank

/-- A list without its trailing white space. -/
def trimEndChars (text : List Char) : List Char := (text.reverse.dropWhile isBlank).reverse

/-- A text without white space at its end. -/
def trimEnd (text : String) : String := String.ofList (trimEndChars text.toList)

/-- A text without white space at either end. -/
def trim (text : String) : String := String.ofList (trimEndChars (trimStartChars text.toList))

@[simp] theorem trim_empty : trim "" = "" := rfl

end DocumentSchema
