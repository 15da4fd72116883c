import DocumentSchema.Json.Value

/-!
# Compact text of a value

A value is written on one line without blanks. In strings only the quote, the backslash and the
controls below the blank are escaped, so no written value contains a line feed, and a stream of
written values can be cut at line feeds again.
-/

namespace DocumentSchema

/-- The digit of a number below sixteen in base sixteen. -/
def hexDigit (n : Nat) : Char := Nat.digitChar n

/-- One character inside a string. -/
def escapeChar (c : Char) : List Char :=
  if c = '"' then ['\\', '"']
  else if c = '\\' then ['\\', '\\']
  else if 32 ≤ c.toNat then [c]
  else if c.toNat = 8 then ['\\', 'b']
  else if c.toNat = 9 then ['\\', 't']
  else if c.toNat = 10 then ['\\', 'n']
  else if c.toNat = 12 then ['\\', 'f']
  else if c.toNat = 13 then ['\\', 'r']
  else ['\\', 'u', '0', '0', hexDigit (c.toNat / 16), hexDigit (c.toNat % 16)]

/-- A string in quotes. -/
def stringLiteral (text : String) : String :=
  String.ofList ('"' :: text.toList.flatMap escapeChar ++ ['"'])

namespace Json

mutual

/-- The compact text of a value. -/
def text : Json → String
  | null => "null"
  | bool true => "true"
  | bool false => "false"
  | number value => value.text
  | string value => stringLiteral value
  | array [] => "[]"
  | array (item :: rest) => "[" ++ item.text ++ textItems rest ++ "]"
  | object [] => "\x7b\x7d"
  | object ((key, value) :: rest) =>
    "\x7b" ++ stringLiteral key ++ ":" ++ value.text ++ textMembers rest ++ "\x7d"

/-- The items after the first. -/
def textItems : List Json → String
  | [] => ""
  | item :: rest => "," ++ item.text ++ textItems rest

/-- The members after the first. -/
def textMembers : List (String × Json) → String
  | [] => ""
  | (key, value) :: rest =>
    "," ++ stringLiteral key ++ ":" ++ value.text ++ textMembers rest

end

end Json

/-- No escape contains a line feed. -/
theorem newline_notMem_escapeChar (c : Char) : '\n' ∉ escapeChar c := by
  have hex : ∀ n, n < 16 → hexDigit n ≠ '\n' := by decide
  unfold escapeChar
  split
  · decide
  split
  · decide
  split
  · rename_i h
    simp only [List.mem_singleton]
    rintro rfl
    exact absurd h (by decide)
  split
  · decide
  split
  · decide
  split
  · decide
  split
  · decide
  split
  · decide
  · rename_i h _ _ _ _ _
    have low := hex (c.toNat / 16) (by omega)
    have high := hex (c.toNat % 16) (by omega)
    simp [Ne.symm low, Ne.symm high]

/-- No string literal contains a line feed. -/
theorem newline_notMem_stringLiteral (text : String) : '\n' ∉ (stringLiteral text).toList := by
  simp only [stringLiteral, String.toList_ofList, List.mem_append, List.mem_cons,
    List.mem_flatMap, not_or, not_exists, not_and]
  exact ⟨⟨by decide, fun c _ ↦ newline_notMem_escapeChar c⟩, by decide, by simp⟩

end DocumentSchema
