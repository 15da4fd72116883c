import DocumentSchema.Unicode.Category
import DocumentSchema.Unicode.Property
import DocumentSchema.Unicode.Script

/-!
# Looking up properties by name

Names of properties and of their values are compared loosely: without case, blanks, hyphens and
underscores, without characters beyond ASCII, and without the word `is` in front. One abbreviation
would be lost by the last rule and is kept.

A bare name is a binary property, else a general category, else a script. Three abbreviations name
both a property and a category, and mean the category.
-/

namespace DocumentSchema.Unicode

/-- The form in which names are compared. -/
def foldName (name : String) : String :=
  let kept (text : List Char) : List Char :=
    (text.filter fun c ↦ c.toNat < 128 && c != ' ' && c != '_' && c != '-').map Char.toLower
  match name.toList with
  | a :: b :: rest =>
    if a.toLower = 'i' && b.toLower = 's' then
      match kept rest with
      | ['c'] => "isc"
      | rest => String.ofList rest
    else String.ofList (kept (a :: b :: rest))
  | short => String.ofList (kept short)

private def lookupNames (table : List (List String × CharSet)) (name : String) : Option CharSet :=
  (table.find? (·.1.contains name)).map (·.2)

/-- A general category by its folded name. -/
def category? (name : String) : Option CharSet :=
  if name = "any" then some .all
  else if name = "assigned" then some assigned
  else if name = "ascii" then some ⟨[⟨0, 127⟩]⟩
  else lookupNames categories name

/-- A script by its folded name. -/
def script? (name : String) : Option Script := scripts.find? (·.names.contains name)

/-- The characters that a bare name denotes. -/
def named? (name : String) : Option CharSet :=
  let name := foldName name
  let property :=
    if name = "cf" || name = "sc" || name = "lc" then none else lookupNames binaryProperties name
  property <|> category? name <|> (script? name).map (·.members)

/-- The characters that have a value of a property. -/
def valued? (property value : String) : Option CharSet :=
  let property := foldName property
  let value := foldName value
  if property = "gc" || property = "generalcategory" then category? value
  else if property = "sc" || property = "script" then (script? value).map (·.members)
  else if property = "scx" || property = "scriptextensions" then (script? value).map (·.extension)
  else none

end DocumentSchema.Unicode
