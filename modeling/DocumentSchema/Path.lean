import DocumentSchema.SchemaError
import DocumentSchema.Text.Pieces

/-!
# Field paths

A field path is a template for places in documents of one shape: keys joined by dots, where a key
may be followed by markers `[]`, each for "every element of the list here". The path `.`, or the
empty path, is the document itself. A concrete path has the same form with indices in the brackets.

| template | places |
|---|---|
| `a.b` | `a.b` |
| `a[]` | `a[0]`, `a[1]`, … |
| `a[].b` | `a[0].b`, `a[1].b`, … |
| `a[][]` | `a[0][0]`, `a[0][1]`, … |

Paths are built downwards from the root by `child` and `element`, taken apart upwards by
`splitLast?`, and read as a whole by `segments`, which alone decides what is a path of the grammar;
the other functions are total on all texts. Everything is computed on lists of characters.
-/

namespace DocumentSchema.Path

/-- The root path. -/
def root : String := "."

/-- The root has two spellings. -/
def isRoot (path : String) : Bool := path == "" || path == root

/-- The empty path is spelled as the root; every other path is left alone. -/
def normalize (path : String) : String := if path == "" then root else path

/-! ## Down -/

/-- The marker for every element of a list. -/
def listMarker : String := "[]"

/-- The path of a member of the object at a path, for templates and for concrete paths. -/
def child (parent key : String) : String := if isRoot parent then key else parent ++ "." ++ key

/-- The template of the elements of the list at a template. -/
def element (template : String) : String := template ++ listMarker

/-- The concrete path of an element of the list at a concrete path. -/
def concreteElement (parent : String) (index : Nat) : String :=
  parent ++ "[" ++ toString index ++ "]"

/-! ## Up -/

/-- What stands before a marker at the end. -/
def stripMarkerChars? (path : List Char) : Option (List Char) :=
  match path.reverse with
  | ']' :: '[' :: rest => some rest.reverse
  | _ => none

/-- What stands before a marker at the end of a path. -/
def stripMarker? (path : String) : Option String :=
  (stripMarkerChars? path.toList).map String.ofList

/-- The path ends with a marker. -/
def isListTemplate (path : String) : Bool := (stripMarker? path).isSome

/-- What stands before and after the last dot. -/
def splitLastDot? (path : String) : Option (String × String) :=
  let reversed := path.toList.reverse
  match reversed.dropWhile (· ≠ '.') with
  | [] => none
  | _ :: before =>
    some (String.ofList before.reverse, String.ofList (reversed.takeWhile (· ≠ '.')).reverse)

/-- The path one level up, and the last step: a key or a marker. The root has none. -/
def splitLast? (path : String) : Option (String × String) :=
  if isRoot path then none
  else match stripMarker? path with
    | some container => some (normalize container, listMarker)
    | none =>
      match splitLastDot? path with
      | some (before, after) => some (before, after)
      | none => some (root, path)

/-- The path one level up. -/
def parent? (path : String) : Option String := (splitLast? path).map (·.1)

/-- A reversed list of characters without the markers it begins with, and their number. -/
def dropMarkers : List Char → List Char × Nat
  | ']' :: '[' :: rest =>
    let (key, count) := dropMarkers rest
    (key, count + 1)
  | key => (key, 0)

/-- A list of characters without the markers at its end, and their number. -/
def stripMarkers (path : List Char) : List Char × Nat :=
  let (key, count) := dropMarkers path.reverse
  (key.reverse, count)

/-- The path without the markers at its end. Faults name fields in this form. -/
def stripListMarkers (path : String) : String :=
  normalize (String.ofList (stripMarkers path.toList).1)

/-! ## Reading -/

/-- A key and the number of markers after it. -/
structure Segment where
  key : String
  listDepth : Nat
  deriving DecidableEq, Repr

/-- A segment from its characters, or what is wrong with them. -/
def segment (raw : List Char) : Except String Segment :=
  let (key, listDepth) := stripMarkers raw
  if key.isEmpty then .error "empty segment"
  else if key.contains '[' || key.contains ']' then
    .error "brackets may only appear as '[]' after a key"
  else .ok ⟨String.ofList key, listDepth⟩

/-- The segments of a path; the root has none. The first segment that is not well formed decides the
fault. -/
def segments (path : String) : Except SchemaError (List Segment) :=
  if isRoot path then .ok []
  else ((pieces '.' path.toList).mapM segment).mapError (.invalidPath path)

/-! ## Small laws -/

@[simp] theorem isRoot_root : isRoot root = true := rfl

@[simp] theorem isRoot_empty : isRoot "" = true := rfl

theorem isRoot_iff (path : String) : isRoot path = true ↔ path = "" ∨ path = root := by
  simp [isRoot]

@[simp] theorem splitLast?_root : splitLast? root = none := rfl

@[simp] theorem child_root (key : String) : child root key = key := rfl

@[simp] theorem segments_root : segments root = .ok [] := rfl

end DocumentSchema.Path
