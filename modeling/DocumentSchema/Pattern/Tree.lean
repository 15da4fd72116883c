/-!
# Pattern trees

The tree of a pattern as it is written: escapes are decoded, but flags, named properties and set
operations stand as they were found. What a node means depends on the flags in force at its place,
so meaning is given in a second step, when the tree is turned into an expression.
-/

namespace DocumentSchema.Pattern

/-- A flag that a pattern can switch on or off. -/
inductive Flag where
  | ignoreCase
  | multiLine
  | dotAll
  | carriageReturns
  | swapGreed
  | unicode
  | verbose
  deriving DecidableEq, Repr

/-- Flags switched on (`true`) or off, in the order written; each is named once. -/
abbrev FlagChanges := List (Flag × Bool)

/-- A condition on a place in a text, as written. -/
inductive Anchor where
  | lineStart
  | lineEnd
  | textStart
  | textEnd
  | wordBoundary
  | notWordBoundary
  | wordStart
  | wordEnd
  | wordStartHalf
  | wordEndHalf
  deriving DecidableEq, Repr

/-- A class with a letter of its own. -/
inductive LetterClass where
  | digit
  | space
  | word
  deriving DecidableEq, Repr

/-- A character property, by its own name or as a value of a named property. -/
inductive PropertyQuery where
  | named (name : String)
  | valued (name value : String)
  deriving DecidableEq, Repr

/-- A literal character; `octet` when it was written as two digits in base sixteen. -/
structure Literal where
  char : Char
  octet : Bool
  deriving DecidableEq, Repr

/-- An operation on sets. -/
inductive SetOperation where
  | intersection
  | difference
  | symmetricDifference
  deriving DecidableEq, Repr

/-- The inside of brackets. -/
inductive SetTree where
  | literal (literal : Literal)
  | range (first last : Literal)
  | named (negated : Bool) (name : String)
  | property (negated : Bool) (query : PropertyQuery)
  | letter (negated : Bool) (letterClass : LetterClass)
  | bracketed (negated : Bool) (inner : SetTree)
  | union (items : List SetTree)
  | operation (operation : SetOperation) (left right : SetTree)

/-- A pattern. -/
inductive Tree where
  | empty
  | flags (changes : FlagChanges)
  | literal (literal : Literal)
  | dot
  | anchor (anchor : Anchor)
  | property (negated : Bool) (query : PropertyQuery)
  | letter (negated : Bool) (letterClass : LetterClass)
  | bracketed (negated : Bool) (inner : SetTree)
  | repeated (body : Tree) (least : Nat) (most : Option Nat)
  | group (changes : FlagChanges) (body : Tree)
  | sequence (items : List Tree)
  | alternatives (items : List Tree)

/-- A sequence of items; one item is itself. -/
def Tree.ofItems : List Tree → Tree
  | [] => .empty
  | [item] => item
  | items => .sequence items

/-- A union of items; one item is itself. -/
def SetTree.ofItems : List SetTree → SetTree
  | [item] => item
  | items => .union items

/-! ## Depth -/

mutual

/-- The levels of nesting inside brackets. -/
def SetTree.depth : SetTree → Nat
  | .bracketed _ inner => inner.depth + 1
  | .union items => if items.isEmpty then 0 else SetTree.depthItems items + 1
  | .operation _ left right => max left.depth right.depth + 1
  | _ => 0

/-- The greatest depth of an item. -/
def SetTree.depthItems : List SetTree → Nat
  | [] => 0
  | item :: rest => max item.depth (SetTree.depthItems rest)

end

mutual

/-- The levels of nesting of a pattern. -/
def Tree.depth : Tree → Nat
  | .bracketed _ inner => inner.depth + 1
  | .repeated body _ _ => body.depth + 1
  | .group _ body => body.depth + 1
  | .sequence items => Tree.depthItems items + 1
  | .alternatives items => Tree.depthItems items + 1
  | _ => 0

/-- The greatest depth of an item. -/
def Tree.depthItems : List Tree → Nat
  | [] => 0
  | item :: rest => max item.depth (Tree.depthItems rest)

end

end DocumentSchema.Pattern
