import DocumentSchema.Pattern.Escape

/-!
# Sets in brackets

A set in brackets is a union of characters, ranges, classes and nested sets; `&&`, `--` and `~~`
combine all that stands before them with all that stands after them, from left to right. Brackets
that are still open form a stack, so sets nest without recursion.
-/

namespace DocumentSchema.Pattern

/-- Brackets that are open: the items before them in the enclosing set, whether they are negated,
and the operation whose right side is being read. -/
structure OpenSet where
  outer : List SetTree
  outerPending : Option (SetOperation × SetTree)
  negated : Bool

/-- What is being read: the items of the current union in reverse, and the operation that waits for
it. -/
structure SetState where
  items : List SetTree
  pending : Option (SetOperation × SetTree)
  negated : Bool
  stack : List OpenSet

/-- The current union joined with the operation that waits for it. -/
def SetState.finish (state : SetState) : SetTree :=
  let union := SetTree.ofItems state.items.reverse
  match state.pending with
  | some (operation, left) => .operation operation left union
  | none => union

/-- One more item. -/
def SetState.push (state : SetState) (item : SetTree) : SetState :=
  { state with items := item :: state.items }

/-- An operation between what was read and what follows. -/
def SetState.operate (state : SetState) (operation : SetOperation) : SetState :=
  { state with items := [], pending := some (operation, state.finish) }

/-- The start of a set: hyphens stand for themselves, and so does a closing bracket if it comes
first. -/
def startSet (verbose negated : Bool) : List Char × List Char → (Bool × List SetTree) × List Char
  | ([], ']' :: rest) => ((negated, [.literal ⟨']', false⟩]), skipBlanks verbose rest)
  | (hyphens, rest) => ((negated, hyphens.map fun c ↦ .literal ⟨c, false⟩), rest)

/-- The opening of a set after a mark of negation. -/
def readStart (verbose negated : Bool) (text : List Char) : (Bool × List SetTree) × List Char :=
  startSet verbose negated (readRun (· == '-') verbose text.length [] text)

/-- The opening of a set from its first character on. -/
def readNegation (verbose : Bool) : List Char → (Bool × List SetTree) × List Char
  | '^' :: rest => readStart verbose true (skipBlanks verbose rest)
  | text => readStart verbose false text

/-- The opening of a set after its bracket. -/
def readOpening (verbose : Bool) (text : List Char) : (Bool × List SetTree) × List Char :=
  readNegation verbose (skipBlanks verbose text)

/-- The names of the classes written between colons. -/
def setNames : List String :=
  ["alnum", "alpha", "ascii", "blank", "cntrl", "digit", "graph", "lower", "print", "punct",
    "space", "upper", "word", "xdigit"]

/-- The class with a name. -/
def namedClass? (negated : Bool) (name : List Char) : Option SetTree :=
  if setNames.contains (String.ofList name) then some (.named negated (String.ofList name))
  else none

/-- The class if a colon and a bracket follow its name. -/
def closeClass (named : Option SetTree) : List Char → Option (SetTree × List Char)
  | ':' :: ']' :: rest => named.map fun named ↦ (named, rest)
  | _ => none

/-- The class whose name is in front. -/
def readClassName (negated : Bool) (text : List Char) : Option (SetTree × List Char) :=
  closeClass (namedClass? negated (text.takeWhile (· ≠ ':'))) (text.dropWhile (· ≠ ':'))

/-- A class written between colons, from the character after its first colon on. -/
def readNegatedClass : List Char → Option (SetTree × List Char)
  | '^' :: rest => readClassName true rest
  | text => readClassName false text

/-- A class written between colons, from the character after its bracket on; `none` if there is no
such class here. -/
def readNamedClass : List Char → Option (SetTree × List Char)
  | ':' :: rest => readNegatedClass rest
  | _ => none

/-- The item of a set that an escape is; conditions on a place are refused. -/
def Escape.setItem? : Escape → Option SetTree
  | literal read => some (.literal read)
  | property negated query => some (.property negated query)
  | letter negated letterClass => some (.letter negated letterClass)
  | anchor _ => none

/-- A character or an escape inside brackets. -/
def readSetItem (verbose : Bool) : List Char → Option (SetTree × List Char)
  | [] => none
  | '\\' :: rest =>
    (readEscape verbose rest).bind fun (escape, rest) ↦ escape.setItem?.map fun item ↦ (item, rest)
  | c :: rest => some (.literal ⟨c, false⟩, rest)

/-- What follows a comment mark and blanks, if there is a mark. -/
def skipCommentMark : List Char → List Char
  | '#' :: comment => comment.dropWhile isBlank
  | text => text

/-- What comes next, blanks and a comment mark skipped in verbose mode. -/
def peek (verbose : Bool) (text : List Char) : List Char :=
  if !verbose then text else skipCommentMark (text.dropWhile isBlank)

/-- A hyphen with these characters after it stands for itself: it is the last item or part of an
operation. -/
def isPlainHyphen (verbose : Bool) (after : List Char) : Bool :=
  (peek verbose after).head?.any fun c ↦ c == ']' || c == '-'

/-- The range between two items, if they are characters in order. -/
def SetTree.rangeTo? : SetTree → SetTree → Option SetTree
  | .literal first, .literal last =>
    if first.char ≤ last.char then some (.range first last) else none
  | _, _ => none

/-- What follows an item: it is a range if a hyphen follows that does not stand for itself. -/
def readRangeEnd (verbose : Bool) (first : SetTree) : List Char → Option (SetTree × List Char)
  | '-' :: after =>
    if isPlainHyphen verbose after then some (first, '-' :: after)
    else
      (readSetItem verbose (skipBlanks verbose after)).bind fun (last, rest) ↦
        (first.rangeTo? last).map fun range ↦ (range, rest)
  | text => some (first, text)

/-- An item or a range. -/
def readSetRange (verbose : Bool) (text : List Char) : Option (SetTree × List Char) :=
  (readSetItem verbose text).bind fun (first, rest) ↦
    readRangeEnd verbose first (skipBlanks verbose rest)

/-- The operation that a character twice stands for. -/
def operationOf? (c : Char) : Option SetOperation :=
  if c = '&' then some .intersection
  else if c = '-' then some .difference
  else if c = '~' then some .symmetricDifference
  else none

/-- An operation in front. -/
def readOperation? : List Char → Option (SetOperation × List Char)
  | c :: d :: rest => if c = d then (operationOf? c).map fun operation ↦ (operation, rest) else none
  | _ => none

/-- A set opened within the current one. -/
def SetState.openInner (state : SetState) (negated : Bool) (items : List SetTree) : SetState :=
  ⟨items, none, negated, ⟨state.items, state.pending, state.negated⟩ :: state.stack⟩

/-- The current set closed: it is an item of the set around it, or the end of what is read. -/
def SetState.close (state : SetState) : SetState ⊕ Tree :=
  match state.stack with
  | [] => .inr (.bracketed state.negated state.finish)
  | opened :: stack =>
    .inl ⟨.bracketed state.negated state.finish :: opened.outer, opened.outerPending,
      opened.negated, stack⟩

/-- A class between colons, or a set opened within the current one, after its bracket. -/
def SetState.bracketTurn (verbose : Bool) (state : SetState) (text : List Char) :
    SetState × List Char :=
  match readNamedClass text with
  | some (named, rest) => (state.push named, rest)
  | none =>
    let ((negated, items), rest) := readOpening verbose text
    (state.openInner negated items, rest)

/-- An operation or an item, from its first character on. -/
def SetState.itemTurn (verbose : Bool) (state : SetState) (text : List Char) :
    Option ((SetState ⊕ Tree) × List Char) :=
  match readOperation? text with
  | some (operation, rest) => some (.inl (state.operate operation), rest)
  | none => (readSetRange verbose text).bind fun (item, rest) ↦ some (.inl (state.push item), rest)

/-- One turn, from its first character on: a bracket, an operation or an item. -/
def SetState.turn (verbose : Bool) (state : SetState) (text : List Char) :
    Option ((SetState ⊕ Tree) × List Char) :=
  match text with
  | '[' :: rest =>
    let (state, rest) := state.bracketTurn verbose rest
    some (.inl state, rest)
  | ']' :: rest => some (state.close, rest)
  | text => state.itemTurn verbose text

/-- A set up to its end, in turns. -/
def readSet (verbose : Bool) : Nat → SetState → List Char → Option (Tree × List Char)
  | 0, _, _ => none
  | fuel + 1, state, text =>
    (state.turn verbose (skipBlanks verbose text)).bind fun
      | (.inr set, rest) => some (set, rest)
      | (.inl state, rest) => readSet verbose fuel state rest

/-- A set, from the character after its bracket on. -/
def readBrackets (verbose : Bool) (text : List Char) : Option (Tree × List Char) :=
  let ((negated, items), rest) := readOpening verbose text
  readSet verbose (rest.length + 1) ⟨items, none, negated, []⟩ rest

end DocumentSchema.Pattern
