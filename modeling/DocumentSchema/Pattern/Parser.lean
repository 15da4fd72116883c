import DocumentSchema.Pattern.Brackets
import DocumentSchema.Unicode.Property
import DocumentSchema.Unicode.Category

/-!
# Reading patterns

A pattern is read in one pass with a stack of the groups that are open. Groups keep the mode of
blanks that was in force before them and restore it when they close. Look-around, references to
groups and possessive groups are not part of the notation; what looks like one is refused, as are a
repetition of nothing, an unknown flag and a name given twice.
-/

namespace DocumentSchema.Pattern

/-- A group that is open: the items and finished alternatives before it, the flags it sets, and the
mode of blanks outside it. -/
structure OpenGroup where
  items : List Tree
  alternatives : List Tree
  changes : FlagChanges
  verbose : Bool

/-- What is being read. Items and alternatives of the current group are kept in reverse. -/
structure State where
  verbose : Bool
  names : List String
  items : List Tree
  alternatives : List Tree
  stack : List OpenGroup

/-- One more item. -/
def State.push (state : State) (item : Tree) : State :=
  { state with items := item :: state.items }

/-- The tree of the current group. -/
def State.finish (state : State) : Tree :=
  let last := Tree.ofItems state.items.reverse
  match state.alternatives with
  | [] => last
  | alternatives => .alternatives (last :: alternatives).reverse

/-! ## Groups -/

/-- The flag of a letter. -/
def readFlag? (c : Char) : Option Flag :=
  if c = 'i' then some .ignoreCase
  else if c = 'm' then some .multiLine
  else if c = 's' then some .dotAll
  else if c = 'R' then some .carriageReturns
  else if c = 'U' then some .swapGreed
  else if c = 'u' then some .unicode
  else if c = 'x' then some .verbose
  else none

/-- Flags, whether a colon ends them or a closing parenthesis, and what follows that. A flag or the
mark that switches off may come once, and the mark not last. -/
def readFlags (done : FlagChanges) (off markLast : Bool) : List Char →
    Option ((FlagChanges × Bool) × List Char)
  | [] => none
  | c :: rest =>
    if c = ':' || c = ')' then if markLast then none else some ((done.reverse, c = ':'), rest)
    else if c = '-' then if off then none else readFlags done true true rest
    else match readFlag? c with
      | none => none
      | some flag =>
        if done.any (·.1 = flag) then none else readFlags ((flag, !off) :: done) off false rest

/-- The character can begin the name of a group. -/
def isNameStart (c : Char) : Bool := c == '_' || Unicode.alphabetic.contains c

/-- The character can be in the name of a group. -/
def isNameChar (c : Char) : Bool :=
  isNameStart c || c == '.' || c == '[' || c == ']' || Unicode.number.contains c

/-- The name of a group. -/
def groupName? : List Char → Option String
  | [] => none
  | first :: others =>
    if isNameStart first && others.all isNameChar then some (String.ofList (first :: others))
    else none

/-- The name if an angle bracket follows it. -/
def closeName (name : Option String) : List Char → Option (String × List Char)
  | [] => none
  | _ :: rest => name.map fun name ↦ (name, rest)

/-- The name of a group, and what follows its angle bracket. -/
def readGroupName (text : List Char) : Option (String × List Char) :=
  closeName (groupName? (text.takeWhile (· ≠ '>'))) (text.dropWhile (· ≠ '>'))

/-- The mode of blanks after a change of flags. -/
def State.verboseAfter (state : State) (changes : FlagChanges) : Bool :=
  (changes.lookup .verbose).getD state.verbose

/-- A group opened. -/
def State.openGroup (state : State) (changes : FlagChanges) : State :=
  { state with
    verbose := state.verboseAfter changes
    items := []
    alternatives := []
    stack := ⟨state.items, state.alternatives, changes, state.verbose⟩ :: state.stack }

/-- A group opened with a name that is not taken. -/
def State.openWithName (state : State) (name : String) : Option State :=
  if state.names.contains name then none
  else some { state.openGroup [] with names := name :: state.names }

/-- A change of flags to the end of the enclosing group, or for a group. -/
def State.changeFlags (state : State) (changes : FlagChanges) (opens : Bool) : Option State :=
  if opens then some (state.openGroup changes)
  else if changes.isEmpty then none
  else some { state.push (.flags changes) with verbose := state.verboseAfter changes }

/-- The name of a group, and the group. -/
def State.openNamed (state : State) (text : List Char) : Option (State × List Char) :=
  (readGroupName text).bind fun (name, rest) ↦
    (state.openWithName name).map fun state ↦ (state, rest)

/-- A name in angle brackets, after the letter that may stand before it. -/
def State.openAngle (state : State) : List Char → Option (State × List Char)
  | '<' :: rest => state.openNamed rest
  | _ => none

/-- What a question mark after an opening parenthesis begins: a name or flags. Look-around begins
with what is neither. -/
def State.openSpecial (state : State) : List Char → Option (State × List Char)
  | 'P' :: rest => state.openAngle rest
  | '<' :: rest => state.openNamed rest
  | text =>
    (readFlags [] false false text).bind fun ((changes, opens), rest) ↦
      (state.changeFlags changes opens).map fun state ↦ (state, rest)

/-- What follows an opening parenthesis, from its first character on. -/
def State.openAfterBlanks (state : State) : List Char → Option (State × List Char)
  | '?' :: rest => state.openSpecial rest
  | text => some (state.openGroup [], text)

/-- What an opening parenthesis begins: a group, or flags for the rest of the enclosing group. -/
def State.openParenthesis (state : State) (text : List Char) : Option (State × List Char) :=
  state.openAfterBlanks (skipBlanks state.verbose text)

/-- The current group closed. -/
def State.closeParenthesis (state : State) : Option State :=
  match state.stack with
  | [] => none
  | opened :: stack =>
    some { state with
      verbose := opened.verbose
      items := .group opened.changes state.finish :: opened.items
      alternatives := opened.alternatives
      stack }

/-! ## Repetition -/

/-- The last item repeated, unless there is none or it is only a change of flags. -/
def State.repeatLast (state : State) (least : Nat) (most : Option Nat) : Option State :=
  match state.items with
  | [] | .flags _ :: _ => none
  | item :: items => some { state with items := .repeated item least most :: items }

/-- The mark that makes a repetition prefer fewer turns; it does not change what is matched. -/
def skipLazyMark : List Char → List Char
  | '?' :: rest => rest
  | text => text

/-- Two bounds if they are in order and a brace follows. -/
def closeBounds (least : Nat) : Option Nat × List Char → Option ((Nat × Option Nat) × List Char)
  | (some most, '\x7d' :: rest) =>
    if least ≤ most then some ((least, some most), rest) else none
  | _ => none

/-- The bounds of a repetition from the character after the comma on. -/
def readUpperBound (verbose : Bool) (least : Nat) : List Char →
    Option ((Nat × Option Nat) × List Char)
  | '\x7d' :: rest => some ((least, none), rest)
  | text => closeBounds least (readBound verbose text)

/-- The bounds of a repetition from the character after the lower bound on. -/
def readBoundsEnd (verbose : Bool) (least : Nat) : List Char →
    Option ((Nat × Option Nat) × List Char)
  | '\x7d' :: rest => some ((least, some least), rest)
  | ',' :: rest => readUpperBound verbose least (skipBlanks verbose rest)
  | _ => none

/-- The bounds of a repetition after its lower bound, if there is one. -/
def readBoundsAfter (verbose : Bool) : Option Nat × List Char →
    Option ((Nat × Option Nat) × List Char)
  | (some least, rest) => readBoundsEnd verbose least rest
  | (none, _) => none

/-- The bounds of a repetition from the first character after the brace on. -/
def readBoundsStart (verbose : Bool) (text : List Char) : Option ((Nat × Option Nat) × List Char) :=
  readBoundsAfter verbose (readBound verbose text)

/-- The bounds of a repetition after the brace. -/
def readBounds (verbose : Bool) (text : List Char) : Option ((Nat × Option Nat) × List Char) :=
  readBoundsStart verbose (skipBlanks verbose text)

/-! ## The pass -/

/-- What a character begins outside brackets. -/
inductive Mark where
  | opening
  | closing
  | bar
  | bracket
  | repetition (least : Nat) (most : Option Nat)
  | bounds
  | escape
  | item (item : Tree)

/-- The mark that a character is. -/
def Mark.ofChar (c : Char) : Mark :=
  match c with
  | '(' => opening
  | ')' => closing
  | '|' => bar
  | '[' => bracket
  | '?' => repetition 0 (some 1)
  | '*' => repetition 0 none
  | '+' => repetition 1 none
  | '\x7b' => bounds
  | '\\' => escape
  | '.' => item .dot
  | '^' => item (.anchor .lineStart)
  | '$' => item (.anchor .lineEnd)
  | c => item (.literal ⟨c, false⟩)

/-- The item that an escape is. -/
def Escape.item : Escape → Tree
  | .literal read => .literal read
  | .anchor read => .anchor read
  | .property negated query => .property negated query
  | .letter negated letterClass => .letter negated letterClass

/-- The next alternative of the current group. -/
def State.nextAlternative (state : State) : State :=
  { state with
    items := []
    alternatives := Tree.ofItems state.items.reverse :: state.alternatives }

/-- One item, repetition, bar or parenthesis, from the character after its first one on. -/
def State.turn (state : State) (mark : Mark) (text : List Char) : Option (State × List Char) :=
  match mark with
  | .opening => state.openParenthesis text
  | .closing => state.closeParenthesis.map fun state ↦ (state, text)
  | .bar => some (state.nextAlternative, text)
  | .bracket => (readBrackets state.verbose text).bind fun (set, rest) ↦ some (state.push set, rest)
  | .repetition least most =>
    (state.repeatLast least most).map fun state ↦ (state, skipLazyMark text)
  | .bounds =>
    (readBounds state.verbose text).bind fun ((least, most), rest) ↦
      (state.repeatLast least most).map fun state ↦
        (state, skipLazyMark (skipBlanks state.verbose rest))
  | .escape =>
    (readEscape state.verbose text).bind fun (escape, rest) ↦ some (state.push escape.item, rest)
  | .item item => some (state.push item, text)

/-- A pattern up to its end, in turns. -/
def readPattern : Nat → State → List Char → Option Tree
  | 0, _, _ => none
  | fuel + 1, state, text =>
    match skipBlanks state.verbose text with
    | [] => if state.stack.isEmpty then some state.finish else none
    | c :: rest =>
      match state.turn (.ofChar c) rest with
      | none => none
      | some (state, rest) => readPattern fuel state rest

/-- The state before the first character of a pattern. -/
def State.start : State := ⟨false, [], [], [], []⟩

/-- No pattern is nested deeper than this. -/
def maxPatternDepth : Nat := 250

/-- The tree of a pattern. -/
def Tree.parse? (pattern : String) : Option Tree := do
  let text := pattern.toList
  let tree ← readPattern (text.length + 1) .start text
  if tree.depth ≤ maxPatternDepth then return tree else none

end DocumentSchema.Pattern
