import DocumentSchema.Pattern.Tree
import DocumentSchema.Unicode.Case
import DocumentSchema.Unicode.Lookup

/-!
# The meaning of pattern trees

An expression is a pattern freed of its notation: sets of characters, conditions on a place,
sequence, choice and repetition. A tree becomes an expression under the flags in force; a change of
flags holds to the end of its group.

Not every tree has a meaning. A property must exist, and without the Unicode flag a set and an octet
must keep to ASCII, since a pattern must not match half a character. A pattern that would need too
much room once its repetitions are written out is refused as well; how much room that is depends on
how patterns are compiled, and is only approximated here (`Pattern.room`).
-/

namespace DocumentSchema

/-- A condition on a place in a text. Word conditions come in a Unicode and an ASCII reading. -/
inductive Pattern.Place where
  | textStart
  | textEnd
  | lineStart
  | lineEnd
  | lineStartEither
  | lineEndEither
  | wordBoundary (unicode : Bool)
  | notWordBoundary (unicode : Bool)
  | wordStart (unicode : Bool)
  | wordEnd (unicode : Bool)
  | wordStartHalf (unicode : Bool)
  | wordEndHalf (unicode : Bool)
  deriving DecidableEq, Repr

/-- What a pattern matches. -/
inductive Pattern where
  | empty
  | chars (set : CharSet)
  | place (place : Pattern.Place)
  | sequence (first second : Pattern)
  | choice (first second : Pattern)
  | repeated (body : Pattern) (least : Nat) (most : Option Nat)
  deriving DecidableEq

namespace Pattern

/-! ## Flags -/

/-- The flags in force that bear on what is matched. -/
structure Flags where
  ignoreCase : Bool
  multiLine : Bool
  dotAll : Bool
  carriageReturns : Bool
  unicode : Bool

/-- The flags at the start of a pattern. -/
def Flags.initial : Flags := ⟨false, false, false, false, true⟩

/-- The flags after some changes. -/
def Flags.apply (flags : Flags) (changes : FlagChanges) : Flags :=
  { ignoreCase := (changes.lookup .ignoreCase).getD flags.ignoreCase
    multiLine := (changes.lookup .multiLine).getD flags.multiLine
    dotAll := (changes.lookup .dotAll).getD flags.dotAll
    carriageReturns := (changes.lookup .carriageReturns).getD flags.carriageReturns
    unicode := (changes.lookup .unicode).getD flags.unicode }

/-! ## Characters -/

private def ranges (pairs : List (Char × Char)) : CharSet :=
  .ofRanges (pairs.map fun (a, b) ↦ ⟨a.toNat, b.toNat⟩)

/-- The ASCII characters. -/
def asciiSet : CharSet := ⟨[⟨0, 127⟩]⟩

/-- The ASCII characters of words: letters, digits and the underscore. -/
def asciiWord : CharSet := ranges [('0', '9'), ('A', 'Z'), ('_', '_'), ('a', 'z')]

/-- The characters of words. -/
def unicodeWord : CharSet :=
  .ofRanges ([Unicode.alphabetic, Unicode.mark, Unicode.decimalNumber,
    Unicode.connectorPunctuation, Unicode.joinControl].flatMap CharSet.ranges)

private def asciiSpace : CharSet := ranges [('\t', '\r'), (' ', ' ')]

/-- A class named between colons. -/
private def namedSet (name : String) : CharSet :=
  if name = "alnum" then ranges [('0', '9'), ('A', 'Z'), ('a', 'z')]
  else if name = "alpha" then ranges [('A', 'Z'), ('a', 'z')]
  else if name = "ascii" then asciiSet
  else if name = "blank" then ranges [('\t', '\t'), (' ', ' ')]
  else if name = "cntrl" then ranges [('\x00', '\x1f'), ('\x7f', '\x7f')]
  else if name = "digit" then ranges [('0', '9')]
  else if name = "graph" then ranges [('!', '~')]
  else if name = "lower" then ranges [('a', 'z')]
  else if name = "print" then ranges [(' ', '~')]
  else if name = "punct" then ranges [('!', '/'), (':', '@'), ('[', '\x60'), ('\x7b', '~')]
  else if name = "space" then asciiSpace
  else if name = "upper" then ranges [('A', 'Z')]
  else if name = "word" then asciiWord
  else ranges [('0', '9'), ('A', 'F'), ('a', 'f')]

private def letterSet (unicode : Bool) : LetterClass → CharSet
  | .digit => if unicode then Unicode.decimalNumber else ranges [('0', '9')]
  | .space => if unicode then Unicode.whiteSpace else asciiSpace
  | .word => if unicode then unicodeWord else asciiWord

/-- ASCII letters that differ from a member in case alone are added. -/
private def closeUnderAsciiCase (set : CharSet) : CharSet :=
  let letters := (List.range 26).flatMap fun k ↦
    let upper := 65 + k
    let lower := 97 + k
    if set.ranges.any (fun range ↦ range.contains upper || range.contains lower) then
      [(⟨upper, upper⟩ : CharRange), ⟨lower, lower⟩]
    else []
  .ofRanges (set.ranges ++ letters)

/-- A set that ignores case if the flags say so. -/
private def fold (flags : Flags) (set : CharSet) : CharSet :=
  if !flags.ignoreCase then set
  else if flags.unicode then Unicode.closeUnderCase set
  else closeUnderAsciiCase set

/-- Without the Unicode flag only ASCII can be matched. -/
private def permitted (flags : Flags) (set : CharSet) : Option CharSet :=
  if flags.unicode || set.ranges.all (·.last < 128) then some set else none

private def foldAndNegate (flags : Flags) (negated : Bool) (set : CharSet) : Option CharSet :=
  permitted flags ((fold flags set).negateIf negated)

/-- A literal that stands by itself. Without the Unicode flag an octet beyond ASCII is half a
character; any other literal is a whole one. -/
private def literalChar (flags : Flags) (literal : Literal) : Option Char :=
  if flags.unicode || !literal.octet || literal.char.toNat < 128 then some literal.char else none

/-- A literal in a set. Without the Unicode flag sets keep to ASCII, however it is written. -/
private def memberChar (flags : Flags) (literal : Literal) : Option Char :=
  if flags.unicode || literal.char.toNat < 128 then some literal.char else none

private def propertySet (flags : Flags) (negated : Bool) (query : PropertyQuery) :
    Option CharSet :=
  if !flags.unicode then none
  else do
    let set ← match query with
      | .named name => Unicode.named? name
      | .valued name value => Unicode.valued? name value
    foldAndNegate flags negated set

private def combine (operation : SetOperation) (left right : CharSet) : CharSet :=
  match operation with
  | .intersection => left.inter right
  | .difference => left.diff right
  | .symmetricDifference => left.symmDiff right

mutual

/-- The characters of a set. -/
private def setOf (flags : Flags) : SetTree → Option CharSet
  | .literal literal => (memberChar flags literal).map .singleton
  | .range first last => do
    return ranges [(← memberChar flags first, ← memberChar flags last)]
  | .named negated name => foldAndNegate flags negated (namedSet name)
  | .property negated query => propertySet flags negated query
  | .letter negated letterClass =>
    permitted flags ((letterSet flags.unicode letterClass).negateIf negated)
  | .bracketed negated inner => do foldAndNegate flags negated (← setOf flags inner)
  | .union items => do return .ofRanges (← rangesOf flags items)
  | .operation operation left right => do
    return combine operation (fold flags (← setOf flags left)) (fold flags (← setOf flags right))

/-- The ranges of all items. -/
private def rangesOf (flags : Flags) : List SetTree → Option (List CharRange)
  | [] => some []
  | item :: rest => do return (← setOf flags item).ranges ++ (← rangesOf flags rest)

end

/-! ## Places -/

private def placeOf (flags : Flags) : Anchor → Place
  | .lineStart =>
    if !flags.multiLine then .textStart
    else if flags.carriageReturns then .lineStartEither
    else .lineStart
  | .lineEnd =>
    if !flags.multiLine then .textEnd
    else if flags.carriageReturns then .lineEndEither
    else .lineEnd
  | .textStart => .textStart
  | .textEnd => .textEnd
  | .wordBoundary => .wordBoundary flags.unicode
  | .notWordBoundary => .notWordBoundary flags.unicode
  | .wordStart => .wordStart flags.unicode
  | .wordEnd => .wordEnd flags.unicode
  | .wordStartHalf => .wordStartHalf flags.unicode
  | .wordEndHalf => .wordEndHalf flags.unicode

/-! ## Expressions -/

/-- The characters that a dot stands for. -/
private def dotSet (flags : Flags) : Option CharSet :=
  if !flags.unicode then none
  else if flags.dotAll then some .all
  else if flags.carriageReturns then some (ranges [('\n', '\n'), ('\r', '\r')]).compl
  else some (CharSet.singleton '\n').compl

/-- The pattern consumes no character. -/
def isZeroWidth : Pattern → Bool
  | empty | place _ => true
  | chars _ => false
  | sequence first second | choice first second => first.isZeroWidth && second.isZeroWidth
  | repeated body _ most => body.isZeroWidth || most == some 0

/-- A repetition. Of what consumes nothing, one turn is as good as many. -/
def repeatOf (body : Pattern) (least : Nat) (most : Option Nat) : Pattern :=
  if body.isZeroWidth then repeated body (min least 1) (some ((most.map (min · 1)).getD 1))
  else repeated body least most

mutual

/-- The expression of a tree and the flags in force after it. -/
def ofTree (flags : Flags) : Tree → Option (Pattern × Flags)
  | .empty => some (empty, flags)
  | .flags changes => some (empty, flags.apply changes)
  | .literal literal => do
    return (chars (fold flags (.singleton (← literalChar flags literal))), flags)
  | .dot => do return (chars (← dotSet flags), flags)
  | .anchor anchor => some (place (placeOf flags anchor), flags)
  | .property negated query => do return (chars (← propertySet flags negated query), flags)
  | .letter negated letterClass => do
    let set := (letterSet flags.unicode letterClass).negateIf negated
    return (chars (← permitted flags set), flags)
  | .bracketed negated inner => do
    return (chars (← foldAndNegate flags negated (← setOf flags inner)), flags)
  | .repeated body least most => do
    let (body, flags) ← ofTree flags body
    return (repeatOf body least most, flags)
  | .group changes body => do
    let (body, _) ← ofTree (flags.apply changes) body
    return (body, flags)
  | .sequence items => sequenceOf flags items
  | .alternatives items => do
    let (branches, flags) ← branchesOf flags items
    return (branches, flags)

/-- The items one after the other. -/
def sequenceOf (flags : Flags) : List Tree → Option (Pattern × Flags)
  | [] => some (empty, flags)
  | item :: rest => do
    let (first, flags) ← ofTree flags item
    let (second, flags) ← sequenceOf flags rest
    return (sequence first second, flags)

/-- Any one of the items; of none, nothing is matched. -/
def branchesOf (flags : Flags) : List Tree → Option (Pattern × Flags)
  | [] => some (chars .empty, flags)
  | item :: rest => do
    let (first, flags) ← ofTree flags item
    let (second, flags) ← branchesOf flags rest
    return (choice first second, flags)

end

/-! ## Size -/

/-- The room that a pattern takes once its repetitions are written out, in octets. A set beyond
ASCII takes room for each of its ranges. This only approximates the size that a compiled pattern has:
whether one that comes near the limit is refused cannot be told from it. -/
def room : Pattern → Nat
  | empty => 0
  | chars set =>
    if set.ranges.all (·.last < 128) then 32 + 8 * set.ranges.length
    else 32 + 60 * set.ranges.length
  | place _ => 32
  | sequence first second => first.room + second.room
  | choice first second => first.room + second.room + 40
  | repeated body least most =>
    match most with
    | none => max least 1 * body.room + 40
    | some most => least * body.room + (most - least) * (body.room + 40)

/-- The room that a pattern may take. What is compared with it is an approximation (`room`), so near
this limit the comparison is not exact. -/
def maxRoom : Nat := 10485760

end Pattern

end DocumentSchema
