import DocumentSchema.Pattern.Expression
import DocumentSchema.Pattern.Parser

/-!
# Matching

Matching asks only whether a pattern occurs in a text, so it is enough to follow the *set of places*
that can be reached. Places are numbered from zero, before the first character, to the length of the
text; a set of places is a natural number whose bit `i` stands for place `i`.

First a pattern is laid over the text: each set of characters becomes the set of places in front of
such a character, and each condition becomes the set of places where it holds. What remains is
independent of the text, and every construct takes a set of places to the set reachable from it. A
repetition without bound stops when it reaches nothing new, which happens after at most as many
turns as there are places, so nothing is ever tried twice.
-/

namespace DocumentSchema.Pattern

/-- A set of places in a text: bit `i` for place `i`. -/
abbrev Places := Nat

/-- The places where a condition holds, from a list of its values. -/
def placesOf : List Bool → Places
  | [] => 0
  | holds :: rest => 2 * placesOf rest + holds.toNat

/-- A pattern laid over a text. -/
inductive Laid where
  | stay (here : Places)
  | step (before : Places)
  | sequence (first second : Laid)
  | choice (first second : Laid)
  | repeated (body : Laid) (least : Nat) (most : Option Nat)

/-! ## Conditions -/

private def isWord (unicode : Bool) : Option Char → Bool
  | none => false
  | some c => if unicode then unicodeWord.contains c else asciiWord.contains c

/-- The condition holds between two characters; at an end of the text there is none. -/
def Place.holds (place : Place) (before after : Option Char) : Bool :=
  match place with
  | .textStart => before.isNone
  | .textEnd => after.isNone
  | .lineStart => before.isNone || before == some '\n'
  | .lineEnd => after.isNone || after == some '\n'
  | .lineStartEither =>
    before.isNone || before == some '\n' || (before == some '\r' && after != some '\n')
  | .lineEndEither =>
    after.isNone || after == some '\r' || (after == some '\n' && before != some '\r')
  | .wordBoundary unicode => isWord unicode before != isWord unicode after
  | .notWordBoundary unicode => isWord unicode before == isWord unicode after
  | .wordStart unicode => !isWord unicode before && isWord unicode after
  | .wordEnd unicode => isWord unicode before && !isWord unicode after
  | .wordStartHalf unicode => !isWord unicode before
  | .wordEndHalf unicode => !isWord unicode after

/-- The values of a condition along a text, from the character before it on. -/
def holdsAlong (place : Place) : Option Char → List Char → List Bool
  | before, [] => [place.holds before none]
  | before, c :: rest => place.holds before (some c) :: holdsAlong place (some c) rest

/-- A pattern laid over a text. -/
def lay (text : List Char) : Pattern → Laid
  | .empty => .stay (placesOf (List.replicate (text.length + 1) true))
  | .chars set => .step (placesOf (text.map set.contains))
  | .place condition => .stay (placesOf (holdsAlong condition none text))
  | .sequence first second => .sequence (lay text first) (lay text second)
  | .choice first second => .choice (lay text first) (lay text second)
  | .repeated body least most => .repeated (lay text body) least most

/-! ## Reaching -/

/-- The places after exactly so many turns. Turns that change nothing are not continued. -/
def turns (step : Places → Places) : Nat → Places → Places
  | 0, places => places
  | count + 1, places =>
    let next := step places
    if next = places then places else turns step count next

/-- The places after at most so many turns. Only places not seen before are followed further. -/
def spread (step : Places → Places) : Nat → Places → Places → Places
  | 0, _, seen => seen
  | count + 1, latest, seen =>
    let next := step latest
    let fresh := next ^^^ (next &&& seen)
    if fresh = 0 then seen else spread step count fresh (seen ||| fresh)

/-- The places reachable from a set of places, in a text with so many places. -/
def Laid.reach (size : Nat) : Laid → Places → Places
  | .stay here, places => places &&& here
  | .step before, places => (places &&& before) <<< 1
  | .sequence first second, places => second.reach size (first.reach size places)
  | .choice first second, places => first.reach size places ||| second.reach size places
  | .repeated body least most, places =>
    let start := turns (fun places ↦ body.reach size places) least places
    let more := match most with
      | none => size
      | some most => min size (most - least)
    spread (fun places ↦ body.reach size places) more start start

/-- The pattern occurs somewhere in the text. -/
def occursIn (pattern : Pattern) (text : String) : Bool :=
  let chars := text.toList
  let everywhere := placesOf (List.replicate (chars.length + 1) true)
  (lay chars pattern).reach (chars.length + 1) everywhere != 0

/-- The expression of a pattern's text, if that is well formed, has a meaning and is not too
large. -/
def compile? (source : String) : Option Pattern := do
  let (pattern, _) ← ofTree Flags.initial (← Tree.parse? source)
  if pattern.room ≤ maxRoom then return pattern else none

end DocumentSchema.Pattern
