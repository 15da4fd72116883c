/-!
# Sets of characters

A set of characters is a list of ranges of code points. In a normal list the ranges are sorted,
disjoint and not adjacent, so the complement can be read off the gaps and every other operation is
built from union and complement.

The tables of character properties are written as text: numbers in pairs, each pair the length of
a gap and one less than the length of the range after it.
-/

namespace DocumentSchema

/-- A range of code points, ends included. -/
structure CharRange where
  first : Nat
  last : Nat
  deriving DecidableEq, Repr

namespace CharRange

/-- The code point lies in the range. -/
def contains (range : CharRange) (code : Nat) : Bool := range.first ≤ code && code ≤ range.last

end CharRange

/-- The last code point. -/
def lastCodePoint : Nat := 0x10FFFF

/-- A set of characters, given by ranges. -/
structure CharSet where
  ranges : List CharRange
  deriving DecidableEq, Repr

namespace CharSet

/-- The character belongs to the set. -/
def contains (set : CharSet) (c : Char) : Bool := set.ranges.any (·.contains c.toNat)

/-- No character. -/
def empty : CharSet := ⟨[]⟩

/-- One character. -/
def singleton (c : Char) : CharSet := ⟨[⟨c.toNat, c.toNat⟩]⟩

@[simp] theorem contains_empty (c : Char) : empty.contains c = false := rfl

/-! ## Normal lists -/

/-- Ranges sorted by their first code point, joined where they meet or overlap. The accumulator
holds the ranges already finished, the last one first. -/
private def joinSorted : List CharRange → List CharRange → List CharRange
  | done, [] => done.reverse
  | [], range :: rest => joinSorted [range] rest
  | previous :: done, range :: rest =>
    if range.first ≤ previous.last + 1 then
      joinSorted (⟨previous.first, max previous.last range.last⟩ :: done) rest
    else joinSorted (range :: previous :: done) rest

/-- The set that a list of ranges in any order denotes, as a normal list. -/
def ofRanges (ranges : List CharRange) : CharSet :=
  ⟨joinSorted [] (ranges.mergeSort fun a b ↦ a.first ≤ b.first)⟩

/-- The gaps between sorted ranges, from a code point on. -/
private def gapsFrom : Nat → List CharRange → List CharRange
  | start, [] => if start ≤ lastCodePoint then [⟨start, lastCodePoint⟩] else []
  | start, range :: rest =>
    if start < range.first then ⟨start, range.first - 1⟩ :: gapsFrom (range.last + 1) rest
    else gapsFrom (range.last + 1) rest

/-! ## Operations -/

/-- Characters of either set. -/
def union (a b : CharSet) : CharSet := ofRanges (a.ranges ++ b.ranges)

/-- Characters that are not in the set. -/
def compl (a : CharSet) : CharSet := ⟨gapsFrom 0 (ofRanges a.ranges).ranges⟩

/-- Characters of both sets. -/
def inter (a b : CharSet) : CharSet := (a.compl.union b.compl).compl

/-- Characters of the first set that are not in the second. -/
def diff (a b : CharSet) : CharSet := (a.compl.union b).compl

/-- Characters of exactly one of the sets. -/
def symmDiff (a b : CharSet) : CharSet := (a.diff b).union (b.diff a)

/-- Every character. -/
def all : CharSet := ⟨[⟨0, lastCodePoint⟩]⟩

/-- The complement if asked for. -/
def negateIf (negated : Bool) (a : CharSet) : CharSet := if negated then a.compl else a

/-! ## Tables -/

end CharSet

/-- The numbers of a table, signed decimal numbers between blanks and line ends. -/
def tableNumbers (text : String) : List Int :=
  let finish (state : List Int × Option (Bool × Nat)) : List Int :=
    match state.2 with
    | none => state.1
    | some (negative, n) => (if negative then -(n : Int) else n) :: state.1
  let step (state : List Int × Option (Bool × Nat)) (c : Char) : List Int × Option (Bool × Nat) :=
    if c = '-' then (finish state, some (true, 0))
    else if c.isDigit then
      match state.2 with
      | none => (state.1, some (false, c.toNat - '0'.toNat))
      | some (negative, n) => (state.1, some (negative, n * 10 + (c.toNat - '0'.toNat)))
    else (finish state, none)
  (finish (text.toList.foldl step ([], none))).reverse

/-- Ranges from alternating gaps and lengths. -/
private def rangesFrom : Nat → List Int → List CharRange
  | start, gap :: length :: rest =>
    let first := start + gap.toNat
    let last := first + length.toNat
    ⟨first, last⟩ :: rangesFrom (last + 1) rest
  | _, _ => []

/-- The set that a table denotes. -/
def CharSet.ofTable (text : String) : CharSet := ⟨rangesFrom 0 (tableNumbers text)⟩

end DocumentSchema
