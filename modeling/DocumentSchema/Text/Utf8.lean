/-!
# UTF-8

Decoding takes one octet at a time. Between characters nothing is owed; after a leading octet a
number of continuation octets is owed, and the first of them has bounds of its own, which exclude
overlong forms, surrogates and numbers beyond the last code point. An octet outside the bounds ends
the broken sequence *before* it and is looked at again as the start of the next one.

Decoding is thus total: a result is a list of characters and gaps, one gap for each longest part
that could have begun a character. Text is what decodes without gaps; the lenient reading puts the
replacement character into each gap.
-/

namespace DocumentSchema

/-- A sequence of octets, as a store or a file holds it. -/
abbrev Octets := List UInt8

/-- The octets that encode a text. -/
def encodeText (text : String) : Octets := text.toUTF8.toList

namespace Utf8

/-- Where decoding stands: the continuation octets owed, the bounds of the next one, and the value
collected so far. -/
structure Owed where
  count : Nat
  low : Nat
  high : Nat
  value : Nat

/-- What a leading octet says: a whole character, a sequence to continue, or nothing. -/
inductive Leading where
  | whole (c : Char)
  | owes (state : Owed)
  | broken

def Leading.of (octet : UInt8) : Leading :=
  let b := octet.toNat
  if b < 0x80 then .whole (Char.ofNat b)
  else if b < 0xC2 then .broken
  else if b < 0xE0 then .owes ⟨1, 0x80, 0xBF, b - 0xC0⟩
  else if b < 0xF0 then
    .owes ⟨2, if b = 0xE0 then 0xA0 else 0x80, if b = 0xED then 0x9F else 0xBF, b - 0xE0⟩
  else if b < 0xF5 then
    .owes ⟨3, if b = 0xF0 then 0x90 else 0x80, if b = 0xF4 then 0x8F else 0xBF, b - 0xF0⟩
  else .broken

/-- The items that an octet completes between characters, put before those collected so far, and
what it owes. -/
def startItem (done : List (Option Char)) (octet : UInt8) :
    List (Option Char) × Option Owed :=
  match Leading.of octet with
  | .whole c => (some c :: done, none)
  | .owes state => (done, some state)
  | .broken => (none :: done, none)

def decodeStep (state : List (Option Char) × Option Owed) (octet : UInt8) :
    List (Option Char) × Option Owed :=
  match state with
  | (done, none) => startItem done octet
  | (done, some owed) =>
    let b := octet.toNat
    if owed.low ≤ b && b ≤ owed.high then
      let value := owed.value * 64 + (b - 0x80)
      if owed.count = 1 then (some (Char.ofNat value) :: done, none)
      else (done, some ⟨owed.count - 1, 0x80, 0xBF, value⟩)
    else startItem (none :: done) octet

end Utf8

/-- The characters of a sequence of octets, with `none` for each part that is none. -/
def decodeItems (octets : Octets) : List (Option Char) :=
  match octets.foldl Utf8.decodeStep ([], none) with
  | (done, none) => done.reverse
  | (done, some _) => (none :: done).reverse

/-- The text that the octets encode, if they do. -/
def decodeText? (octets : Octets) : Option String :=
  ((decodeItems octets).mapM id).map String.ofList

/-- The text of the octets with the replacement character for each broken part. -/
def decodeTextLossy (octets : Octets) : String :=
  String.ofList ((decodeItems octets).map (·.getD '\uFFFD'))

@[simp] theorem decodeText?_nil : decodeText? [] = some "" := rfl

end DocumentSchema
