import DocumentSchema.Numeric.Shortest

/-!
# Numbers of a document

A number is an integer or a float, and its text decides which: an integer literal within 64 bits,
signed or unsigned, is an integer, and everything else is a float. The kinds print differently, but
a number is always *compared* through the float nearest to it, so `5`, `5.0` and `5e0` are equal as
numbers.

A literal with a fraction, an exponent or too many digits is read by its leading digits that fit 64
bits; these are rounded to a float, which is then multiplied or divided by a power of ten in steps
of at most `10^308`, each step rounded. A literal beyond the finite floats is no number at all.
-/

namespace DocumentSchema

/-- A number of a document. -/
inductive Number where
  | integer (value : Int)
  | float (value : Binary64)
  deriving DecidableEq

namespace Number

/-- The largest integer that a literal can denote exactly. -/
def maxUnsigned : Nat := 18446744073709551615

/-- The least integer that a literal can denote exactly. -/
def minSigned : Int := -9223372036854775808

/-- The value as a float, in signed units; all comparisons are made on it. -/
def units : Number → Int
  | integer value => unitsOfInt value
  | float value => value.signedUnits

/-- The value is a whole number. -/
def isIntegral : Number → Bool
  | integer _ => true
  | float value => value.isIntegral

/-- The value as a count, which only an integer that is not negative has. -/
def asCount? : Number → Option Nat
  | integer value => if 0 ≤ value then some value.toNat else none
  | float _ => none

/-- The text of a number. -/
def text : Number → String
  | integer value => toString value
  | float value => value.text

/-! ## Reading -/

/-- The parts of a number's literal. An exponent keeps its sign and its digits. -/
structure Literal where
  negative : Bool
  whole : List Char
  fraction : Option (List Char)
  exponent : Option (Bool × List Char)

def digitValue (c : Char) : Nat := c.toNat - '0'.toNat

/-- The value of a list of digits. -/
def digitsValue (digits : List Char) : Nat := digits.foldl (fun n c ↦ 10 * n + digitValue c) 0

/-- The leading digits that fit 64 bits, and the number of the remaining ones. Once a digit does not
fit, no later one of the same list is taken. -/
def takeFitting (significand : Nat) : List Char → Nat × Nat
  | [] => (significand, 0)
  | c :: rest =>
    let next := 10 * significand + digitValue c
    if next ≤ maxUnsigned then takeFitting next rest else (significand, rest.length + 1)

/-- A float scaled by a power of ten, rounding after every step. The fuel bounds the steps of
`10^308` that a small number can take before it is zero. -/
def scale : Nat → Binary64 → Int → Option Binary64
  | 0, x, _ => some x
  | fuel + 1, x, exponent =>
    if exponent.natAbs ≤ 308 then do
      let power ← Binary64.ofNat? (Nat.pow 10 exponent.natAbs)
      if 0 ≤ exponent then x.mul? power else x.div? power
    else if x.units = 0 then some x
    else if 0 ≤ exponent then none
    else do
      let power ← Binary64.ofNat? (Nat.pow 10 308)
      scale fuel (← x.div? power) (exponent + 308)

/-- The float of a literal. -/
def Literal.float? (literal : Literal) : Option Binary64 := do
  let (significand, dropped) := takeFitting 0 literal.whole
  let (significand, taken) :=
    match literal.fraction with
    | none => (significand, 0)
    | some fraction =>
      let (significand, left) := takeFitting significand fraction
      (significand, fraction.length - left)
  let start : Int := (dropped : Int) - taken
  let exponent := match literal.exponent with
    | none => start
    | some (true, digits) => start - digitsValue digits
    | some (false, digits) => start + digitsValue digits
  let x ← scale 8 (← Binary64.ofNat? significand) exponent
  some (if literal.negative then x.neg else x)

/-- The number that a literal denotes, if it is finite. -/
def ofLiteral? (literal : Literal) : Option Number :=
  let value := digitsValue literal.whole
  match literal.fraction, literal.exponent with
  | none, none =>
    if !literal.negative && value ≤ maxUnsigned then some (.integer value)
    else if literal.negative && value ≠ 0 && minSigned ≤ -(value : Int) then
      some (.integer (-(value : Int)))
    else literal.float?.map .float
  | _, _ => literal.float?.map .float

end Number

end DocumentSchema
