import DocumentSchema.Numeric.Binary64

/-!
# Shortest decimal text of a float

A float is printed with the fewest significant digits that read back as the same float, and among
those with the digits nearest to its value. The numbers that read back are those between the
midpoints to the two neighbouring floats; a midpoint itself reads back exactly when the float's
significand is even. Counting quarters of a unit keeps both midpoints whole, so every test below is
a comparison of naturals.

How the digits are laid out (where the point stands, when an exponent is written) is a separate
decision, collected in one record.
-/

namespace DocumentSchema

/-! ## Digits -/

/-- A decimal magnitude `digits · 10^exponent`. -/
structure Decimal where
  digits : Nat
  exponent : Int
  deriving DecidableEq, Repr

/-- The magnitudes that read back as one float, in quarters of a unit. -/
private structure ReadBack where
  low : Nat
  high : Nat
  endsIncluded : Bool

private def ReadBack.of (units : Nat) : ReadBack :=
  let step := Nat.pow 2 (spacing units)
  let below := if 0 < spacing units && units == Nat.pow 2 units.log2 then step / 2 else step
  { low := 4 * units - 2 * below
    high := 4 * units + 2 * step
    endsIncluded := units / step % 2 == 0 }

/-- A power of ten as a fraction. -/
private def powerOfTen (exponent : Int) : Nat × Nat :=
  (Nat.pow 10 exponent.toNat, Nat.pow 10 (-exponent).toNat)

private def ReadBack.contains (range : ReadBack) (decimal : Decimal) : Bool :=
  let (num, den) := powerOfTen decimal.exponent
  let value := 4 * decimal.digits * num * unitsPerOne
  if range.endsIncluded then range.low * den ≤ value && value ≤ range.high * den
  else range.low * den < value && value < range.high * den

/-- The two points of the grid of multiples of `10^exponent` next to a value in units: the one not
above it, and whether the one above is nearer. -/
private def gridPoint (units : Nat) (exponent : Int) : Nat × Bool :=
  let (num, den) := powerOfTen exponent
  let step := num * unitsPerOne
  let quotient := units * den / step
  let twice := 2 * (units * den % step)
  (quotient, step < twice || (twice == step && quotient % 2 == 1))

/-- A point of the grid that reads back, the nearer one if both do. -/
private def onGrid? (units : Nat) (range : ReadBack) (exponent : Int) : Option Decimal :=
  let (quotient, upward) := gridPoint units exponent
  let down : Decimal := ⟨quotient, exponent⟩
  let up : Decimal := ⟨quotient + 1, exponent⟩
  match range.contains down, range.contains up with
  | true, true => some (if upward then up else down)
  | true, false => some down
  | false, true => some up
  | false, false => none

/-- The number of zeros after the point before the first digit, for a value below one. -/
private def leadingZeros (units : Nat) : Nat → Nat → Nat
  | 0, count => count
  | fuel + 1, count =>
    if unitsPerOne ≤ units * Nat.pow 10 (count + 1) then count
    else leadingZeros units fuel (count + 1)

/-- The power of ten of the leading digit of a positive magnitude. -/
def leadingExponent (units : Nat) : Int :=
  if unitsPerOne ≤ units then ((Nat.toDigits 10 (units / unitsPerOne)).length : Int) - 1
  else -(leadingZeros units 330 0 : Int) - 1

/-- The first grid, from coarse to fine, with a point that reads back. Seventeen digits always
suffice; `fallback` only closes the recursion. -/
private def firstGrid (units : Nat) (range : ReadBack) (leading : Int) (fallback : Decimal) :
    Nat → Nat → Decimal
  | 0, _ => fallback
  | fuel + 1, count =>
    match onGrid? units range (leading + 1 - count) with
    | some decimal => decimal
    | none => firstGrid units range leading fallback fuel (count + 1)

/-- Trailing zeros are moved into the exponent. -/
private def Decimal.normalize : Nat → Decimal → Decimal
  | 0, decimal => decimal
  | fuel + 1, decimal =>
    if decimal.digits != 0 && decimal.digits % 10 == 0 then
      Decimal.normalize fuel ⟨decimal.digits / 10, decimal.exponent + 1⟩
    else decimal

/-- The shortest decimal that reads back as the float with this magnitude. -/
def shortestDecimal (units : Nat) : Decimal :=
  if units = 0 then ⟨0, 0⟩
  else
    let leading := leadingExponent units
    Decimal.normalize 20 (firstGrid units (ReadBack.of units) leading ⟨units, -1074⟩ 18 1)

/-! ## Layout -/

/-- The decisions of a notation for floats. -/
structure FloatLayout where
  /-- The least exponent of the leading digit that is written positionally. -/
  positionalFrom : Int
  /-- The first exponent of the leading digit that is not. -/
  positionalTo : Int
  /-- What stands before an exponent that is not negative. -/
  exponentPlus : String

/-- Numbers from `0.00001` up to sixteen digits before the point are positional with at least one
digit after the point; a positive exponent carries its sign. -/
def documentLayout : FloatLayout := ⟨-5, 16, "+"⟩

private def zeros (count : Nat) : String := String.ofList (List.replicate count '0')

/-- The text of `digits · 10^exponent` for a layout. -/
def FloatLayout.text (layout : FloatLayout) (decimal : Decimal) : String :=
  let digits := Nat.toDigits 10 decimal.digits
  let leading : Int := (digits.length : Int) - 1 + decimal.exponent
  if layout.positionalFrom ≤ leading && leading < layout.positionalTo then
    if 0 ≤ decimal.exponent then
      String.ofList digits ++ zeros decimal.exponent.toNat ++ ".0"
    else if 0 ≤ leading then
      let whole := leading.toNat + 1
      String.ofList (digits.take whole) ++ "." ++ String.ofList (digits.drop whole)
    else
      "0." ++ zeros (-leading - 1).toNat ++ String.ofList digits
  else
    let mantissa := match digits with
      | [] => ""
      | [only] => String.singleton only
      | first :: rest => String.singleton first ++ "." ++ String.ofList rest
    let sign := if leading < 0 then "-" else layout.exponentPlus
    mantissa ++ "e" ++ sign ++ toString leading.natAbs

/-- The text of a float in a document. -/
def Binary64.text (x : Binary64) : String :=
  (if x.negative then "-" else "") ++ documentLayout.text (shortestDecimal x.units)

end DocumentSchema
