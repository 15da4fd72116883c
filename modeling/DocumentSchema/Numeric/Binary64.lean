/-!
# Binary floating-point numbers of 64 bits

A finite 64-bit float is a whole multiple of `2^-1074`, so a magnitude is kept as that multiple, a
natural number of *units*, and every operation is exact arithmetic on naturals followed by one
rounding. The rounding is stated once, for a quotient of naturals: to the nearest number with 53
significant bits, and of two nearest to the even one. Nothing here is opaque to a proof, and the
order of floats is the order of their signed units.

Infinities and NaN are not numbers of a document; an operation that would leave the finite range
answers `none`.
-/

namespace DocumentSchema

/-! ## Rounding -/

/-- The natural number nearest to `num / den`; of two nearest, the even one. -/
def roundHalfEven (num den : Nat) : Nat :=
  let quotient := num / den
  let twice := 2 * (num % den)
  if twice < den then quotient
  else if den < twice then quotient + 1
  else quotient + quotient % 2

/-- The spacing of 53-bit numbers at magnitude `n` is two to this power. -/
def spacing (n : Nat) : Nat := n.log2 - 52

/-- The number of units nearest to `num / den` that 53 significant bits can hold. -/
def roundUnits (num den : Nat) : Nat :=
  let step := Nat.pow 2 (spacing (num / den))
  roundHalfEven num (den * step) * step

/-- The first magnitude beyond the finite floats, `2^1024`, in units. -/
def unitLimit : Nat := Nat.pow 2 2098

/-- A count of units that a finite float can have. -/
def Representable (units : Nat) : Prop :=
  roundUnits units 1 = units ∧ units < unitLimit

instance (units : Nat) : Decidable (Representable units) :=
  inferInstanceAs (Decidable (_ ∧ _))

/-- The number one, in units. -/
def unitsPerOne : Nat := Nat.pow 2 1074

theorem roundHalfEven_zero (den : Nat) : roundHalfEven 0 den = 0 := by
  unfold roundHalfEven
  by_cases h : den = 0 <;> simp [h, Nat.pos_iff_ne_zero]

theorem unitLimit_pos : 0 < unitLimit := by
  unfold unitLimit
  generalize 2098 = exponent
  exact Nat.two_pow_pos exponent

theorem representable_zero : Representable 0 :=
  ⟨by simp [roundUnits, roundHalfEven_zero], unitLimit_pos⟩

/-! ## The type -/

/-- A finite 64-bit float: a sign and a magnitude in units of `2^-1074`. Zero has both signs. -/
structure Binary64 where
  /-- Whether the sign bit is set. -/
  negative : Bool
  /-- The magnitude, as a multiple of `2^-1074`. -/
  units : Nat
  /-- The magnitude is one of a finite float. -/
  representable : Representable units
  deriving DecidableEq

namespace Binary64

/-- Positive zero. -/
def zero : Binary64 := ⟨false, 0, representable_zero⟩

/-- The sign put on a magnitude that has already been rounded, unless it is out of range. -/
def ofUnits? (negative : Bool) (units : Nat) : Option Binary64 :=
  if h : Representable units then some ⟨negative, units, h⟩ else none

/-- The float nearest to `num / den`, where both count units. -/
def ofRatio? (negative : Bool) (num den : Nat) : Option Binary64 :=
  ofUnits? negative (roundUnits num den)

/-- The float nearest to a natural number. -/
def ofNat? (n : Nat) : Option Binary64 := ofRatio? false (n * unitsPerOne) 1

/-- The sign is turned over. -/
def neg (x : Binary64) : Binary64 := { x with negative := !x.negative }

/-- The value as a signed count of units; this is what comparisons see. -/
def signedUnits (x : Binary64) : Int := if x.negative then -(x.units : Int) else x.units

/-- The rounded product. -/
def mul? (x y : Binary64) : Option Binary64 :=
  ofRatio? (x.negative != y.negative) (x.units * y.units) unitsPerOne

/-- The rounded quotient; the divisor is not zero where this is used. -/
def div? (x y : Binary64) : Option Binary64 :=
  ofRatio? (x.negative != y.negative) (x.units * unitsPerOne) y.units

/-- The value is a whole number. -/
def isIntegral (x : Binary64) : Bool := x.units % unitsPerOne == 0

/-- The float nearest to `±digits · 10^exponent`. Exponents far outside the range are settled by
their size alone. -/
def ofDecimal? (negative : Bool) (digits : Nat) (exponent : Int) : Option Binary64 :=
  let magnitude : Int := (Nat.toDigits 10 digits).length + exponent
  if digits = 0 || magnitude < -400 then some { zero with negative }
  else if 400 < magnitude then none
  else if 0 ≤ exponent then
    ofRatio? negative (digits * Nat.pow 10 exponent.toNat * unitsPerOne) 1
  else ofRatio? negative (digits * unitsPerOne) (Nat.pow 10 (-exponent).toNat)

end Binary64

/-- The 64-bit float value of an integer, as a signed count of units. -/
def unitsOfInt (n : Int) : Int :=
  let magnitude := roundUnits (n.natAbs * unitsPerOne) 1
  if n < 0 then -(magnitude : Int) else magnitude

end DocumentSchema
