import GlslAssist.Decimal.Digits

/-!
# Binary64 numbers

A finite number is a sign and a magnitude, which is a natural number of steps of 2^-1074, the
smallest positive one. `ofDecimal` rounds a decimal to the nearest number, a tie to the even one.
`shifted` is the quick way to read a decimal: its digits are rounded, and then multiplied or divided
by a rounded power of ten, so that the number may be a neighbour of the nearest one.
-/

namespace GlslAssist.Decimal

inductive Binary64 where
  | finite (negative : Bool) (magnitude : Nat)
  | infinite (negative : Bool)
  | nan
  deriving DecidableEq, Repr

namespace Binary64

/-- The quotient rounded to the nearest natural number, a tie to the even one. -/
def roundQuotient (num den : Nat) : Nat :=
  let floor := num / den
  let twice := 2 * (num % den)
  if twice < den then floor
  else if den < twice then floor + 1
  else if floor % 2 = 0 then floor else floor + 1

/-- The distance to the next greater number, as a power of two: magnitudes have 53 binary places. -/
def spacing (magnitude : Nat) : Nat :=
  magnitude.log2 - 52

/-- The least magnitude that is too large. -/
def overflow : Nat := twoTo (1024 + 1074)

/-- The magnitude nearest to `num / den`. -/
def nearest (num den : Nat) : Nat :=
  let steps := num * twoTo 1074
  let place := twoTo (spacing (steps / den))
  roundQuotient steps (den * place) * place

/-- The number nearest to `digits · 10 ^ exponent`. Beyond three hundred and fifty places either way
the answer does not depend on the digits. -/
def ofDecimal (negative : Bool) (digits : Nat) (exponent : Int) : Binary64 :=
  let places : Int := (Nat.toDigits 10 digits).length
  if digits = 0 ∨ places + exponent < -350 then finite negative 0
  else if 350 < places + exponent then infinite negative
  else
    let magnitude :=
      if 0 ≤ exponent then nearest (digits * tenTo exponent.toNat) 1
      else nearest digits (tenTo (-exponent).toNat)
    if magnitude < overflow then finite negative magnitude else infinite negative

/-! ## The quick way -/

/-- The magnitude of a power of ten, of which the highest is the three hundred and eighth. -/
def powerOfTen (n : Nat) : Nat := nearest (tenTo n) 1

/-- The magnitude times a power of ten; nothing if it is too large. -/
def raise? (magnitude n : Nat) : Option Nat :=
  let product := nearest (magnitude * powerOfTen n) (twoTo (1074 + 1074))
  if product < overflow then some product else none

/-- The magnitude divided by a power of ten, in as many steps as the powers make necessary. -/
def lower (magnitude n : Nat) : Nat :=
  if magnitude = 0 then 0
  else if n ≤ 308 then nearest magnitude (powerOfTen n)
  else lower (nearest magnitude (powerOfTen 308)) (n - 308)
termination_by n

/-- The magnitude read from digits and an exponent the quick way; nothing if it is too large. -/
def shifted (digits : Nat) (exponent : Int) : Option Nat :=
  let magnitude := nearest digits 1
  if magnitude = 0 then some 0
  else if exponent < 0 then some (lower magnitude exponent.natAbs)
  else if 308 < exponent then none
  else raise? magnitude exponent.natAbs

end Binary64

end GlslAssist.Decimal
