/-!
# Binary floating point, exactly

A finite double-precision magnitude is a whole number of *units*, the unit being
the least positive double, `2^(-1074)`. Every such number with at most 53
significant bits below `2^2098` units is one. Arithmetic is exact on natural
numbers and rounds once, to nearest, a half going to the even neighbour.

* `Binary64`            : a signed finite double
* `Binary64.round`      : the magnitude nearest to a quotient
* `Binary64.scale`      : a product with, or a quotient by, a power of ten
-/

namespace Appliance.Decimal

/-- A finite double: its sign, and its magnitude in units of `2^(-1074)`. -/
structure Binary64 where
  negative : Bool
  units : Nat
deriving DecidableEq, Repr

namespace Binary64

/-- The units of one. -/
def unitsOfOne : Nat := 1 <<< 1074

/-- The magnitudes stop before `2^1024`. -/
def limit : Nat := 1 <<< 2098

/-- The spacing of doubles around a magnitude: one unit below `2^53` units, and
otherwise the power of two that leaves 53 significant bits. -/
def spacing (units : Nat) : Nat := 1 <<< (units.log2 - 52)

/-- A quotient of units rounded to a multiple of `step`, a half to the even multiple. -/
def roundTo (step num den : Nat) : Nat :=
  let k := num / (den * step)
  let r := num % (den * step)
  if 2 * r < den * step then k * step
  else if den * step < 2 * r then (k + 1) * step
  else if k % 2 = 0 then k * step
  else (k + 1) * step

/-- The magnitude nearest to `num / den` units. -/
def round (num den : Nat) : Nat := roundTo (spacing (num / den)) num den

/-- The magnitude nearest to a natural number. -/
def ofNat (n : Nat) : Nat := round (n * unitsOfOne) 1

/-- The product of two magnitudes. -/
def mul (a b : Nat) : Nat := round (a * b) unitsOfOne

/-- The quotient of two magnitudes. -/
def div (a b : Nat) : Nat := round (a * unitsOfOne) b

/-- The magnitude nearest to a power of ten. -/
def powerOfTen (k : Nat) : Nat := ofNat (Nat.pow 10 k)

/-- A magnitude times a power of ten, each step rounded; the power is taken in one
step up to `10^308`, and a smaller one is reached by dividing by `10^308` first.
`none` when the product leaves the range. -/
def scale (m : Nat) (exponent : Int) : Option Nat :=
  match exponent with
  | .ofNat k =>
    if m = 0 ∧ 308 < k then some 0
    else if 308 < k then none
    else
      let p := mul m (powerOfTen k)
      if limit ≤ p then none else some p
  | .negSucc k => some (shrink m (k + 1))
where
  /-- A magnitude divided by a power of ten, at most `10^308` at a time. -/
  shrink (m k : Nat) : Nat :=
    if m = 0 then 0
    else if k ≤ 308 then div m (powerOfTen k)
    else shrink (div m (powerOfTen 308)) (k - 308)
  termination_by k

end Binary64

end Appliance.Decimal
