import Appliance.Decimal.Binary64

/-!
# The shortest decimal of a double

Of the decimals that round to a given double the shortest is written, and of the
shortest the one nearest to it. The reals that round to a magnitude form an
interval around it, whose ends belong to it when its significand is even; the
search tries one digit, two digits and so on, and on each grid the two
neighbours of the magnitude.

* `Shortest.Interval` : the reals that round to a magnitude
* `Shortest.digits`   : the digits and the decimal exponent
* `Shortest.text`     : positional text for exponents from -5 to 15, else scientific
-/

namespace Appliance.Decimal.Shortest

open Appliance.Decimal

/-- The reals that round to a magnitude, in quarters of a unit. -/
structure Interval where
  low : Nat
  high : Nat
  closed : Bool

/-- The interval of a positive magnitude. Below a power of two the spacing halves,
unless the spacing is already one unit. -/
def interval (units : Nat) : Interval :=
  let step := Binary64.spacing units
  let below := if units = 1 <<< units.log2 ∧ 1 < step then step else 2 * step
  { low := 4 * units - below
    high := 4 * units + 2 * step
    closed := (units / step) % 2 == 0 }

/-- Whether `num / den` quarters of a unit lie in the interval. -/
def Interval.contains (i : Interval) (num den : Nat) : Bool :=
  if i.closed then i.low * den ≤ num && num ≤ i.high * den
  else i.low * den < num && num < i.high * den

/-- A power of ten with a possibly negative exponent, as a fraction. -/
def tenTo (k : Int) : Nat × Nat :=
  match k with
  | .ofNat n => (Nat.pow 10 n, 1)
  | .negSucc n => (1, Nat.pow 10 (n + 1))

/-- The exponent of the first significant decimal digit of a positive magnitude. -/
def leadingExponent (units : Nat) : Int :=
  let whole := units / Binary64.unitsOfOne
  if 0 < whole then ((Nat.toDigits 10 whole).length : Int) - 1
  else
    match (List.range 330).find? fun j => Binary64.unitsOfOne ≤ units * Nat.pow 10 j with
    | some j => -(j : Int)
    | none => 0

/-- The better neighbour on the grid of multiples of `10^k` that rounds to the
magnitude: the nearer one, and of two equally near the even one. -/
def onGrid? (units : Nat) (k : Int) : Option Nat :=
  let (up, down) := tenTo k
  -- the magnitude is `units * down / (up * 2^1074)` grid steps
  let d := units * down / (up * Binary64.unitsOfOne)
  let r := units * down % (up * Binary64.unitsOfOne)
  let i := interval units
  let lowHit := 0 < d && i.contains (4 * d * up * Binary64.unitsOfOne) down
  let highHit := i.contains (4 * (d + 1) * up * Binary64.unitsOfOne) down
  match lowHit, highHit with
  | true, true =>
    if 2 * r < up * Binary64.unitsOfOne then some d
    else if up * Binary64.unitsOfOne < 2 * r then some (d + 1)
    else if d % 2 = 0 then some d else some (d + 1)
  | true, false => some d
  | false, true => some (d + 1)
  | false, false => none

/-- The first grid with a hit, from one significant digit upwards. -/
def search (units : Nat) (e : Int) : Nat → Nat × Int
  | 0 => (0, 0)
  | fuel + 1 =>
    let n := 18 - (fuel + 1)
    match onGrid? units (e - n) with
    | some d => (d, e - n)
    | none => search units e fuel

/-- Drops the zeros at the end of a significand and raises the exponent. -/
def stripZeros : Nat → Nat × Int → Nat × Int
  | 0, p => p
  | fuel + 1, (d, k) => if d ≠ 0 ∧ d % 10 = 0 then stripZeros fuel (d / 10, k + 1) else (d, k)

/-- The significant digits of a positive magnitude, and the exponent of the first. -/
def digits (units : Nat) : List Char × Int :=
  let (d, k) := stripZeros 20 (search units (leadingExponent units) 18)
  let ds := Nat.toDigits 10 d
  (ds, k + ds.length - 1)

/-- The written form of a magnitude from its digits and leading exponent. -/
def layOut (ds : List Char) (e : Int) : List Char :=
  let n : Int := ds.length
  if -5 ≤ e ∧ e ≤ 15 then
    if n - 1 ≤ e then ds ++ List.replicate (e - (n - 1)).toNat '0' ++ ['.', '0']
    else if 0 ≤ e then ds.take (e.toNat + 1) ++ '.' :: ds.drop (e.toNat + 1)
    else ['0', '.'] ++ List.replicate (-e - 1).toNat '0' ++ ds
  else
    let point := match ds.drop 1 with
      | [] => []
      | rest => '.' :: rest
    ds.take 1 ++ point ++ ['e', if e < 0 then '-' else '+'] ++ Nat.toDigits 10 e.natAbs

/-- The written form of a double. -/
def text (x : Binary64) : List Char :=
  let body := if x.units = 0 then ['0', '.', '0']
    else
      let (ds, e) := digits x.units
      layOut ds e
  if x.negative then '-' :: body else body

end Appliance.Decimal.Shortest
