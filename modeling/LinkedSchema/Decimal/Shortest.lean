/-!
# Shortest decimals

The shortest decimal that reads back as a given binary64 number, found in exact natural-number
arithmetic. A decimal with `n` digits is a point of a grid whose step is a power of ten. The reals
that round to the number form an interval around it, and if any point of a grid lies in that
interval then one of the number's two neighbours on the grid does, so only those are tried, for one
digit, two digits and so on.

* `Magnitude` — a number without its sign, as a mantissa and a power of two;
* `Rounding` — the interval of the reals that round to it;
* `Rounding.onGrid?` — the nearest grid point inside the interval;
* `shortest` — the digits and the power of ten of the shortest decimal.
-/

namespace LinkedSchema.Decimal

/-- The number `mantissa · 2 ^ exponent`. -/
structure Magnitude where
  mantissa : Nat
  exponent : Int
  /-- The next smaller number is only half a step away: the mantissa is a power of two. -/
  narrowBelow : Bool

/-- How many fractions fifty-two bits encode. -/
def fractionCount : Nat := 4503599627370496

/-- The magnitude that sixty-four bits encode: eleven bits of exponent, fifty-two of fraction. -/
def Magnitude.ofBits (bits : UInt64) : Magnitude :=
  let fraction : Nat := bits.toNat % fractionCount
  let biased : Nat := bits.toNat / fractionCount % 2048
  if biased = 0 then ⟨fraction, -1074, false⟩
  else ⟨fractionCount + fraction, Int.ofNat biased - 1075, fraction == 0 && 1 < biased⟩

/-- The reals that round to `centre / denominator`. The ends belong to it if `closed`. -/
structure Rounding where
  low : Nat
  centre : Nat
  high : Nat
  denominator : Nat
  closed : Bool

/-- Half a step to both sides, a quarter below a power of two. A tie rounds to the even mantissa. -/
def Rounding.ofMagnitude (m : Magnitude) : Rounding :=
  let scale := Nat.pow 2 (m.exponent - 2).toNat
  { low := (4 * m.mantissa - if m.narrowBelow then 1 else 2) * scale
    centre := 4 * m.mantissa * scale
    high := (4 * m.mantissa + 2) * scale
    denominator := Nat.pow 2 (2 - m.exponent).toNat
    closed := m.mantissa % 2 == 0 }

/-- The power of ten just above the number: `10 ^ (p - 1) ≤ centre / denominator < 10 ^ p`. The
factor moves even the smallest positive number above one. -/
def Rounding.point (r : Rounding) : Int :=
  (Nat.toDigits 10 (r.centre * Nat.pow 10 400 / r.denominator)).length - 400

/-- Whether `grid · 10 ^ power` rounds to the number. -/
def Rounding.contains (r : Rounding) (power : Int) (grid : Nat) : Bool :=
  let here := grid * Nat.pow 10 power.toNat * r.denominator
  let unit := Nat.pow 10 (-power).toNat
  if r.closed then r.low * unit ≤ here && here ≤ r.high * unit
  else r.low * unit < here && here < r.high * unit

/-- The point nearest to the number among those multiples of `10 ^ power` that round to it; of two
equally near the even one. -/
def Rounding.onGrid? (r : Rounding) (power : Int) : Option Nat :=
  let step := Nat.pow 10 power.toNat * r.denominator
  let target := r.centre * Nat.pow 10 (-power).toNat
  let below := target / step
  match r.contains power below, r.contains power (below + 1) with
  | true, true =>
      let toBelow := target - below * step
      let toAbove := (below + 1) * step - target
      if toBelow < toAbove || (toBelow == toAbove && below % 2 == 0) then some below
      else some (below + 1)
  | true, false => some below
  | false, true => some (below + 1)
  | false, false => none

/-- Digits `d₁ … dₙ` and a power `p` such that `0.d₁…dₙ · 10 ^ p` is the shortest decimal that
rounds to the positive magnitude. The last digit is not zero. -/
def shortest (m : Magnitude) : List Char × Int :=
  let r := Rounding.ofMagnitude m
  let found := (List.range 17).findSome? fun n : Nat =>
    let power := r.point - (n + 1)
    (r.onGrid? power).map (·, power)
  let (grid, power) := found.getD (r.centre / r.denominator, 0)
  let digits := Nat.toDigits 10 grid
  ((digits.reverse.dropWhile (· == '0')).reverse, power + digits.length)

end LinkedSchema.Decimal
