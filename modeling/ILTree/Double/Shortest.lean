import ILTree.Double.Basic

/-!
# The fewest decimal digits that read back

Reading rounds to the nearest double, so each double stands for an interval of reals.  The
decimals with a fixed last place form a grid; the coarsest grid with a point in the interval has
the fewest digits, and of its points there the nearest to the double is taken, the upper one of
two that are equally near.

* `Interval`            the reals that read back as one double, in quarters of its last place;
* `Interval.onGrid?`    the point taken on the grid `10 ^ k`;
* `Double.shortest`     the first grid with such a point, from coarse to fine.
-/

namespace ILTree

/-- the number `digits * 10 ^ exponent` -/
structure Decimal where
  digits : Nat
  exponent : Int
  deriving DecidableEq

/-- the reals from `low` to `high`, about `mid`, in units of `2 ^ unit` -/
structure Interval where
  low : Nat
  mid : Nat
  high : Nat
  unit : Int
  /-- whether the ends belong to it -/
  closed : Bool

namespace Interval

/-- `2 ^ unit / 10 ^ k` as numerator and denominator -/
def scale (i : Interval) (k : Int) : Nat × Nat :=
  (Nat.pow 2 i.unit.toNat * Nat.pow 10 (-k).toNat,
    Nat.pow 2 (-i.unit).toNat * Nat.pow 10 k.toNat)

/-- whether `n * 10 ^ k` is in the interval -/
def mem (i : Interval) (k : Int) (n : Nat) : Bool :=
  let (num, den) := i.scale k
  if i.closed then i.low * num ≤ n * den && n * den ≤ i.high * num
  else i.low * num < n * den && n * den < i.high * num

/-- The two points of the grid `10 ^ k` next to the middle are tried: if the grid has a point in
the interval, one of these is. -/
def onGrid? (i : Interval) (k : Int) : Option Nat :=
  let (num, den) := i.scale k
  let below := i.mid * num / den
  match i.mem k below, i.mem k (below + 1) with
  | true, true => some (if 2 * i.mid * num < (2 * below + 1) * den then below else below + 1)
  | true, false => some below
  | false, true => some (below + 1)
  | false, false => none

/-- an exponent `k` with `10 ^ k` above the interval, as `2 ^ b < 10 ^ k` for a `k` above
`b * log 2 / log 10` -/
def start (i : Interval) : Int :=
  let b : Int := (i.high.log2 : Int) + 1 + i.unit
  b * 30103 / 100000 + 1

/-- the first hit on the grids `10 ^ k`, `10 ^ (k - 1)`, …; the last of `n` grids is cut off -/
def search (i : Interval) : Nat → Int → Decimal
  | 0, k =>
    let (num, den) := i.scale k
    ⟨i.mid * num / den, k⟩
  | n + 1, k =>
    match i.onGrid? k with
    | some d => ⟨d, k⟩
    | none => i.search n (k - 1)

end Interval

namespace Double

/-- Halfway to the neighbours; a half-way point reads as the neighbour with the even
significand. -/
def interval (d : Double) : Interval where
  low := 4 * d.significand - if d.isNarrowBelow then 1 else 2
  mid := 4 * d.significand
  high := 4 * d.significand + 2
  unit := d.power - 2
  closed := d.significand % 2 == 0

/-- 17 digits always suffice, so that 24 grids from the start are enough. -/
def shortest (d : Double) : Decimal := d.interval.search 24 d.interval.start

end Double

end ILTree
