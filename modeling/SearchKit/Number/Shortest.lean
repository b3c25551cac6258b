import SearchKit.Number.Binary64

/-!
# The fewest digits that identify a number

A decimal grid of step `10 ^ k` is tried from the coarsest on; the first one with a point in
the interval of reals that round to the number gives the digits.

* `Binary64.Interval`: the reals that round to a number, as integers over one denominator.
* `Binary64.shortest`: the digits and the place of the decimal point.
-/

namespace SearchKit

namespace Binary64

/-- The reals that round to a positive finite number, as numerators over `den`. -/
structure Interval where
  /-- The lower end. -/
  low : Nat
  /-- The number itself. -/
  mid : Nat
  /-- The upper end. -/
  high : Nat
  /-- The common denominator. -/
  den : Nat
  /-- The ends belong to the interval. -/
  closed : Bool

/-- The interval of `significand * 2 ^ exponent`: half a step to each side, and only a quarter
below when the number is the least of its binade. -/
def Interval.of (significand : Nat) (exponent : Int) : Interval :=
  let below := if significand = Nat.pow 2 52 ∧ minExponent < exponent then 1 else 2
  let up := Nat.pow 2 exponent.toNat
  { low := (4 * significand - below) * up
    mid := 4 * significand * up
    high := (4 * significand + 2) * up
    den := 4 * Nat.pow 2 (-exponent).toNat
    closed := significand % 2 = 0 }

/-- The real `n / d` lies in the interval. -/
def Interval.contains (i : Interval) (n d : Nat) : Bool :=
  let x := n * i.den
  if i.closed then i.low * d ≤ x && x ≤ i.high * d else i.low * d < x && x < i.high * d

/-- The place of the decimal point before which the digits of the number start: the least `k`
with the number below `10 ^ k`.  No number is below `10 ^ -330`. -/
def Interval.point (i : Interval) : Int :=
  ((Nat.toDigits 10 (i.mid * Nat.pow 10 330 / i.den)).length : Int) - 330

/-- The point of the grid of step `10 ^ k` nearest to the number among those two next to it
that identify it; of two equally near ones, the even one. -/
def Interval.onGrid? (i : Interval) (k : Int) : Option Nat :=
  let n := i.mid * Nat.pow 10 (-k).toNat
  let d := i.den * Nat.pow 10 k.toNat
  let q := n / d
  let r := n % d
  let hit (m : Nat) : Bool := i.contains (m * Nat.pow 10 k.toNat) (Nat.pow 10 (-k).toNat)
  match hit q, hit (q + 1) with
  | false, false => none
  | true, false => some q
  | false, true => some (q + 1)
  | true, true => some (if 2 * r < d then q else if d < 2 * r then q + 1 else q + q % 2)

/-- The fewest digits that identify a positive finite number, and the place of the decimal
point counted from the first digit.  Seventeen digits always suffice. -/
def shortest (significand : Nat) (exponent : Int) : Nat × Int :=
  let i := Interval.of significand exponent
  let p := i.point
  let grids := (List.range 17).map fun (count : Nat) => p - 1 - (count : Int)
  let found := grids.findSome? fun k => (i.onGrid? k).map fun digits => (digits, k)
  let (digits, k) := found.getD (i.mid * Nat.pow 10 17 / i.den, -17)
  (digits, k + (Nat.toDigits 10 digits).length)

end Binary64

end SearchKit
