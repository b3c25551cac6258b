/-!
# Binary64 numbers

The numbers with a 53 bit significand, kept as sign, significand and power of two, so that
every operation is exact arithmetic on `Nat` and `Int` followed by one rounding.

* `Binary64.round`: the nearest number to a quotient, a tie going to the even significand.
* `Binary64.ofInt?`, `Binary64.ofDecimal`: rounding of integers and of decimal numerals.
* `Binary64.toInt?`, `Binary64.truncate?`: the integer a number is, and its integral part.
* `Binary64.sub`, `Binary64.mul`: difference and product, rounded once.
-/

namespace SearchKit

/-- The integer nearest to `num / den`; of two equally near ones, the even one. -/
def roundDiv (num den : Nat) : Nat :=
  let q := num / den
  let r := num % den
  if 2 * r < den then q
  else if den < 2 * r then q + 1
  else q + q % 2

/-- A binary64 number.  A finite number is `significand * 2 ^ exponent` with the sign given;
`round` makes the only ones in use, those with `significand < 2 ^ 53`, `-1074 ≤ exponent`, and
a significand of full width unless the exponent is least. -/
inductive Binary64 where
  /-- Not a number. -/
  | nan
  /-- An infinity. -/
  | infinite (negative : Bool)
  /-- A finite number, zero included. -/
  | finite (negative : Bool) (significand : Nat) (exponent : Int)
  deriving DecidableEq, Repr, Inhabited

namespace Binary64

/-- The least exponent. -/
def minExponent : Int := -1074

/-- The greatest exponent. -/
def maxExponent : Int := 971

/-- Zero with a sign. -/
def zero (negative : Bool) : Binary64 := .finite negative 0 minExponent

/-- The floor of the binary logarithm of `num / den`. -/
def floorLog (num den : Nat) : Int :=
  let k : Int := (Nat.log2 num : Int) - Nat.log2 den
  let below := if 0 ≤ k then num < den * Nat.pow 2 k.toNat else num * Nat.pow 2 (-k).toNat < den
  if below then k - 1 else k

/-- The number nearest to `num / den` (with `den` positive), a tie going to the even
significand; beyond the greatest number lies infinity. -/
def round (negative : Bool) (num den : Nat) : Binary64 :=
  if num = 0 then zero negative
  else
    let e := max (floorLog num den - 52) minExponent
    let q := if 0 ≤ e then roundDiv num (den * Nat.pow 2 e.toNat)
      else roundDiv (num * Nat.pow 2 (-e).toNat) den
    let (m, e) := if q = Nat.pow 2 53 then (Nat.pow 2 52, e + 1) else (q, e)
    if maxExponent < e then .infinite negative else
      if m = 0 then zero negative else .finite negative m e

/-- The value of `±digits * 10 ^ power`, rounded once.  Powers that put the value beyond both
ends of the range are cut short, which no rounding can notice. -/
def ofDecimal (negative : Bool) (digits : Nat) (power : Int) : Binary64 :=
  if digits = 0 then zero negative
  else
    let magnitude : Int := power + (Nat.toDigits 10 digits).length
    if 400 < magnitude then .infinite negative
    else if magnitude < -400 then zero negative
    else if 0 ≤ power then round negative (digits * Nat.pow 10 power.toNat) 1
    else round negative digits (Nat.pow 10 (-power).toNat)

/-- The nearest number to an integer, unless it lies beyond the range. -/
def ofInt? (n : Int) : Option Binary64 :=
  match round (n < 0) n.natAbs 1 with
  | .infinite _ => none
  | x => some x

/-- The number is zero, of either sign. -/
def isZero : Binary64 → Bool
  | .finite _ m _ => m = 0
  | _ => false

/-- The number is neither infinite nor `nan`. -/
def isFinite : Binary64 → Bool
  | .finite .. => true
  | _ => false

/-- The integral part of a finite number, cut toward zero. -/
def truncate? : Binary64 → Option Int
  | .finite neg m e =>
    let n : Nat := if 0 ≤ e then m * Nat.pow 2 e.toNat else m / Nat.pow 2 (-e).toNat
    some (if neg then -(n : Int) else n)
  | _ => none

/-- The integer that a number equals, if it equals one. -/
def toInt? : Binary64 → Option Int
  | .finite neg m e =>
    if 0 ≤ e ∨ m % Nat.pow 2 (-e).toNat = 0 then truncate? (.finite neg m e) else none
  | _ => none

/-- Equality as numbers: the zeros are equal and `nan` equals nothing. -/
def same : Binary64 → Binary64 → Bool
  | .nan, _ => false
  | _, .nan => false
  | x, y => x == y || (x.isZero && y.isZero)

/-- The number with its sign changed. -/
def neg : Binary64 → Binary64
  | .nan => .nan
  | .infinite s => .infinite (!s)
  | .finite s m e => .finite (!s) m e

/-- The signed significand at a smaller exponent. -/
def scaledTo (e : Int) (negative : Bool) (m : Nat) (own : Int) : Int :=
  let n : Int := (m * Nat.pow 2 (own - e).toNat : Nat)
  if negative then -n else n

/-- Difference, rounded once. -/
def sub : Binary64 → Binary64 → Binary64
  | .nan, _ | _, .nan => .nan
  | .infinite s, .infinite t => if s = t then .nan else .infinite s
  | .infinite s, .finite .. => .infinite s
  | .finite .., .infinite t => .infinite (!t)
  | .finite s m e, .finite t n f =>
    let low := min e f
    let d := scaledTo low s m e - scaledTo low t n f
    if d = 0 then zero (m = 0 && n = 0 && s && !t)
    else if 0 ≤ low then round (d < 0) (d.natAbs * Nat.pow 2 low.toNat) 1
    else round (d < 0) d.natAbs (Nat.pow 2 (-low).toNat)

/-- Product, rounded once. -/
def mul : Binary64 → Binary64 → Binary64
  | .nan, _ | _, .nan => .nan
  | .infinite s, .infinite t => .infinite (s != t)
  | .infinite s, .finite t n _ => if n = 0 then .nan else .infinite (s != t)
  | .finite s m _, .infinite t => if m = 0 then .nan else .infinite (s != t)
  | .finite s m e, .finite t n f =>
    let low := e + f
    if 0 ≤ low then round (s != t) (m * n * Nat.pow 2 low.toNat) 1
    else round (s != t) (m * n) (Nat.pow 2 (-low).toNat)

end Binary64

end SearchKit
