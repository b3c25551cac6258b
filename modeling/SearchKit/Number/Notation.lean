import SearchKit.Number.Shortest

/-!
# Written forms of binary64 numbers

The digits are always the fewest that identify the number; where the point stands and when an
exponent is written is a choice of the format, kept in one record.

* `NumberFormat`: the choices of a format.
* `NumberFormat.render`: the written form.
-/

namespace SearchKit

/-- The choices of a written form of numbers. -/
structure NumberFormat where
  /-- The least place of the decimal point that is written without an exponent. -/
  pointFrom : Int
  /-- The greatest place of the decimal point that is written without an exponent. -/
  pointTo : Int
  /-- A positive exponent carries its sign. -/
  signedExponent : Bool
  /-- The least count of digits of an exponent. -/
  exponentWidth : Nat
  /-- The form of `nan`. -/
  nan : String
  /-- The form of positive infinity. -/
  infinity : String
  /-- The form of negative infinity. -/
  negativeInfinity : String

namespace NumberFormat

/-- The digits without the zeros at their end. -/
def trimZeros (digits : List Char) : List Char :=
  (digits.reverse.dropWhile (· == '0')).reverse

/-- An exponent with its sign and padding. -/
def exponent (f : NumberFormat) (e : Int) : String :=
  let digits := Nat.toDigits 10 e.natAbs
  let pad := List.replicate (f.exponentWidth - digits.length) '0'
  let sign := if e < 0 then "-" else if f.signedExponent then "+" else ""
  sign ++ String.ofList (pad ++ digits)

/-- The digits with the decimal point at `place`, counted from the first digit. -/
def layout (f : NumberFormat) (digits : List Char) (place : Int) : String :=
  if f.pointFrom ≤ place ∧ place ≤ f.pointTo then
    if place ≤ 0 then "0." ++ String.ofList (List.replicate (-place).toNat '0' ++ digits)
    else if digits.length ≤ place then
      String.ofList (digits ++ List.replicate (place.toNat - digits.length) '0') ++ ".0"
    else String.ofList (digits.take place.toNat) ++ "." ++ String.ofList (digits.drop place.toNat)
  else
    let lead := String.ofList (digits.take 1)
    let tail := digits.drop 1
    let fraction := if tail.isEmpty then "" else "." ++ String.ofList tail
    lead ++ fraction ++ "e" ++ f.exponent (place - 1)

/-- The written form of a number. -/
def render (f : NumberFormat) : Binary64 → String
  | .nan => f.nan
  | .infinite negative => if negative then f.negativeInfinity else f.infinity
  | .finite negative m e =>
    let sign := if negative then "-" else ""
    if m = 0 then sign ++ "0.0"
    else
      let (digits, place) := Binary64.shortest m e
      sign ++ f.layout (trimZeros (Nat.toDigits 10 digits)) place

end NumberFormat

/-- Numbers in running text: without an exponent from `0.0001` to below `10 ^ 16`, and with a
signed exponent of two digits or more elsewhere. -/
def plainNumber : NumberFormat where
  pointFrom := -3
  pointTo := 16
  signedExponent := true
  exponentWidth := 2
  nan := "nan"
  infinity := "inf"
  negativeInfinity := "-inf"

end SearchKit
