import SearchKit.Number.Binary64
import SearchKit.Text.Blank
import SearchKit.Text.DecimalDigit

/-!
# Numerals in text

Integers and decimals as people write them: white space around, a sign, digits of any script,
and a low line between two digits as a separator.

* `readInteger`: an integer, unless it is malformed or has too many digits.
* `hasNumeral`: an integer has no more digits than are written.
* `readDecimal?`: a binary64 number, also `inf`, `infinity` and `nan` in any case.
-/

namespace SearchKit

/-- Why a text is not the numeral of an integer in use. -/
inductive NumeralFault where
  /-- The text is not a numeral. -/
  | malformed
  /-- The numeral has more digits than are read or written. -/
  | tooLong
  deriving DecidableEq, Repr

/-- The greatest count of digits of an integer that is read or written. -/
def maxDigits : Nat := 4300

/-- An integer has no more digits than are written. -/
def hasNumeral (n : Int) : Bool := (Nat.toDigits 10 n.natAbs).length ≤ maxDigits

theorem hasNumeral_iff {n : Int} : hasNumeral n = true ↔ n.natAbs < Nat.pow 10 maxDigits := by
  rw [Nat.pow_eq, hasNumeral, decide_eq_true_iff,
    Nat.length_toDigits_le_iff (by decide) (by decide)]

theorem hasNumeral_of_pow_le {n : Nat} (h : Nat.pow 10 maxDigits ≤ n) :
    hasNumeral (.ofNat n) = false := by
  rw [Bool.eq_false_iff, ne_eq, hasNumeral_iff]
  exact Nat.not_lt.2 h

/-- The characters with every decimal digit of any script replaced by the ASCII one. -/
def plainDigits (cs : List Char) : List Char :=
  cs.map fun c => match digitValue? c with
    | some d => Char.ofNat (48 + d)
    | none => c

/-- The characters without the low lines between two digits; a low line elsewhere is refused. -/
def dropSeparators? : List Char → Option (List Char)
  | [] => some []
  | '_' :: _ => none
  | c :: '_' :: d :: rest =>
    if c.isDigit && d.isDigit then (dropSeparators? (d :: rest)).map (c :: ·) else none
  | c :: rest => (dropSeparators? rest).map (c :: ·)

/-- The value of a list of ASCII digits. -/
def digitsValue (cs : List Char) : Nat :=
  cs.foldl (fun n c => 10 * n + (c.toNat - 48)) 0

/-- A leading sign taken off; the flag says that it is a minus. -/
def takeSign : List Char → Bool × List Char
  | '-' :: rest => (true, rest)
  | '+' :: rest => (false, rest)
  | cs => (false, cs)

/-- The longest prefix of ASCII digits, and the rest. -/
def spanDigits (cs : List Char) : List Char × List Char :=
  (cs.takeWhile Char.isDigit, cs.dropWhile Char.isDigit)

/-- The integer written in a text. -/
def readInteger (s : String) : Except NumeralFault Int :=
  match dropSeparators? (plainDigits (trimBoth isWhite s.toList)) with
  | none => .error .malformed
  | some cs =>
    let (negative, cs) := takeSign cs
    let (digits, rest) := spanDigits cs
    if digits.isEmpty || !rest.isEmpty then .error .malformed
    else if maxDigits < digits.length then .error .tooLong
    else
      let n : Int := digitsValue digits
      .ok (if negative then -n else n)

/-- The number of a decimal given by the digits before and after its point and its exponent. -/
def decimalOf (negative : Bool) (whole fraction : List Char) (power : Int) : Binary64 :=
  .ofDecimal negative (digitsValue (whole ++ fraction)) (power - fraction.length)

/-- An exponent: nothing, or a mark, a sign and digits up to the end. -/
def readPower? : List Char → Option Int
  | [] => some 0
  | mark :: cs =>
    if mark == 'e' || mark == 'E' then
      let (negative, cs) := takeSign cs
      let (digits, rest) := spanDigits cs
      if digits.isEmpty || !rest.isEmpty then none
      else
        let n : Int := digitsValue digits
        some (if negative then -n else n)
    else none

/-- A decimal without sign and separators: digits with at most one point, at least one digit,
then an exponent. -/
def readUnsigned? (negative : Bool) (cs : List Char) : Option Binary64 :=
  let (whole, rest) := spanDigits cs
  let (fraction, rest) := match rest with
    | '.' :: rest => spanDigits rest
    | rest => ([], rest)
  if whole.isEmpty && fraction.isEmpty then none
  else (readPower? rest).map (decimalOf negative whole fraction)

/-- The binary64 number written in a text. -/
def readDecimal? (s : String) : Option Binary64 :=
  (dropSeparators? (plainDigits (trimBoth isWhite s.toList))).bind fun cs =>
    let (negative, cs) := takeSign cs
    match String.ofList (cs.map Char.toLower) with
    | "inf" | "infinity" => some (.infinite negative)
    | "nan" => some .nan
    | _ => readUnsigned? negative cs

end SearchKit
