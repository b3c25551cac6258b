import SearchKit.Number.Numeral

/-!
# Integers given as text

The texts that stand for an integer where structured data declares one: a plain numeral, or one
with white space around, a plus sign, zeros in front, a fraction of zeros or single low lines.  The
zeros in front may stand before the minus sign as well.

* `plainInteger`: a numeral of a minus sign and digits, without a zero in front.
* `tidied?`: a text with everything taken off that a plain numeral does not have.
* `integerOfText`: the integer of a text, or how the text fails.
-/

namespace SearchKit

/-- The integer of a plain numeral.  Digits beyond the limit are told before anything that may
follow them. -/
def plainInteger (cs : List Char) : Except NumeralFault Int :=
  let (negative, unsigned) := match cs with
    | '-' :: rest => (true, rest)
    | cs => (false, cs)
  let (digits, rest) := spanDigits unsigned
  match digits with
  | [] => .error .malformed
  | '0' :: _ :: _ => .error .malformed
  | digits =>
    if maxDigits < digits.length then .error .tooLong
    else if !rest.isEmpty then .error .malformed
    else
      let n : Int := digitsValue digits
      .ok (if negative then -n else n)

/-- The text without the zeros in front and the low lines between them; one zero stays before a
point or at the end.  The text has to start with a digit. -/
def dropLeadingZeros? : List Char → Option (List Char)
  | '0' :: rest => go '0' rest
  | c :: rest => if c.isDigit then some (c :: rest) else none
  | [] => none
where
  /-- The rest after the zeros, given the character before it. -/
  go (last : Char) : List Char → Option (List Char)
    | [] => some [last]
    | c :: rest =>
      if c == '0' || c == '_' then go c rest
      else if c.isDigit || c == '-' then some (c :: rest)
      else if c == '.' then some (last :: c :: rest)
      else none

/-- The text without a fraction of zeros. -/
def dropZeroFraction (cs : List Char) : List Char :=
  let whole := cs.takeWhile (· != '.')
  match cs.drop whole.length with
  | '.' :: zeros => if !zeros.isEmpty && zeros.all (· == '0') then whole else cs
  | _ => cs

/-- Whether two low lines stand next to each other. -/
def hasDoubleLine : List Char → Bool
  | '_' :: '_' :: _ => true
  | _ :: rest => hasDoubleLine rest
  | [] => false

/-- The text without low lines, if none is at an end and no two are next to each other. -/
def dropLowLines (cs : List Char) : List Char :=
  if cs.head? == some '_' || cs.getLast? == some '_' || hasDoubleLine cs then cs
  else cs.filter (· != '_')

/-- The sign in front of a text: a minus stays, a plus is dropped. -/
def splitSign : List Char → List Char × List Char
  | '-' :: rest => (['-'], rest)
  | '+' :: rest => ([], rest)
  | cs => ([], cs)

/-- A text with everything taken off that a plain numeral does not have, if that can be done. -/
def tidied? (cs : List Char) : Option (List Char) :=
  let (sign, unsigned) := splitSign cs
  (dropLeadingZeros? unsigned).map fun cs => sign ++ dropLowLines (dropZeroFraction cs)

/-- The integer that a text stands for. -/
def integerOfText (s : String) : Except NumeralFault Int :=
  let cs := trimBoth isWhite s.toList
  match plainInteger cs, tidied? cs with
  | .error .malformed, some tidy => plainInteger tidy
  | outcome, _ => outcome

end SearchKit
