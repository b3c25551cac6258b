import SearchKit.Yaml.Tag
import SearchKit.Fault

/-!
# Values of scalars

What the text of a scalar stands for under its tag.

* `integerValue`: an integer in one of five notations.
* `floatValue`: a binary64 number.
* `binaryValue`: the text that is written in base sixty-four.
* `scalarValue`: the value of a text under a tag.
-/

namespace SearchKit.Yaml

/-! ### Numbers -/

/-- The sign of a number and the rest of its text, of which something has to be there. -/
def splitNumber : List Char → Except Fault (Bool × List Char)
  | [] => .error (.misuse .noPlace)
  | cs => .ok (takeSign cs)

/-- The digits of a number in a base, the mark of the base in front of them passed. -/
def dropBaseMark (mark : Char) : List Char → List Char
  | '0' :: m :: rest => if m.toLower == mark then rest else '0' :: m :: rest
  | cs => cs

/-- The integer written in a base, perhaps after a mark of the base. -/
def readBase? (base : Nat) (mark : Char) (cs : List Char) : Option Int := do
  let (negative, cs) := takeSign (trimBoth isWhite cs)
  let digits ← (dropBaseMark mark (plainDigits cs)).mapM Json.hexValue?
  guard (!digits.isEmpty && digits.all (· < base))
  let n : Nat := digits.foldl (fun n d => base * n + d) 0
  return if negative then -(n : Int) else n

/-- The decimal integer of a part. -/
def readPart? (cs : List Char) : Option Int := (readInteger (String.ofList cs)).toOption

/-- The integer of a text: binary after `0b`, hexadecimal after `0x`, octal after a zero, to base
sixty with colons, else decimal. -/
def integerValue (s : String) : Except Fault Value := do
  let (negative, cs) ← splitNumber (s.toList.filter (· != '_'))
  let found ← match cs with
    | [] => throw (.misuse .noPlace)
    | ['0'] => pure (some 0)
    | '0' :: 'b' :: ds => pure (readBase? 2 'b' ds)
    | '0' :: 'x' :: ds => pure (readBase? 16 'x' ds)
    | '0' :: ds => pure (readBase? 8 'o' ('0' :: ds))
    | cs => pure ((colonParts cs).foldlM (fun n part => (readPart? part).map (60 * n + ·)) 0)
  match found with
  | some n => return .int (if negative then -n else n)
  | none => throw (.misuse .badValue)

/-- The sum of two binary64 numbers. -/
def plus (x y : Binary64) : Binary64 := x.sub y.neg

/-- The parts of a number to base sixty added up, the last one first.  The weight of a part has to be
in the range of the numbers. -/
def sixtyfold (parts : List Binary64) : Except Fault Binary64 :=
  parts.reverse.zipIdx.foldlM
    (fun acc part => match Binary64.round false (Nat.pow 60 part.2) 1 with
      | .infinite _ => .error (.misuse .outOfRange)
      | weight => .ok (plus acc (part.1.mul weight)))
    (.zero false)

/-- The binary64 number of a text. -/
def floatValue (s : String) : Except Fault Value := do
  let (negative, cs) ← splitNumber ((s.toList.filter (· != '_')).map Char.toLower)
  let signed (x : Binary64) : Except Fault Value := .ok (.float (if negative then x.neg else x))
  if cs == ".inf".toList then .ok (.float (.infinite negative))
  else if cs == ".nan".toList then .ok (.float .nan)
  else match (colonParts cs).mapM fun part => readDecimal? (String.ofList part) with
    | some [x] => signed x
    | some parts => do signed (← sixtyfold parts)
    | none => .error (.misuse .badValue)

/-! ### Base sixty-four -/

/-- The value of a digit to base sixty-four. -/
def sixtyFourth? (c : Char) : Option Nat :=
  if 'A' ≤ c ∧ c ≤ 'Z' then some (c.toNat - 65)
  else if 'a' ≤ c ∧ c ≤ 'z' then some (c.toNat - 71)
  else if '0' ≤ c ∧ c ≤ '9' then some (c.toNat + 4)
  else if c = '+' then some 62
  else if c = '/' then some 63
  else none

/-- The bytes of digits up to the padding, gathered backwards, with what is left of the digits read
so far: their count and their bits.  What is no digit is passed. -/
def readSixtyFour : Nat → Nat → List UInt8 → List Char → Option (List UInt8)
  | 0, _, acc, [] => some acc.reverse
  | _, _, _, [] => none
  | count, bits, acc, c :: cs =>
    if c == '=' then
      if count == 3 || (count == 2 && (cs.filter fun c => c == '=' || (sixtyFourth? c).isSome).head?
          == some '=') then some acc.reverse
      else readSixtyFour count bits acc cs
    else match sixtyFourth? c with
      | none => readSixtyFour count bits acc cs
      | some d => match count with
        | 0 => readSixtyFour 1 d acc cs
        | 1 => readSixtyFour 2 (d % 16) ((bits * 4 + d / 16).toUInt8 :: acc) cs
        | 2 => readSixtyFour 3 (d % 4) ((bits * 16 + d / 4).toUInt8 :: acc) cs
        | _ => readSixtyFour 0 0 ((bits * 64 + d).toUInt8 :: acc) cs

/-- The text that is written in base sixty-four; bytes that make no text count one by one. -/
def binaryValue (s : String) : Except Fault Value :=
  match if s.toList.all fun c => c.toNat < 128 then readSixtyFour 0 0 [] s.toList else none with
  | none => .error .unreadable
  | some bytes => .ok <| .str <| match String.fromUTF8? ⟨bytes.toArray⟩ with
    | some text => text
    | none => String.ofList (bytes.map fun b => if b < 128 then Char.ofNat b.toNat else '\uFFFD')

/-! ### All scalars -/

/-- The truth value of a word. -/
def boolValue (text : String) : Except Fault Value :=
  let word := String.ofList (text.toList.map Char.toLower)
  if trueWords.contains word then .ok (.bool true)
  else if falseWords.contains word then .ok (.bool false)
  else .error (.misuse .noKey)

/-- The day or time of a text, which has to exist. -/
def timestampValue (text : String) : Except Fault Value :=
  match readTimestamp? (dropFinalFeed text.toList) with
  | none => .error .noPart
  | some t => if t.isValid then .ok (.timestamp t) else .error (.misuse .badValue)

/-- The value of a text under a tag that scalars can have. -/
def scalarValue (tag : Tag) (text : String) : Except Fault Value :=
  match tag with
  | .str => .ok (.str text)
  | .null => .ok .null
  | .bool => boolValue text
  | .int => integerValue text
  | .float => floatValue text
  | .timestamp => timestampValue text
  | .binary => binaryValue text
  | _ => .error .unreadable

end SearchKit.Yaml
