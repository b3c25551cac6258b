import SearchKit.Value.Basic
import SearchKit.Number.Numeral

/-!
# Reading JSON

A reader that keeps the order of the members of an object; of two members of one name the later
wins in the place of the earlier.  Numbers with a fraction or an exponent are binary64, others
integers of any size; `NaN` and the two infinities are read as well.

* `Json.read`: the value of a whole text.
* `Json.ReadFault`: the text is malformed, an integer in it has too many digits, or it is nested too
  deeply.
-/

namespace SearchKit.Json

/-- Why a text is not read. -/
inductive ReadFault where
  /-- The text is not JSON. -/
  | malformed
  /-- An integer has more digits than are read. -/
  | tooLong
  /-- The lists and objects are nested too deeply. -/
  | tooDeep
  deriving DecidableEq, Repr

/-- The text without the blanks at its start. -/
def skipBlanks (cs : List Char) : List Char :=
  cs.dropWhile fun c => c == ' ' || c == '\t' || c == '\n' || c == '\r'

/-- The value of a hexadecimal digit. -/
def hexValue? (c : Char) : Option Nat :=
  if '0' ≤ c ∧ c ≤ '9' then some (c.toNat - 48)
  else if 'a' ≤ c ∧ c ≤ 'f' then some (c.toNat - 87)
  else if 'A' ≤ c ∧ c ≤ 'F' then some (c.toNat - 55)
  else none

/-- Four hexadecimal digits. -/
def readUnit? : List Char → Option (Nat × List Char)
  | a :: b :: c :: d :: rest => do
    let a ← hexValue? a
    let b ← hexValue? b
    let c ← hexValue? c
    let d ← hexValue? d
    some (((a * 16 + b) * 16 + c) * 16 + d, rest)
  | _ => none

/-- The character of a code unit and perhaps a second one after it; a unit that stands for no
character alone becomes the replacement character. -/
def readEscapedChar? (cs : List Char) : Option (Char × List Char) :=
  match readUnit? cs with
  | none => none
  | some (unit, rest) =>
    if 0xD800 ≤ unit ∧ unit < 0xDC00 then
      match rest with
      | '\\' :: 'u' :: more => match readUnit? more with
        | some (low, more) =>
          if 0xDC00 ≤ low ∧ low < 0xE000 then
            some (Char.ofNat (0x10000 + (unit - 0xD800) * 0x400 + (low - 0xDC00)), more)
          else some ('\uFFFD', rest)
        | none => some ('\uFFFD', rest)
      | _ => some ('\uFFFD', rest)
    else if 0xDC00 ≤ unit ∧ unit < 0xE000 then some ('\uFFFD', rest)
    else some (Char.ofNat unit, rest)

/-- The character of a one letter escape. -/
def shortEscape? : Char → Option Char
  | '"' => some '"'
  | '\\' => some '\\'
  | '/' => some '/'
  | 'b' => some '\x08'
  | 'f' => some '\x0c'
  | 'n' => some '\n'
  | 'r' => some '\r'
  | 't' => some '\t'
  | _ => none

/-- The characters of a string up to its closing quote, gathered backwards. -/
def readChars : Nat → List Char → List Char → Except ReadFault (String × List Char)
  | 0, _, _ => .error .malformed
  | _, _, [] => .error .malformed
  | _ + 1, acc, '"' :: rest => .ok (String.ofList acc.reverse, rest)
  | fuel + 1, acc, '\\' :: 'u' :: rest => match readEscapedChar? rest with
    | some (c, rest) => readChars fuel (c :: acc) rest
    | none => .error .malformed
  | fuel + 1, acc, '\\' :: e :: rest => match shortEscape? e with
    | some c => readChars fuel (c :: acc) rest
    | none => .error .malformed
  | fuel + 1, acc, c :: rest =>
    if c.toNat < 0x20 then .error .malformed else readChars fuel (c :: acc) rest

/-- A fraction: a point and digits.  Anything else is left in the text. -/
def takeFraction : List Char → List Char × List Char
  | '.' :: cs => match spanDigits cs with
    | ([], _) => ([], '.' :: cs)
    | (digits, rest) => (digits, rest)
  | cs => ([], cs)

/-- An exponent with its sign; anything else is left in the text. -/
def takePower : List Char → Option Int × List Char
  | mark :: cs =>
    if mark == 'e' || mark == 'E' then
      let (negative, tail) := takeSign cs
      match spanDigits tail with
      | ([], _) => (none, mark :: cs)
      | (digits, rest) =>
        let n : Int := digitsValue digits
        (some (if negative then -n else n), rest)
    else (none, mark :: cs)
  | [] => (none, [])

/-- A number after its sign. -/
def readNumber (limit : Option Nat) (negative : Bool) (cs : List Char) :
    Except ReadFault (Value × List Char) :=
  let (whole, rest) := match cs with
    | '0' :: rest => (['0'], rest)
    | cs => spanDigits cs
  if whole.isEmpty then .error .malformed
  else
    let (fraction, rest) := takeFraction rest
    let (power, rest) := takePower rest
    if fraction.isEmpty && power.isNone then
      if limit.any fun most => decide (most < whole.length) then .error .tooLong
      else
        let n : Int := digitsValue whole
        .ok (.int (if negative then -n else n), rest)
    else .ok (.float (decimalOf negative whole fraction (power.getD 0)), rest)

/-- The rest of the text after a word, if it starts with it. -/
def stripWord? (word : String) (cs : List Char) : Option (List Char) :=
  if word.toList.isPrefixOf cs then some (cs.drop word.length) else none

/-- The words that stand for a value. -/
def words : List (String × Value) := [
  ("null", .null), ("true", .bool true), ("false", .bool false), ("NaN", .float .nan),
  ("Infinity", .float (.infinite false)), ("-Infinity", .float (.infinite true))]

/-- A word, or a number. -/
def readAtom (limit : Option Nat) (cs : List Char) : Except ReadFault (Value × List Char) :=
  match words.findSome? fun w => (stripWord? w.1 cs).map fun rest => (w.2, rest) with
  | some parsed => .ok parsed
  | none => match cs with
    | '-' :: rest => readNumber limit true rest
    | cs => readNumber limit false cs

/-- The most lists and objects around a value.  It stands for the depth of calls that the environment
allows, a thousand, without those that are open when a text is read. -/
def maxDepth : Nat := 985

mutual

/-- A value, with fuel for the depth and length of what is read, within a count of lists and
objects. -/
def readValue (limit : Option Nat) :
    Nat → Nat → List Char → Except ReadFault (Value × List Char)
  | 0, _, _ => .error .malformed
  | _ + 1, _, '"' :: rest => do
    let (s, rest) ← readChars (rest.length + 1) [] rest
    return (.str s, rest)
  | fuel + 1, depth, '[' :: rest =>
    if maxDepth ≤ depth then .error .tooDeep
    else match skipBlanks rest with
      | ']' :: rest => .ok (.list [], rest)
      | rest => readItems limit fuel (depth + 1) [] rest
  | fuel + 1, depth, '\x7b' :: rest =>
    if maxDepth ≤ depth then .error .tooDeep
    else match skipBlanks rest with
      | '\x7d' :: rest => .ok (.dict [], rest)
      | rest => readMembers limit fuel (depth + 1) [] rest
  | _ + 1, _, cs => readAtom limit cs

/-- The items of a list up to its closing bracket, gathered backwards. -/
def readItems (limit : Option Nat) :
    Nat → Nat → List Value → List Char → Except ReadFault (Value × List Char)
  | 0, _, _, _ => .error .malformed
  | fuel + 1, depth, acc, cs => do
    let (x, rest) ← readValue limit fuel depth (skipBlanks cs)
    match skipBlanks rest with
    | ',' :: rest => readItems limit fuel depth (x :: acc) rest
    | ']' :: rest => return (.list (x :: acc).reverse, rest)
    | _ => throw .malformed

/-- The members of an object up to its closing brace, gathered backwards. -/
def readMembers (limit : Option Nat) :
    Nat → Nat → Entries → List Char → Except ReadFault (Value × List Char)
  | 0, _, _, _ => .error .malformed
  | fuel + 1, depth, acc, cs => match skipBlanks cs with
    | '"' :: rest => do
      let (name, rest) ← readChars (rest.length + 1) [] rest
      match skipBlanks rest with
      | ':' :: rest =>
        let (x, rest) ← readValue limit fuel depth (skipBlanks rest)
        let acc := (.str name, x) :: acc
        match skipBlanks rest with
        | ',' :: rest => readMembers limit fuel depth acc rest
        | '\x7d' :: rest => return (.dict (Assoc.ofList acc.reverse), rest)
        | _ => throw .malformed
      | _ => throw .malformed
    | _ => .error .malformed

end

/-- The value of a text.  An integer may have at most `limit` digits. -/
def read (s : String) (limit : Option Nat) : Except ReadFault Value := do
  let cs := s.toList
  let (v, rest) ← readValue limit (2 * cs.length + 2) 0 (skipBlanks cs)
  if (skipBlanks rest).isEmpty then return v else throw .malformed

end SearchKit.Json
