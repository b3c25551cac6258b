import SearchKit.Json.Reader
import SearchKit.Value.Timestamp

/-!
# Tags of manifest nodes

What a node of a manifest stands for.  A plain scalar without a tag stands for what its text looks
like: a truth value, null, a number, a day or a time, or else a text.

* `Tag`: the tags, with `Tag.ofName` for their written names.
* `readTimestamp?`: the day or time written in a text.
* `Tag.ofPlain`: the tag of a plain scalar.
-/

namespace SearchKit.Yaml

/-- What a node stands for. -/
inductive Tag where
  | str
  | null
  | bool
  | int
  | float
  | timestamp
  | binary
  /-- The key whose value is merged into its mapping. -/
  | merge
  /-- The key of a default value. -/
  | default
  | seq
  | map
  /-- A map whose keys alone count. -/
  | set
  /-- A list of entries. -/
  | entries
  /-- Nothing that is known. -/
  | unknown
  deriving DecidableEq, Inhabited, Repr

/-- The start of the names of tags. -/
def tagRoot : String := "tag:yaml.org,2002:"

/-- The tags by the last part of their names. -/
def tagNames : List (String × Tag) := [
  ("str", .str), ("null", .null), ("bool", .bool), ("int", .int), ("float", .float),
  ("timestamp", .timestamp), ("binary", .binary), ("merge", .merge), ("value", .default),
  ("seq", .seq), ("map", .map), ("set", .set), ("omap", .entries), ("pairs", .entries)]

/-- The tag of a name. -/
def Tag.ofName (name : String) : Tag :=
  ((tagNames.find? fun t => tagRoot ++ t.1 == name).map (·.2)).getD .unknown

/-! ### Plain scalars -/

/-- The words for true and for false. -/
def trueWords : List String := ["yes", "true", "on"]

/-- The words for false. -/
def falseWords : List String := ["no", "false", "off"]

/-- A word in lower case, with a capital, or in upper case. -/
def isCased (words : List String) (s : String) : Bool :=
  words.any fun w =>
    s == w || s.toList == w.toList.map Char.toUpper ||
      match w.toList with
      | c :: cs => s.toList == c.toUpper :: cs
      | [] => false

/-- The text without a sign, and whether it was a minus. -/
def unsigned (s : List Char) : Bool × List Char := takeSign s

/-- A part of a number to base sixty: one digit, or two of which the first is below six. -/
def isSixtieth : List Char → Bool
  | [d] => d.isDigit
  | [t, d] => '0' ≤ t && t ≤ '5' && d.isDigit
  | _ => false

/-- The parts between colons. -/
def colonParts (cs : List Char) : List (List Char) := cs.splitOn ':'

/-- The character is a digit or a low line. -/
def isLineDigit (c : Char) : Bool := c.isDigit || c == '_'

/-- Digits and low lines that start with a digit. -/
def isDigits : List Char → Bool
  | c :: cs => c.isDigit && cs.all isLineDigit
  | [] => false

/-- Digits and low lines that start with a digit other than zero. -/
def isPositive : List Char → Bool
  | c :: cs => c.isDigit && c != '0' && cs.all isLineDigit
  | [] => false

/-- The text is an integer. -/
def isInteger (s : List Char) : Bool :=
  match (unsigned s).2 with
  | '0' :: 'b' :: ds => !ds.isEmpty && ds.all fun c => c == '0' || c == '1' || c == '_'
  | '0' :: 'x' :: ds => !ds.isEmpty && ds.all fun c => (Json.hexValue? c).isSome || c == '_'
  | ['0'] => true
  | '0' :: ds => ds.all fun c => ('0' ≤ c && c ≤ '7') || c == '_'
  | cs => match colonParts cs with
    | [ds] => isPositive ds
    | ds :: parts => isPositive ds && parts.all isSixtieth
    | [] => false

/-- An exponent with its sign, or nothing. -/
def isPower : List Char → Bool
  | [] => true
  | mark :: sign :: ds =>
    (mark == 'e' || mark == 'E') && (sign == '+' || sign == '-') && !ds.isEmpty &&
      ds.all Char.isDigit
  | _ => false

/-- A decimal with a point; before the point stand digits, or none of sign and digits. -/
def isDecimal (signed : Bool) (cs : List Char) : Bool :=
  match cs.span isLineDigit with
  | ([], '.' :: d :: rest) => !signed && d.isDigit && isPower (rest.dropWhile isLineDigit)
  | (whole, '.' :: rest) => isDigits whole && isPower (rest.dropWhile isLineDigit)
  | _ => false

/-- A decimal to base sixty: parts between colons, and a point after the last. -/
def isSexagesimal (cs : List Char) : Bool :=
  match cs.span (· != '.') with
  | (whole, '.' :: fraction) =>
    fraction.all isLineDigit && match colonParts whole with
      | first :: part :: parts => isDigits first && (part :: parts).all isSixtieth
      | _ => false
  | _ => false

/-- The text is a binary64 number. -/
def isFloat (s : List Char) : Bool :=
  let cs := (unsigned s).2
  let signed := cs.length != s.length
  isDecimal signed cs || isSexagesimal cs ||
    [".inf", ".Inf", ".INF"].any (·.toList == cs) ||
    (!signed && [".nan", ".NaN", ".NAN"].any (·.toList == cs))

/-! ### Days and times -/

/-- One or two digits, and the rest. -/
def takeTwo? : List Char → Option (Nat × List Char)
  | a :: b :: rest =>
    if a.isDigit && b.isDigit then some (digitsValue [a, b], rest)
    else if a.isDigit then some (digitsValue [a], b :: rest) else none
  | [a] => if a.isDigit then some (digitsValue [a], []) else none
  | [] => none

/-- Two digits after a mark, and the rest. -/
def takePairAfter? (mark : Char) : List Char → Option (Nat × List Char)
  | m :: a :: b :: rest =>
    if m == mark && a.isDigit && b.isDigit then some (digitsValue [a, b], rest) else none
  | _ => none

/-- The microseconds of a fraction, of which six digits count. -/
def microsOf (digits : List Char) : Nat :=
  digitsValue (digits.take 6 ++ List.replicate (6 - digits.length) '0')

/-- The blanks at the start of a text passed. -/
def dropBlanks (cs : List Char) : List Char := cs.dropWhile fun c => c == ' ' || c == '\t'

/-- The distance of a clock from universal time, written at the end of a time; none is known where
nothing is written. -/
def readZone? (cs : List Char) : Option (Option Int) :=
  match dropBlanks cs with
  | [] => if cs.isEmpty then some none else none
  | ['Z'] => some (some 0)
  | sign :: rest => do
    guard (sign == '+' || sign == '-')
    let (hours, rest) ← takeTwo? rest
    let minutes ← if rest.isEmpty then some 0 else do
      let (minutes, rest) ← takePairAfter? ':' rest
      guard rest.isEmpty
      some minutes
    let seconds : Int := 3600 * hours + 60 * minutes
    return some (if sign == '-' then -seconds else seconds)

/-- The time of day written in a text. -/
def readClock? (cs : List Char) : Option ClockTime := do
  let (hour, rest) ← takeTwo? cs
  let (minute, rest) ← takePairAfter? ':' rest
  let (second, rest) ← takePairAfter? ':' rest
  let (fraction, rest) := match rest with
    | '.' :: rest => spanDigits rest
    | rest => ([], rest)
  let offset ← readZone? rest
  return { hour, minute, second, micro := microsOf fraction, offset }

/-- What separates a day from a time passed: one letter, or blanks. -/
def dropDaySeparator? (cs : List Char) : Option (List Char) :=
  match cs with
  | c :: rest =>
    if c == 'T' || c == 't' then some rest
    else if c == ' ' || c == '\t' then some (dropBlanks rest) else none
  | [] => none

/-- The text without a line feed at its end. -/
def dropFinalFeed (cs : List Char) : List Char :=
  if cs.getLast? == some '\n' then cs.dropLast else cs

/-- The day or time written in a text, whether it exists or not. -/
def readTimestamp? (cs : List Char) : Option Timestamp :=
  match cs with
  | a :: b :: c :: d :: '-' :: rest => do
    guard ([a, b, c, d].all Char.isDigit)
    let (month, rest) ← takeTwo? rest
    let rest ← match rest with
      | '-' :: rest => some rest
      | _ => none
    let (day, rest) ← takeTwo? rest
    let time ← if rest.isEmpty then some none
      else ((dropDaySeparator? rest).bind readClock?).map some
    return { year := digitsValue [a, b, c, d], month, day, time }
  | _ => none

/-- A plain scalar looks like a day or a time.  A day alone has two digits for each part. -/
def isTimestamp (cs : List Char) : Bool :=
  match readTimestamp? cs with
  | some t => t.time.isSome || cs.length == 10
  | none => false

/-- The tag of a plain scalar; a line feed at its end does not count, unless it is all there is. -/
def Tag.ofPlain (text : String) : Tag :=
  let cs := if text == "\n" then ['\n'] else dropFinalFeed text.toList
  let s := String.ofList cs
  if isCased (trueWords ++ falseWords) s then .bool
  else if isFloat cs then .float
  else if isInteger cs then .int
  else if s == "<<" then .merge
  else if s == "" || s == "~" || isCased ["null"] s then .null
  else if isTimestamp cs then .timestamp
  else if s == "=" then .default
  else if ["!", "&", "*"].contains s then .unknown
  else .str

end SearchKit.Yaml
