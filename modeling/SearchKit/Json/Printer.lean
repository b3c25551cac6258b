import SearchKit.Value.Wording

/-!
# Writing JSON

Values are written compactly or with one member to a line.  Handles of the application's objects
have no written form.

* `Json.Layout`: the two layouts.
* `Json.write?`: the text of a value, unless it holds a handle.
-/

namespace SearchKit.Json

/-- Numbers in JSON: without an exponent from `0.00001` to below `10 ^ 16`, with an unpadded
exponent and its sign elsewhere; what is not finite has no form of its own. -/
def jsonNumber : NumberFormat where
  pointFrom := -4
  pointTo := 16
  signedExponent := true
  exponentWidth := 1
  nan := "null"
  infinity := "null"
  negativeInfinity := "null"

/-- How a text is laid out. -/
inductive Layout where
  /-- Without any blanks. -/
  | compact
  /-- One member to a line, each level indented by a number of spaces. -/
  | indented (width : Nat)
  deriving DecidableEq, Repr

/-- A character inside a JSON string: quotes, backslashes and controls are escaped. -/
def escapeChar (c : Char) : String :=
  match c with
  | '"' => "\\\""
  | '\\' => "\\\\"
  | '\x08' => "\\b"
  | '\x0c' => "\\f"
  | '\n' => "\\n"
  | '\r' => "\\r"
  | '\t' => "\\t"
  | c => if c.toNat < 0x20 then "\\u" ++ hexDigits 4 c.toNat else String.singleton c

/-- A text as a JSON string. -/
def writeString (s : String) : String :=
  "\"" ++ String.join (s.toList.map escapeChar) ++ "\""

mutual

/-- The name of a member for a key of a map.  A number has its plain form, unless it is not finite;
the parts of a tuple are joined.  Containers that can change and handles are no names. -/
def memberName? : Value → Option String
  | .str s => some s
  | .int n => some (toString n)
  | .bool b => some (if b then "true" else "false")
  | .null => some "None"
  | .float x => some (if x.isFinite then plainNumber.render x else "None")
  | .tuple xs => (memberNames? xs).map (",".intercalate ·)
  | _ => none

/-- The names of the parts of a tuple. -/
def memberNames? : List Value → Option (List String)
  | [] => some []
  | x :: xs => do return (← memberName? x) :: (← memberNames? xs)

end

namespace Layout

/-- The start of a new line at a depth. -/
def newline (layout : Layout) (depth : Nat) : String :=
  match layout with
  | compact => ""
  | indented width => "\n" ++ String.ofList (List.replicate (width * depth) ' ')

/-- What stands between a name and its value. -/
def colon : Layout → String
  | compact => ":"
  | indented _ => ": "

/-- The parts of a container between its brackets, one level deeper than the container. -/
def enclose (layout : Layout) (depth : Nat) (opening closing : String) (parts : List String) :
    String :=
  if parts.isEmpty then opening ++ closing
  else
    opening ++ layout.newline (depth + 1) ++
      ("," ++ layout.newline (depth + 1)).intercalate parts ++ layout.newline depth ++ closing

end Layout

mutual

/-- The text of a value at a depth. -/
def writeAt? (layout : Layout) (depth : Nat) : Value → Option String
  | .null => some "null"
  | .bool b => some (if b then "true" else "false")
  | .int n => some (toString n)
  | .float x => some (jsonNumber.render x)
  | .str s => some (writeString s)
  | .list xs | .tuple xs | .collection xs =>
    (writeItems? layout (depth + 1) xs).map (layout.enclose depth "[" "]")
  | .dict es => (writeEntries? layout (depth + 1) es).map (layout.enclose depth "\x7b" "\x7d")
  | .model _ fields =>
    (writeFields? layout (depth + 1) fields).map (layout.enclose depth "\x7b" "\x7d")
  | _ => none

/-- The texts of the items of a list. -/
def writeItems? (layout : Layout) (depth : Nat) : List Value → Option (List String)
  | [] => some []
  | x :: xs => do
    let head ← writeAt? layout depth x
    let tail ← writeItems? layout depth xs
    return head :: tail

/-- The texts of the members of a map. -/
def writeEntries? (layout : Layout) (depth : Nat) : List (Value × Value) → Option (List String)
  | [] => some []
  | (k, v) :: es => do
    let name ← memberName? k
    let value ← writeAt? layout depth v
    let tail ← writeEntries? layout depth es
    return (writeString name ++ layout.colon ++ value) :: tail

/-- The texts of declared fields. -/
def writeFields? (layout : Layout) (depth : Nat) : List (String × Value) → Option (List String)
  | [] => some []
  | (name, v) :: fs => do
    let value ← writeAt? layout depth v
    let tail ← writeFields? layout depth fs
    return (writeString name ++ layout.colon ++ value) :: tail

end

/-- The text of a value, unless it holds a handle. -/
def write? (layout : Layout) (v : Value) : Option String := writeAt? layout 0 v

end SearchKit.Json
