import SearchKit.Value.Basic
import SearchKit.Number.Notation
import SearchKit.Number.Numeral
import SearchKit.Text.Printable

/-!
# Values in running text

How a value reads inside a message or as an identifier: a text stands for itself, and inside a
container it is quoted.  Integers are written only up to a count of digits; a value whose form holds
a longer one has no text.

* `quoteText`: a text in quotes, with escapes for what cannot be printed.
* `Value.quoted`, `Value.quotable`: the form inside a container, and whether it can be written.
* `Value.text`, `Value.hasText`: the form on its own, and whether it can be written.
-/

namespace SearchKit

/-- The lower case hexadecimal digits of `n`, padded with zeros to a width. -/
def hexDigits (width n : Nat) : String :=
  let digits := Nat.toDigits 16 n
  String.ofList (List.replicate (width - digits.length) '0' ++ digits)

/-- A character inside quotes: the backslash, the quote and everything unprintable is escaped. -/
def escapeChar (quote c : Char) : String :=
  if c == quote || c == '\\' then String.ofList ['\\', c]
  else if c == '\n' then "\\n"
  else if c == '\r' then "\\r"
  else if c == '\t' then "\\t"
  else if isPrintable c then String.singleton c
  else if c.toNat < 0x100 then "\\x" ++ hexDigits 2 c.toNat
  else if c.toNat < 0x10000 then "\\u" ++ hexDigits 4 c.toNat
  else "\\U" ++ hexDigits 8 c.toNat

/-- A text in single quotes, or in double ones when it holds single quotes only. -/
def quoteText (s : String) : String :=
  let cs := s.toList
  let quote := if cs.contains '\'' && !cs.contains '"' then '"' else '\''
  String.singleton quote ++ String.join (cs.map (escapeChar quote)) ++ String.singleton quote

/-- The name of a kind of structured data. -/
def ModelKind.name : ModelKind → String
  | .context => "Context"
  | .operation => "Operation"
  | .sortOrder => "SortOrder"
  | .rangeBound => "RangeBound"
  | .predicateSet => "PredicateSet"
  | .compiledQuery => "CompiledQuery"
  | .indexOperation => "IndexOperation"
  | .deleteOperation => "DeleteOperation"
  | .writeBatch => "WriteBatch"
  | .indexSettings => "IndexSettings"
  | .providerConfig => "ProviderConfig"
  | .componentConfig => "ComponentConfig"
  | .manifest => "Manifest"
  | .response => "Response"

/-- The form of a sort direction among declared fields. -/
def directionForm (direction : String) : String :=
  "<SortDirection." ++ direction.toUpper ++ ": " ++ quoteText direction ++ ">"

namespace Value

mutual

/-- The form of a value inside a container. -/
def quoted : Value → String
  | null => "None"
  | bool b => if b then "True" else "False"
  | int n => toString n
  | float x => plainNumber.render x
  | str s => quoteText s
  | timestamp t => t.form
  | list xs => "[" ++ ", ".intercalate (quotedAll xs) ++ "]"
  | collection xs => "[" ++ ", ".intercalate (quotedAll xs) ++ "]"
  | tuple xs => match quotedAll xs with
    | [one] => "(" ++ one ++ ",)"
    | many => "(" ++ ", ".intercalate many ++ ")"
  | dict es => "\x7b" ++ ", ".intercalate (quotedEntries es) ++ "\x7d"
  | model kind fields => kind.name ++ "(" ++ ", ".intercalate (quotedFields fields) ++ ")"
  | record _ label => "record:" ++ label
  | keyed _ key => "partial:" ++ quoted key
  | source name => "source:" ++ name
  | callback name => "callback:" ++ name
  | iterator id => "iterator:" ++ toString id

/-- The forms of the items of a container. -/
def quotedAll : List Value → List String
  | [] => []
  | x :: xs => quoted x :: quotedAll xs

/-- The forms of the entries of a map. -/
def quotedEntries : List (Value × Value) → List String
  | [] => []
  | (k, v) :: es => (quoted k ++ ": " ++ quoted v) :: quotedEntries es

/-- The forms of declared fields.  A direction is named as the choice it is. -/
def quotedFields : List (String × Value) → List String
  | [] => []
  | ("direction", .str d) :: fs => ("direction=" ++ directionForm d) :: quotedFields fs
  | (name, v) :: fs => (name ++ "=" ++ quoted v) :: quotedFields fs

end

mutual

/-- No integer in the form of a value inside a container is too long to be written. -/
def quotable : Value → Bool
  | int n => hasNumeral n
  | list xs | collection xs | tuple xs => quotableAll xs
  | dict es => quotableEntries es
  | model _ fields => quotableFields fields
  | keyed _ key => quotable key
  | _ => true

/-- None is in the forms of the items of a container. -/
def quotableAll : List Value → Bool
  | [] => true
  | x :: xs => quotable x && quotableAll xs

/-- None is in the forms of the entries of a map. -/
def quotableEntries : List (Value × Value) → Bool
  | [] => true
  | (k, v) :: es => quotable k && quotable v && quotableEntries es

/-- None is in the forms of declared fields. -/
def quotableFields : List (String × Value) → Bool
  | [] => true
  | (_, v) :: fs => quotable v && quotableFields fs

end

/-- The form of a request: its name and, in brackets, the names of its arguments if it has any. -/
def requestForm (name : Option String) (args : List String) : String :=
  if args.isEmpty then name.getD "" else name.getD "" ++ "(" ++ ", ".intercalate args ++ ")"

/-- The form of a value on its own. -/
def text : Value → String
  | str s => s
  | model .operation [(_, name), (_, args)] =>
    requestForm name.asStr? ((args.asDict?.getD []).map fun e => (e.1.asStr?).getD "")
  | keyed _ (str s) => "partial:" ++ s
  | model _ fields => " ".intercalate (quotedFields fields)
  | v => v.quoted

/-- No integer in the form of a value on its own is too long to be written.  The form of a request
holds none. -/
def hasText : Value → Bool
  | model .operation [_, _] => true
  | v => v.quotable

@[simp] theorem text_str (s : String) : (Value.str s).text = s := rfl

@[simp] theorem hasText_int (n : Int) : (Value.int n).hasText = hasNumeral n := by
  simp [hasText, quotable]

@[simp] theorem hasText_str (s : String) : (Value.str s).hasText = true := by
  simp [hasText, quotable]

end Value

end SearchKit
