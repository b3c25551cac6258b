import SearchKit.Schema.Model

/-!
# Type expressions

What a parameter declares about its argument.

* `TypeExpr`: the expressions.
* `TypeExpr.unionOf`: a choice between expressions, flattened and without repetitions.
* `TypeExpr.read?`: the expression written in a text.
-/

namespace SearchKit

/-- What a parameter declares about its argument. -/
inductive TypeExpr where
  /-- Anything. -/
  | any
  /-- Null. -/
  | none
  | int
  | float
  | str
  | bool
  /-- A map, nothing said about its values. -/
  | dict
  /-- A list, nothing said about its items. -/
  | list
  /-- A tuple, nothing said about its items. -/
  | tuple
  /-- A value of one type, or null. -/
  | optional (t : TypeExpr)
  /-- A value of one of several types, perhaps null. -/
  | alternatives (ts : List TypeExpr)
  /-- A list, or a tuple, with items of a type. -/
  | listOf (t : TypeExpr)
  /-- A tuple whose items are of the type of the first. -/
  | tupleOf (t : TypeExpr)
  /-- A map with values of a type; the type of the keys has no effect. -/
  | dictOf (keys values : TypeExpr)
  /-- Structured data. -/
  | model (kind : ModelKind)
  /-- A sort direction. -/
  | direction
  /-- An object of the application, by the name of its interface. -/
  | handle (name : String)
  deriving BEq, Inhabited, Repr

namespace TypeExpr

/-- The expressions among which a choice is made. -/
def members : TypeExpr → List TypeExpr
  | optional t => [t, none]
  | alternatives ts => ts
  | t => [t]

/-- A choice between expressions. -/
def unionOf (ts : List TypeExpr) : TypeExpr :=
  let all := (ts.flatMap members).eraseDups
  match all with
  | [t] => t
  | _ => match all.filter (· != none) with
    | [t] => optional t
    | _ => alternatives all

/-! ### Reading -/

/-- A part of a written expression. -/
inductive Token where
  | name (s : String)
  | bar
  | comma
  | opening
  | closing
  deriving BEq, Repr

/-- The tokens of a written expression. -/
def tokens : Nat → List Char → Option (List Token)
  | 0, _ => some []
  | _, [] => some []
  | fuel + 1, c :: cs =>
    if c == ' ' then tokens fuel cs
    else if c == '|' then (tokens fuel cs).map (.bar :: ·)
    else if c == ',' then (tokens fuel cs).map (.comma :: ·)
    else if c == '[' then (tokens fuel cs).map (.opening :: ·)
    else if c == ']' then (tokens fuel cs).map (.closing :: ·)
    else
      let word (c : Char) : Bool := c.isAlphanum || c == '_' || c == '.'
      if word c then
        (tokens fuel (cs.dropWhile word)).map (.name (String.ofList (c :: cs.takeWhile word)) :: ·)
      else Option.none

/-- The expression of a name. -/
def ofName? (name : String) : Option TypeExpr :=
  match name with
  | "Any" => some any
  | "None" | "NoneType" => some none
  | "int" => some int
  | "float" => some float
  | "str" => some str
  | "bool" => some bool
  | "dict" => some dict
  | "list" => some list
  | "tuple" => some tuple
  | "SortDirection" => some direction
  | "Record" | "RecordSource" => some (handle name)
  | _ => (ModelKind.ofName? name).map model

/-- The expression of a name with arguments. -/
def ofApplication? (name : String) (args : List TypeExpr) : Option TypeExpr :=
  match name, args with
  | "list", [t] => some (listOf t)
  | "tuple", t :: _ => some (tupleOf t)
  | "dict", [k, v] => some (dictOf k v)
  | "Optional", [t] => some (unionOf [t, none])
  | "Union", ts => some (unionOf ts)
  | _, _ => Option.none

mutual

/-- A choice between expressions. -/
def readUnion : Nat → List Token → Option (TypeExpr × List Token)
  | 0, _ => Option.none
  | fuel + 1, ts => do
    let (t, rest) ← readOne fuel ts
    match rest with
    | .bar :: rest =>
      let (more, rest) ← readUnion fuel rest
      return (unionOf [t, more], rest)
    | rest => return (t, rest)

/-- A name, perhaps with arguments. -/
def readOne : Nat → List Token → Option (TypeExpr × List Token)
  | 0, _ => Option.none
  | fuel + 1, .name n :: .opening :: rest => do
    let (args, rest) ← readArgs fuel rest
    let t ← ofApplication? n args
    return (t, rest)
  | _ + 1, .name n :: rest => (ofName? n).map fun t => (t, rest)
  | _, _ => Option.none

/-- Arguments up to the closing bracket; an ellipsis says nothing about the type. -/
def readArgs : Nat → List Token → Option (List TypeExpr × List Token)
  | 0, _ => Option.none
  | fuel + 1, ts => do
    let (t, rest) ← match ts with
      | .name "..." :: rest => some (any, rest)
      | ts => readUnion fuel ts
    match rest with
    | .comma :: rest =>
      let (more, rest) ← readArgs fuel rest
      return (t :: more, rest)
    | .closing :: rest => return ([t], rest)
    | _ => Option.none

end

/-- The expression written in a text. -/
def read? (s : String) : Option TypeExpr := do
  let ts ← tokens (s.length + 1) s.toList
  match ← readUnion (2 * ts.length + 2) ts with
  | (t, []) => return t
  | _ => Option.none

end TypeExpr

end SearchKit
