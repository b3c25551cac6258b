import SearchKit.Json.Printer
import SearchKit.Session.Data

/-!
# JSON within a session

A sequence is written as the list of its items, which uses them up.  Data of declared shape may
have any depth, free data in it only a limited one.

* `settleFree`: free data with every sequence in it read, up to a depth.
* `settleDeclared`: data of a shape with every sequence in it read.
* `jsonOf`: the JSON text of a value.
-/

namespace SearchKit

/-- The greatest depth of free data that is written. -/
def freeDepth : Nat := 255

/-- The value has no JSON text. -/
def notWritable {α : Type} : Act α := throw (.misuse .notWritable)

/-- Entries with a step run on each value, after its key has proved to be the name of a member. -/
def mapMembers (step : Value → Act Value) (es : Entries) : Act Entries :=
  es.mapM fun e => do
    unless (Json.memberName? e.1).isSome do notWritable
    return (e.1, ← step e.2)

mutual

/-- Data of a shape with every sequence in it read.  What a shape leaves open is free data, and so
is what does not have its shape. -/
def settleDeclared (free : Value → Act Value) : Shape → Value → Act Value
  | .any, v => free v
  | .optional s, v => if v.isNull then return v else settleDeclared free s v
  | .listOf s, v => match v with
    | .list xs => do return .list (← xs.mapM (settleDeclared free s))
    | v => free v
  | .dictOf s, v => match v with
    | .dict es => do return .dict (← mapMembers (settleDeclared free s) es)
    | v => free v
  | .object kind fields, v => match v with
    | .model own values =>
      if own = kind then do return .model own (← settleValues free fields values) else free v
    | v => free v
  | .either first second, v => match v with
    | .model own _ => if own.name == first.name then settleDeclared free first v
      else settleDeclared free second v
    | v => free v
  | _, v => match v with
    | .str _ | .int _ | .null => return v
    | v => free v

/-- Declared fields with every sequence in them read. -/
def settleValues (free : Value → Act Value) :
    List (String × Shape × Option Value) → Fields → Act Fields
  | (_, s, _) :: shapes, (name, v) :: values => do
    let v ← settleDeclared free s v
    return (name, v) :: (← settleValues free shapes values)
  | _, values => return values

end

/-- Free data with every sequence in it read, up to a depth at which even a scalar counts. -/
def settleFree : Nat → Value → Act Value
  | 0, _ => notWritable
  | depth + 1, v => match v with
    | .null | .bool _ | .int _ | .float _ | .str _ => return v
    | .list xs | .tuple xs | .collection xs => do return .list (← xs.mapM (settleFree depth))
    | .iterator id => do return .list (← mapItems (.iterator id) (settleFree depth))
    | .dict es => do return .dict (← mapMembers (settleFree depth) es)
    | .model kind fields => settleDeclared (settleFree depth) kind.shape (.model kind fields)
    | _ => notWritable

/-- A fault on the way to a JSON text is told as the lack of one. -/
def asUnwritten {α : Type} (act : Act α) : Act α := do
  match ← caught act with
  | .ok a => return a
  | .error _ => notWritable

/-- The JSON text of a value, which reads every sequence in it. -/
def jsonOf (layout : Json.Layout) (v : Value) : Act String := do
  let settled ← asUnwritten <| match v with
    | .model kind _ => settleDeclared (settleFree freeDepth) kind.shape v
    | v => settleFree freeDepth v
  match Json.write? layout settled with
  | some s => return s
  | none => notWritable

end SearchKit
