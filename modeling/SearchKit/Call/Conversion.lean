import SearchKit.Call.TypeExpr
import SearchKit.Json.Reader
import SearchKit.Number.Numeral
import SearchKit.Session.Data

/-!
# Conversion of arguments

Arguments that arrive from a manifest or as data are brought to the declared type of their
parameter: texts that read as numbers become numbers, maps become structured data, and whatever
does not convert passes through as it is.

* `convertScalar`: the conversions between scalar types.
* `convert`: the conversion of a value to a type, items and entries included.
* `convertIn`: the same within a session, sequences being settled where lists are declared.
-/

namespace SearchKit

/-- The fault of a text that is not read as JSON. -/
def Json.ReadFault.fault : Json.ReadFault → Fault
  | .malformed => .misuse .notJson
  | .tooLong => .misuse .badValue
  | .tooDeep => .misuse .endless

/-- The texts that stand for a true value. -/
def trueTexts : List String := ["1", "true", "yes", "on"]

/-- An integer from a text or a number.  A text that is no integer and `nan` stay as they are; an
infinity has no integer. -/
def convertToInt : Value → Except Fault Value
  | .str s => match readInteger s with
    | .ok n => .ok (.int n)
    | .error _ => .ok (.str s)
  | .float x => match x with
    | .nan => .ok (.float .nan)
    | x => match x.truncate? with
      | some n => .ok (.int n)
      | none => .error (.misuse .outOfRange)
  | v => .ok v

/-- A number from a text or an integer.  A text that is no number stays as it is; an integer beyond
the range has no number. -/
def convertToFloat : Value → Except Fault Value
  | .str s => match readDecimal? s with
    | some x => .ok (.float x)
    | none => .ok (.str s)
  | .bool b => .ok (.float (.round false (if b then 1 else 0) 1))
  | .int n => match Binary64.ofInt? n with
    | some x => .ok (.float x)
    | none => .error (.misuse .outOfRange)
  | v => .ok v

/-- A text from a number, unless it has more digits than are written. -/
def convertToStr : Value → Value
  | .int n =>
    if hasNumeral n then .str (Value.int n).text else .int n
  | .float x => .str (Value.float x).text
  | .bool b => .str (Value.bool b).text
  | v => v

/-- A text that holds JSON read; any other text stays as it is, unless it is nested too deeply. -/
def convertToDict (s : String) : Except Fault Value :=
  match Json.read s (some maxDigits) with
  | .ok v => .ok v
  | .error .tooDeep => .error (Json.ReadFault.fault .tooDeep)
  | .error _ => .ok (.str s)

/-- The conversion to a scalar type. -/
def convertScalar : TypeExpr → Value → Except Fault Value
  | .int, v => convertToInt v
  | .float, v => convertToFloat v
  | .str, v => .ok (convertToStr v)
  | .bool, .str s =>
    let word := (trimBoth isBlank s.toList).map Char.toLower
    .ok (.bool (trueTexts.contains (String.ofList word)))
  | .dict, .str s => convertToDict s
  | _, v => .ok v

/-- Structured data from a map, or from a text that holds JSON. -/
def convertToModel (kind : ModelKind) : Value → Except Fault Value
  | .dict es => kind.ofValue (.dict es)
  | .str s => match Json.read s (some maxDigits) with
    | .ok v => kind.ofValue v
    | .error fault => .error fault.fault
  | v => .ok v

/-- The items of a list converted one by one. -/
def convertItems (f : Value → Except Fault Value) (v : Value) : Except Fault Value :=
  match v.asList? with
  | some xs => do return .list (← xs.mapM f)
  | none => .ok v

/-- The values of a map converted one by one. -/
def convertValues (f : Value → Except Fault Value) : Value → Except Fault Value
  | .dict es => do return .dict (← es.mapM fun e => do return (e.1, ← f e.2))
  | v => .ok v

/-- The conversion of a value to a type.  A choice between several types converts nothing. -/
def convert : TypeExpr → Value → Except Fault Value
  | .optional t, v => convert t v
  | .listOf t, v => convertItems (convert t) v
  | .tupleOf t, v => convertItems (convert t) v
  | .dictOf _ t, v => convertValues (convert t) v
  | .model kind, v => convertToModel kind v
  | t, v => convertScalar t v

/-- A value with every sequence settled that the conversion to a type would read. -/
def settleType : TypeExpr → Value → Act Value
  | .optional t, v => settleType t v
  | .listOf t, v | .tupleOf t, v => match v.asList? with
    | some xs => do return .list (← xs.mapM (settleType t))
    | none => return v
  | .dictOf _ t, v => match v with
    | .dict es => do return .dict (← mapEntries (settleType t) es)
    | v => return v
  | .model kind, v => match v with
    | .dict es => settleShape kind.shape (.dict es)
    | v => return v
  | _, v => return v

/-- The conversion of a value to a type within a session. -/
def convertIn (t : TypeExpr) (v : Value) : Act Value := do return ← convert t (← settleType t v)

end SearchKit
