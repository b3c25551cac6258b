import SearchKit.Value.Basic

/-!
# Weights of values

The weight of a value bounds how often something can be found within something else in it.

* `Value.weight`: the count of the parts of a value, texts counted by their characters.
-/

namespace SearchKit.Value

mutual

/-- The count of the parts of a value, texts counted by their characters. -/
def weight : Value → Nat
  | str s => s.length + 1
  | list xs | tuple xs | collection xs => weights xs + 1
  | dict es => entryWeights es + 1
  | model _ fields => fieldWeights fields + 1
  | keyed _ k => k.weight + 1
  | _ => 1

/-- The weight of the items of a list. -/
def weights : List Value → Nat
  | [] => 0
  | x :: xs => x.weight + weights xs

/-- The weight of the entries of a map. -/
def entryWeights : List (Value × Value) → Nat
  | [] => 0
  | (k, v) :: es => k.weight + v.weight + entryWeights es

/-- The weight of declared fields. -/
def fieldWeights : List (String × Value) → Nat
  | [] => 0
  | (_, v) :: fs => v.weight + fieldWeights fs

end

end SearchKit.Value
