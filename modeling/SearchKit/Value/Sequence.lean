import SearchKit.Fault

/-!
# Values read as sequences, maps and texts

What a value gives when it is read item by item, what an item is when it is read as an entry of a
map, and the text that stands for a value.  A sequence that can be read once has to be settled into
a list before.

* `Value.items?`: the items of a value.
* `Value.entryOf`: an item read as an entry of a map.
* `Value.spell`: the text of a value that has one.
-/

namespace SearchKit.Value

/-- The items of a value.  A text gives its characters, a map its keys and structured data its
fields with their names. -/
def items? : Value → Option (List Value)
  | list xs | tuple xs | collection xs => some xs
  | str s => some (s.toList.map fun c => .str (String.singleton c))
  | dict es => some (es.map (·.1))
  | model _ fields => some (fields.map fun f => .tuple [.str f.1, f.2])
  | _ => none

/-- The items of a value that has to have some. -/
def items (v : Value) : Except Fault (List Value) :=
  match v.items? with
  | some xs => .ok xs
  | none => .error .wrongType

/-- An item read as an entry of a map: two values, the first of which can be a key. -/
def entryOf (v : Value) : Except Fault (Value × Value) :=
  match v.items? with
  | none => .error .wrongType
  | some [k, x] => if k.hashable then .ok (k, x) else .error .wrongType
  | some _ => .error (.misuse .badValue)

/-- The text of a value.  One with an integer too long to be written has none. -/
def spell (v : Value) : Except Fault String :=
  if v.hasText then .ok v.text else .error (.misuse .badValue)

theorem spell_of_hasText {v : Value} (h : v.hasText = true) : v.spell = .ok v.text := if_pos h

theorem spell_of_not_hasText {v : Value} (h : v.hasText = false) :
    v.spell = .error (.misuse .badValue) := if_neg (by simp [h])

theorem spell_eq_ok_iff {v : Value} {t : String} :
    v.spell = .ok t ↔ v.hasText = true ∧ t = v.text := by
  cases h : v.hasText with
  | true => simp [spell_of_hasText h, eq_comm]
  | false => simp [spell_of_not_hasText h]

@[simp] theorem spell_str (s : String) : (str s).spell = .ok s := spell_of_hasText (hasText_str s)

end SearchKit.Value
