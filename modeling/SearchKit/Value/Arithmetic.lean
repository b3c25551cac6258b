import SearchKit.Fault

/-!
# Arithmetic on values

Difference and product of values that need not be numbers of one type: truth values count as 0 and
1, an integer beside a binary64 number is rounded to one, and an integer times a text or a list
repeats it.

* `Value.minus`, `Value.times`: the two operations.
-/

namespace SearchKit.Value

/-- A number as one of the two number types. -/
inductive Numeral where
  | int (n : Int)
  | float (x : Binary64)

/-- The number of a value. -/
def asNumeral? : Value → Option Numeral
  | bool b => some (.int (if b then 1 else 0))
  | int n => some (.int n)
  | float x => some (.float x)
  | _ => none

/-- An integer as a binary64 number. -/
def toBinary64 (n : Int) : Except Fault Binary64 :=
  match Binary64.ofInt? n with
  | some x => .ok x
  | none => .error (.misuse .outOfRange)

/-- An operation on numbers, carried out on integers where both are, else on binary64 numbers. -/
def onNumerals (onInt : Int → Int → Int) (onFloat : Binary64 → Binary64 → Binary64) :
    Numeral → Numeral → Except Fault Value
  | .int m, .int n => .ok (.int (onInt m n))
  | .int m, .float y => do return .float (onFloat (← toBinary64 m) y)
  | .float x, .int n => do return .float (onFloat x (← toBinary64 n))
  | .float x, .float y => .ok (.float (onFloat x y))

/-- The difference of two numbers. -/
def minus (v w : Value) : Except Fault Value :=
  match v.asNumeral?, w.asNumeral? with
  | some a, some b => onNumerals (· - ·) Binary64.sub a b
  | _, _ => .error .wrongType

/-- The most items that the repetition of a list or the text can have.  It stands for the memory of
the environment. -/
def maxRepetition : Nat := Nat.pow 2 32

/-- The value repeated, if it is a text or a list.  The count has to fit a word of sixty-four bits
with its sign, and the outcome into memory. -/
def repeated (count : Int) (v : Value) : Except Fault Value := do
  let length ← match v with
    | str s => pure s.length
    | list xs | collection xs | tuple xs => pure xs.length
    | _ => throw .wrongType
  if count < -(Nat.pow 2 63 : Int) || Nat.pow 2 63 ≤ count then throw (.misuse .outOfRange)
  if maxRepetition < count.toNat * length then
    throw (.misuse (if v.asStr?.isSome && Nat.pow 2 63 ≤ count.toNat * length then .outOfRange
      else .noMemory))
  let times := if length = 0 then 0 else count.toNat
  match v with
  | str s => return str (String.join (List.replicate times s))
  | tuple xs => return tuple (List.replicate times xs).flatten
  | v => return list (List.replicate times (v.asList?.getD [])).flatten

/-- The product of two numbers, or a repetition. -/
def times (v w : Value) : Except Fault Value :=
  match v.asNumeral?, w.asNumeral? with
  | some a, some b => onNumerals (· * ·) Binary64.mul a b
  | some (.int n), none => repeated n w
  | none, some (.int n) => repeated n v
  | _, _ => .error .wrongType

end SearchKit.Value
