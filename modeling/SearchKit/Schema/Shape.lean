import SearchKit.Fault
import SearchKit.Schema.IntegerText

/-!
# Shapes of structured data

A shape says what a declared field may hold; checking a value against a shape gives the value
that is stored, or every misfit in the order of the declarations.

* `Shape`: the shapes, with `Shape.object` for data with declared fields.
* `Shape.check`: the check.  Fields that are not declared are ignored, absent ones take their
  default, and an integer may be given as a whole number or a text.
* `gather_eq_ok_iff`: a list of checks succeeds when each one does.
-/

namespace SearchKit

/-- What a field may hold. -/
inductive Shape where
  /-- Anything. -/
  | any
  /-- A text. -/
  | str
  /-- An integer. -/
  | int
  /-- Something that can be called. -/
  | callable
  /-- A sort direction. -/
  | direction
  /-- Null, or a value of a shape. -/
  | optional (s : Shape)
  /-- A list with items of a shape.  A sequence in its place has been read to its end before; one
  that is still open could not be read. -/
  | listOf (s : Shape)
  /-- A map with text keys and values of a shape. -/
  | dictOf (s : Shape)
  /-- Structured data: its kind and its fields, each with a shape and perhaps a default. -/
  | object (kind : ModelKind) (fields : List (String × Shape × Option Value))
  /-- A value of the first shape, else of the second. -/
  | either (first second : Shape)
  deriving Inhabited

namespace Shape

/-- The result of a check: what is stored, or every misfit. -/
abbrev Checked (α : Type) := Except (List Issue) α

/-- One misfit at the value itself. -/
def misfit (m : Misfit) : Checked α := .error [⟨[], m⟩]

/-- A misfit seen from outside the part it is in. -/
def under (step : Step) (i : Issue) : Issue := { i with path := step :: i.path }

/-- The result of a part, its misfits seen from outside. -/
def within (step : Step) : Checked α → Checked α
  | .ok a => .ok a
  | .error issues => .error (issues.map (under step))

/-- All results of a list of checks, or the misfits of all that fail. -/
def gather : List (Checked α) → Checked (List α)
  | [] => .ok []
  | .ok a :: rest => (gather rest).map (a :: ·)
  | .error issues :: rest => match gather rest with
    | .ok _ => .error issues
    | .error more => .error (issues ++ more)

theorem gather_eq_ok_iff {xs : List (Checked α)} {ys : List α} :
    gather xs = .ok ys ↔ xs = ys.map .ok := by
  induction xs generalizing ys with
  | nil => cases ys <;> simp [gather]
  | cons x xs ih =>
    cases x with
    | ok a =>
      cases h : gather xs with
      | ok zs =>
        have hz := ih.1 h
        cases ys with
        | nil => simp [gather, h, Except.map]
        | cons y ys =>
          simp only [gather, h, Except.map, Except.ok.injEq, List.cons.injEq, List.map_cons]
          refine and_congr_right fun _ => ⟨fun e => e ▸ hz, fun e => ?_⟩
          have := ih.2 e
          rw [h] at this
          exact Except.ok.inj this
      | error issues =>
        cases ys with
        | nil => simp [gather, h, Except.map]
        | cons y ys =>
          simp only [gather, h, Except.map, List.map_cons, List.cons.injEq, reduceCtorEq,
            false_iff, not_and]
          intro _ e
          have := ih.2 e
          simp [h] at this
    | error issues =>
      cases h : gather xs <;> cases ys <;> simp [gather, h]

/-- The bound of the integers of one machine word, without their sign. -/
def integerBound : Int := Nat.pow 2 63

/-- The step to the value of a key.  Integers of one word and truth values are steps by number,
other keys that are no text are named by their form. -/
def stepOf : Value → Step
  | .str s => .key s
  | .int n =>
    if -integerBound ≤ n ∧ n < integerBound then .index n else .key (Value.int n).quoted
  | .bool b => .index (if b then 1 else 0)
  | k => .key k.quoted

/-- An integer: as it is, from a truth value, a whole number or a text. -/
def checkInt : Value → Checked Value
  | .int n => .ok (.int n)
  | .bool b => .ok (.int (if b then 1 else 0))
  | .float x => match x.toInt? with
    | some n =>
      if -integerBound < n ∧ n < integerBound then .ok (.int n) else misfit .integerTextSize
    | none => misfit (if x.isFinite then .integerFraction else .notFinite)
  | .str s => match integerOfText s with
    | .ok n => .ok (.int n)
    | .error .malformed => misfit .integerText
    | .error .tooLong => misfit .integerTextSize
  | _ => misfit .notInteger

/-- The items of a value in place of a list.  Texts and maps do not stand for lists; structured
data lists its fields. -/
def listItems? : Value → Option (List Value)
  | .list xs | .tuple xs | .collection xs => some xs
  | .model _ fields => some (fields.map fun f => .tuple [.str f.1, f.2])
  | _ => none

/-- The items of a list, each checked. -/
def checkItems (check : Value → Checked Value) (xs : List Value) : Checked (List Value) :=
  gather (xs.zipIdx.map fun (x, i) => within (.index i) (check x))

/-- One entry of a map with text keys: a misfit of the key stands before those of the value. -/
def checkEntry (check : Value → Checked Value) (e : Value × Value) : Checked (Value × Value) :=
  let key : Checked Unit := match e.1 with
    | .str _ => .ok ()
    | k => .error [⟨[stepOf k, .key "[key]"], .notString⟩]
  match key, within (stepOf e.1) (check e.2) with
  | .ok _, .ok v => .ok (e.1, v)
  | .error a, .error b => .error (a ++ b)
  | .error a, .ok _ => .error a
  | .ok _, .error b => .error b

/-- The name of a shape among alternatives. -/
def name : Shape → String
  | object kind _ => kind.name
  | _ => ""

mutual

/-- A value checked against a shape. -/
def check : Shape → Value → Checked Value
  | any, v => .ok v
  | str, v => match v with
    | .str s => .ok (.str s)
    | _ => misfit .notString
  | int, v => checkInt v
  | callable, v => match v with
    | .callback name => .ok (.callback name)
    | _ => misfit .notCallable
  | direction, v => match v with
    | .str s => if s = "asc" ∨ s = "desc" then .ok (.str s) else misfit .notChoice
    | _ => misfit .notChoice
  | optional s, v => match v with
    | .null => .ok .null
    | v => check s v
  | listOf s, v => match v, listItems? v with
    | .iterator _, _ => .error [⟨[.index 0], .unreadableItem⟩]
    | _, some xs => (checkItems (check s) xs).map .list
    | _, none => misfit .notList
  | dictOf s, v => match v with
    | .dict es => (gather (es.map (checkEntry (check s)))).map .dict
    | _ => misfit .notDict
  | object kind fields, v => match v with
    | .dict es => (checkFields fields es).map (.model kind)
    | .model own values => if own = kind then .ok (.model own values) else misfit .notModel
    | _ => misfit .notModel
  | either first second, v => match check first v, check second v with
    | .ok a, _ => .ok a
    | .error _, .ok b => .ok b
    | .error a, .error b =>
      .error (a.map (under (.key first.name)) ++ b.map (under (.key second.name)))

/-- The declared fields of structured data, given the entries of a map. -/
def checkFields : List (String × Shape × Option Value) → Entries → Checked Fields
  | [], _ => .ok []
  | (name, s, fallback) :: rest, es =>
    let own : Checked Value := match es.field? name, fallback with
      | some v, _ => within (.key name) (check s v)
      | none, some v => .ok v
      | none, none => .error [⟨[.key name], .missing⟩]
    match own, checkFields rest es with
    | .ok v, .ok more => .ok ((name, v) :: more)
    | .error a, .error b => .error (a ++ b)
    | .error a, .ok _ => .error a
    | .ok _, .error b => .error b

end

@[simp] theorem check_any (v : Value) : any.check v = .ok v := by rw [check]

end Shape

end SearchKit
