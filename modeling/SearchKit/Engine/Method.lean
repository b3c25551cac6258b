import SearchKit.Call.Signature

/-!
# Methods

A method is a signature and what it does with the arguments that meet it.

* `Method`: a method of the object at a place, and `Method.call`: a call with arguments.
* `Response`: the answer of an operation.
-/

namespace SearchKit

/-- The answer of an operation. -/
structure Response where
  /-- The result. -/
  result : Value
  /-- The context of the operation. -/
  context : Value := .null
  /-- The raw answer of the backend. -/
  native : Value := .null
  deriving Inhabited, Repr

/-- An answer as structured data. -/
def Response.toValue (r : Response) : Value := .model .response [
  ("result", r.result), ("context", r.context), ("native", r.native)]

/-- The answer of structured data. -/
def Response.ofValue? : Value → Option Response
  | .model .response [(_, result), (_, context), (_, native)] => some ⟨result, context, native⟩
  | _ => none

/-- An answer with the raw answer of the backend. -/
def Response.withNative (result raw : Value) : Value :=
  Response.toValue { result, native := single "result" raw }

/-- A method of the object at a place. -/
structure Method where
  /-- Its parameters. -/
  signature : Signature := {}
  /-- What it does with arguments that meet them. -/
  body : Nat → Arguments → Act Value

namespace Method

/-- A call with arguments by place and by name. -/
def call (m : Method) (receiver : Nat) (positional : List Value) (keywords : Fields) :
    Act Value := do
  let a ← m.signature.bind positional keywords
  m.body receiver a

/-- A call with arguments by name that are first converted to the declared types. -/
def callConverted (m : Method) (receiver : Nat) (args : Entries) : Act Value := do
  let a ← m.signature.bindEntries (← m.signature.convertNamed args)
  m.body receiver a

end Method

/-! ### Objects of a session -/

/-- The provider at a place. -/
def provider (id : Nat) : Act Provider := do
  match (← get).providers[id]? with
  | some p => return p
  | none => throw .noPart

/-- The provider at a place has its own method of a name: a part of its configuration of the same
name would hide it, and cannot be called in its place. -/
def requireOwn (id : Nat) (name : String) : Act Unit := do
  if ((← provider id).settings.get? name).isSome then throw .wrongType

/-- A provider changed. -/
def putProvider (id : Nat) (p : Provider) : Act Unit :=
  modify fun s => { s with providers := s.providers.set id p }

/-- A new provider. -/
def addProvider (p : Provider) : Act Nat := do
  let s ← get
  set { s with providers := s.providers ++ [p] }
  return s.providers.length

/-- The component at a place. -/
def component (id : Nat) : Act Component := do
  match (← get).components[id]? with
  | some c => return c
  | none => throw .noPart

/-- A component changed. -/
def putComponent (id : Nat) (c : Component) : Act Unit :=
  modify fun s => { s with components := s.components.set id c }

/-- A new component. -/
def addComponent (c : Component) : Act Nat := do
  let s ← get
  set { s with components := s.components ++ [c] }
  return s.components.length

end SearchKit
