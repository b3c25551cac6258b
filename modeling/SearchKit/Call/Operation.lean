import SearchKit.Session.Written

/-!
# Operations as data

A request by name: the name of an operation and its arguments.

* `Operation`: the request, with `Operation.text` for its form in messages.
* `Operation.ofCall`: the request of a call, without absent arguments and with the further
  keywords spliced in.
-/

namespace SearchKit

/-- A request by name. -/
structure Operation where
  /-- The name of the operation. -/
  name : Option String
  /-- The arguments by name. -/
  args : Option Entries
  deriving Inhabited, Repr

namespace Operation

/-- A request as structured data. -/
def toValue (op : Operation) : Value := .model .operation [
  ("name", (op.name.map Value.str).getD .null), ("args", (op.args.map Value.dict).getD .null)]

/-- The request of structured data. -/
def ofValue? : Value → Option Operation
  | .model .operation [(_, name), (_, args)] => some {
      name := name.asStr?
      args := args.asDict? }
  | _ => none

/-- The form of a request in messages: its name and the names of its arguments. -/
def text (op : Operation) : String :=
  Value.requestForm op.name ((op.args.getD []).map fun e => e.1.text)

/-- The arguments of a call as they are sent: null ones left out, the further keywords spliced in
as they are. -/
def sentArguments : Entries → Entries → Act Entries
  | acc, [] => return acc
  | acc, (k, v) :: rest => do
    if k.sameKey (.str "kwargs") then sentArguments (← writtenOver acc v) rest
    else if v.isNull then sentArguments acc rest
    else sentArguments (acc.set k v) rest

/-- The arguments of a call without the object that is called. -/
def withoutReceiver (args : Entries) : Entries := args.erase (.str "self")

/-- The request of a call. -/
def ofCall (name args : Value) : Act Operation := do
  let sent : Value ← match args with
    | .null => pure .null
    | .dict es => do pure (.dict (← sentArguments [] (withoutReceiver es)))
    | .list _ | .collection _ => throw .wrongType
    | _ => throw .noPart
  let checked ← ModelKind.operation.ofValue (Fields.toValue [("name", name), ("args", sent)])
  match ofValue? checked with
  | some op => return op
  | none => throw .wrongType

/-- The request as JSON. -/
def json (op : Operation) : Act String := jsonOf .compact op.toValue

end Operation

end SearchKit
