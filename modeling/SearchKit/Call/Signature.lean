import SearchKit.Call.Conversion

/-!
# Signatures

How arguments meet parameters: by place, by name, by default, and as further keywords.

* `Signature`: the parameters of a method.
* `Signature.bind`: the arguments under the names of the parameters.
* `Signature.convertNamed`: arguments by name brought to the declared types.
-/

namespace SearchKit

/-- A parameter of a method. -/
structure Parameter where
  /-- Its name. -/
  name : String
  /-- The declared type of its argument. -/
  type : TypeExpr := .any
  /-- The value it has without an argument; a parameter without one needs an argument. -/
  fallback : Option Value := none
  deriving Inhabited

/-- The parameters of a method. -/
structure Signature where
  /-- The parameters in their order. -/
  parameters : List Parameter := []
  /-- Keywords that name no parameter are taken as well. -/
  further : Bool := false
  deriving Inhabited

/-- The arguments of a call. -/
structure Arguments where
  /-- The arguments of the parameters, in the order of the parameters. -/
  named : Fields := []
  /-- The further keywords. -/
  further : Fields := []
  deriving Inhabited

/-- The name under which further keywords are handed on together. -/
def furtherName : String := "kwargs"

/-- The name of the object that a method belongs to, which no keyword may take. -/
def receiverName : String := "self"

namespace Arguments

/-- The argument of a parameter. -/
def get (a : Arguments) (name : String) : Value := a.named.getD name

end Arguments

namespace Signature

/-- The arguments of the parameters, given by place and then by name. -/
def bindNamed (keywords : Fields) : List Parameter → List Value → Except Fault Fields
  | [], [] => .ok []
  | [], _ :: _ => .error .wrongType
  | p :: ps, x :: xs =>
    if (keywords.get? p.name).isSome then .error .wrongType
    else (bindNamed keywords ps xs).map ((p.name, x) :: ·)
  | p :: ps, [] => match keywords.get? p.name, p.fallback with
    | some x, _ | none, some x => (bindNamed keywords ps []).map ((p.name, x) :: ·)
    | none, none => .error .wrongType

/-- The keywords that name no parameter. -/
def furtherKeywords (sig : Signature) (keywords : Fields) : Fields :=
  keywords.filter fun k => !sig.parameters.any fun p => p.name == k.1

/-- The arguments of a call under the names of the parameters, defaults filled in.  A call with too
many or too few arguments, or with a keyword that nothing takes, is refused. -/
def bind (sig : Signature) (positional : List Value) (keywords : Fields) :
    Except Fault Arguments := do
  if (keywords.get? receiverName).isSome then throw .wrongType
  let further := sig.furtherKeywords keywords
  unless sig.further || further.isEmpty do throw .wrongType
  return { named := ← bindNamed keywords sig.parameters positional, further }

/-- The declared type of a name. -/
def typeOf (sig : Signature) (name : String) : TypeExpr :=
  ((sig.parameters.find? fun p => p.name == name).map (·.type)).getD .any

/-- Arguments by name, each converted to the declared type of its parameter; what names no
parameter stays as it is.  The arguments are converted in the order of the parameters. -/
def convertNamed (sig : Signature) (args : Entries) : Act Entries :=
  sig.parameters.foldlM (fun acc p => match args.field? p.name with
    | some v => do return acc.set (.str p.name) (← convertIn p.type v)
    | none => return acc) args

/-- The arguments of a call by name only. -/
def bindEntries (sig : Signature) (args : Entries) : Except Fault Arguments :=
  match args.toFields? with
  | some keywords => sig.bind [] keywords
  | none => .error .wrongType

/-- The arguments by name, the further keywords under one name of their own. -/
def spread (sig : Signature) (a : Arguments) : Entries :=
  let named := Entries.ofFields a.named
  if sig.further then named ++ [(.str furtherName, Fields.toValue a.further)] else named

end Signature

end SearchKit
