import SearchKit.Manifest.Basic

/-!
# References in a manifest

A text of the form `$` followed by a name in braces stands for a variable of the manifest or of the
environment.  A text that only contains such a form stands for itself.

* `referenceBody?`: the name that a text refers to.
* `resolveWith`: a value with its references replaced, keys left as they are.
* `Manifest.follow`: what a name stands for.  The value of a variable is resolved in turn; a value
  of the environment is taken as it is.
-/

namespace SearchKit

/-- The text after a beginning. -/
def afterStart? (start : String) (s : String) : Option String :=
  if start.toList.isPrefixOf s.toList then
    some (String.ofList (s.toList.drop start.toList.length))
  else none

/-- A text without one line end at its end. -/
def dropLineEnd (cs : List Char) : List Char :=
  if cs.getLast? == some '\n' then cs.dropLast else cs

/-- The name that a text refers to: what stands between the braces, on one line and not empty.  A
line end may follow. -/
def referenceBody? (s : String) : Option String :=
  match dropLineEnd s.toList with
  | '$' :: '\x7b' :: rest =>
    let body := rest.dropLast
    if rest.getLast? == some '\x7d' && !body.isEmpty && !body.contains '\n' then
      some (String.ofList body)
    else none
  | _ => none

/-- What a name refers to. -/
inductive Reference where
  /-- A variable of the environment. -/
  | environment (name : String)
  /-- A variable of the manifest. -/
  | variable (name : String)
  /-- Nothing that is known. -/
  | unknown (body : String)
  deriving DecidableEq, Repr

/-- The reference of a name. -/
def Reference.ofBody (body : String) : Reference :=
  match afterStart? "env." body, afterStart? "variables." body with
  | some name, _ => .environment name
  | none, some name => .variable name
  | none, none => .unknown body

mutual

/-- A value with its references replaced, in lists and in the values of maps. -/
def resolveWith (follow : String → Except Fault Value) : Value → Except Fault Value
  | .dict es => (resolveEntries follow es).map .dict
  | .list xs | .collection xs => (resolveItems follow xs).map .list
  | .str s => match referenceBody? s with
    | some body => follow body
    | none => .ok (.str s)
  | v => .ok v

/-- Items with their references replaced. -/
def resolveItems (follow : String → Except Fault Value) :
    List Value → Except Fault (List Value)
  | [] => .ok []
  | x :: xs => do return (← resolveWith follow x) :: (← resolveItems follow xs)

/-- Entries with the references in their values replaced. -/
def resolveEntries (follow : String → Except Fault Value) :
    List (Value × Value) → Except Fault (List (Value × Value))
  | [] => .ok []
  | (k, v) :: es => do return (k, ← resolveWith follow v) :: (← resolveEntries follow es)

end

/-- The variables of the environment. -/
abbrev Environment := List (String × String)

namespace Manifest

/-- What a name stands for, following at most a number of variables one from another.  A variable
that is not set is null. -/
def followWithin (m : Manifest) (env : Environment) : Nat → String → Except Fault Value
  | fuel, body => match Reference.ofBody body with
    | .environment name => .ok (((env.lookup name).map Value.str).getD .null)
    | .variable name => match m.values.field? name with
      | none => .ok .null
      | some v => match fuel with
        | 0 => .error (.misuse .endless)
        | fuel + 1 => resolveWith (followWithin m env fuel) v
    | .unknown body => .error (.load (.badReference body))

/-- What a name stands for.  Variables that refer to one another in a circle stand for nothing:
among others no path of references is longer than the list of variables. -/
def follow (m : Manifest) (env : Environment) (body : String) : Except Fault Value :=
  m.followWithin env m.values.length body

/-- A value with its references replaced. -/
def resolve (m : Manifest) (env : Environment) (v : Value) : Except Fault Value :=
  resolveWith (m.follow env) v

end Manifest

end SearchKit
