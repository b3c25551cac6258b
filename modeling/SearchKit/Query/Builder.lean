import SearchKit.Call.Signature
import SearchKit.Query.Predicates

/-!
# Building predicate sets by name

The refinements of a predicate set under the names and with the parameters by which applications
call them.

* `Builder.all`: the refinements by name, and `RefiningCall.refinement`: the one that a call asks
  for.
* `PredicateSet.afterCall`, `PredicateSet.build`: the set after a call, with its fault if it fails.
-/

namespace SearchKit

/-- A parameter that needs an argument of any type. -/
def neededParameter (name : String) : Parameter := { name }

/-- A parameter of any type, null by default. -/
def openParameter (name : String) : Parameter := { name, fallback := some .null }

/-- A refinement that can be called. -/
structure Builder where
  /-- Its parameters. -/
  signature : Signature
  /-- The refinement of its arguments. -/
  refinement : Arguments → Act Refinement

namespace Builder

/-- A refinement of one argument. -/
def ofOne (name : String) (make : Value → Refinement) : Builder where
  signature := { parameters := [neededParameter name] }
  refinement a := return make (a.get name)

/-- A refinement of a field by a list of values, which may be given as a sequence. -/
def ofValues (make : Value → Value → Refinement) : Builder where
  signature := { parameters := [neededParameter "field", neededParameter "values"] }
  refinement a := do return make (a.get "field") (← settle (a.get "values"))

/-- The refinements by name. -/
def all : List (String × Builder) := [
  ("where", {
    signature := { parameters := [neededParameter "field", neededParameter "value"] }
    refinement := fun a => return .filter (a.get "field") (a.get "value") }),
  ("where_in", ofValues .oneOf),
  ("where_not_in", ofValues .noneOf),
  ("where_between", ofValues .between),
  ("where_range", {
    signature := {
      parameters := [neededParameter "field", openParameter "gte", openParameter "lte"] }
    refinement := fun a => return .range (a.get "field") (a.get "gte") (a.get "lte") }),
  ("order_by", {
    signature := { parameters := [
      neededParameter "field",
      { name := "direction", fallback := some (.str SortDirection.ascending.name) }] }
    refinement := fun a => return .orderBy (a.get "field") (a.get "direction") }),
  ("order_by_desc", ofOne "field" fun field => .orderBy field (.str SortDirection.descending.name)),
  ("take", ofOne "limit" .take),
  ("skip", ofOne "offset" .skip),
  ("within", ofOne "index" .within),
  ("distinct_by", ofOne "field" .distinctBy),
  ("with_options", {
    signature := { parameters := [neededParameter "options"] }
    refinement := fun a => do
      let (options, cut) ← gatherEntries [] (a.get "options")
      return .withOptions options cut }),
  ("using", ofOne "callback" .callback)]

end Builder

/-- A call of a refinement by name. -/
structure RefiningCall where
  /-- The name. -/
  name : String
  /-- The arguments by place. -/
  positional : List Value := []
  /-- The arguments by name. -/
  keywords : Fields := []

/-- The refinement that a call asks for.  A call that does not meet the parameters asks for none. -/
def RefiningCall.refinement (c : RefiningCall) : Act Refinement := do
  match Builder.all.lookup c.name with
  | none => throw .noPart
  | some b => b.refinement (← b.signature.bind c.positional c.keywords)

namespace PredicateSet

/-- The set after a call, with the refinement if it goes well and else its fault. -/
def afterCall (p : PredicateSet) (c : RefiningCall) :
    Act (PredicateSet × Except Fault Refinement) := do
  match ← caught c.refinement with
  | .error fault => return (p, .error fault)
  | .ok r => match p.refine r with
    | (q, none) => return (q, .ok r)
    | (q, some fault) => return (q, .error fault)

/-- The set after a call by name, and the fault if it fails. -/
def build (p : PredicateSet) (name : String) (positional : List Value) (keywords : Fields) :
    Act (PredicateSet × Option Fault) := do
  match ← p.afterCall ⟨name, positional, keywords⟩ with
  | (q, .ok _) => return (q, none)
  | (q, .error fault) => return (q, some fault)

end PredicateSet

end SearchKit
