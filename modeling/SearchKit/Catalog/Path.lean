import SearchKit.Catalog.Modules

/-!
# Paths of classes

A path names a module and perhaps one of its names.  The types that a manifest gives to components
and providers are paths, or are completed to paths.

* `componentPathOf`, `providerPathOf`: the path of a component and of a provider by its type.
* `findEntry`: what a path leads to.
-/

namespace SearchKit

/-- The characters before the first occurrence of one, and those after it. -/
def splitAtFirst? (c : Char) (cs : List Char) : Option (List Char × List Char) :=
  if cs.contains c then some (cs.takeWhile (· != c), (cs.dropWhile (· != c)).drop 1) else none

/-- Whether a list of characters occurs in another one. -/
def occursIn (part : List Char) : List Char → Bool
  | [] => part.isEmpty
  | c :: cs => part.isPrefixOf (c :: cs) || occursIn part cs

/-! ### Types and paths -/

/-- A mark occurs in a value: within a text, among the keys of a map, among the items of anything
else that has some. -/
def hasMark (mark : String) : Value → Except Fault Bool
  | .str s => .ok (occursIn mark.toList s.toList)
  | .dict es => .ok (Assoc.field? mark es).isSome
  | v => match v.items? with
    | some xs => .ok (xs.any fun x => x.sameKey (.str mark))
    | none => .error .wrongType

/-- The path of a component from its type: a type that names a class is a path itself. -/
def componentPath (type : String) : String :=
  if occursIn [':'] type.toList then type else type ++ ".component"

/-- The path of a provider from the type of its component and its own type: a type that names a
class or a module of providers is a path itself. -/
def providerPath (componentType providerType : String) : String :=
  let cs := providerType.toList
  if occursIn [':'] cs || occursIn ".providers.".toList cs then providerType
  else componentType ++ ".providers." ++ providerType

/-- The path of a component whose type is any value. -/
def componentPathOf (type : Value) : Except Fault Value := do
  if ← hasMark ":" type then return type else return .str ((← type.spell) ++ ".component")

/-- The path of a provider whose type and whose component's type are any values. -/
def providerPathOf (componentType type : Value) : Except Fault Value := do
  if ← hasMark ":" type then return type
  else if ← hasMark ".providers." type then return type
  else return .str ((← componentType.spell) ++ ".providers." ++ (← type.spell))

/-! ### Looking up -/

/-- The module of a name.  The empty name and a name that starts with a point are no names of
modules. -/
def findModule (name : String) : Except Fault ModuleEntry :=
  if name = "" then .error (.misuse .badValue)
  else if name.toList.head? == some '.' then .error .wrongType
  else match modules.find? fun m => m.name == name with
    | some m => .ok m
    | none => .error (.load (.noModule name))

/-- The first class by name that a module defines and that derives from a base. -/
def ModuleEntry.findClass (m : ModuleEntry) (base : BaseClass) : Except Fault Entry :=
  let found := (m.defined.filter fun e => e.derivesFrom base).mergeSort
    fun a b => decide (a.name?.getD "" ≤ b.name?.getD "")
  match found with
  | e :: _ => .ok e
  | [] => .error (.load (.noClass base.name m.name))

/-- What a path leads to.  A path `module:name` leads to what the module knows by that name, any
other path to the first class by name that the module defines and that derives from the base. -/
def findEntry (path : String) (base : BaseClass) : Except Fault Entry :=
  match splitAtFirst? ':' path.toList with
  | some (before, after) => do
    match (← findModule (String.ofList before)).find? (String.ofList after) with
    | some e => return e
    | none => throw .noPart
  | none => do (← findModule path).findClass base

/-- What a path leads to that may be no text: such a path leads nowhere. -/
def findEntryOf (path : Value) (base : BaseClass) : Except Fault Entry :=
  match path with
  | .str s => findEntry s base
  | _ => .error .noPart

end SearchKit
