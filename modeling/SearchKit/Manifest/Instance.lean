import SearchKit.Engine.Binding
import SearchKit.Manifest.Reference

/-!
# Loading components from a manifest

* `Manifest.providerHandle`: the provider that a component is bound to under a tag.
* `Manifest.instantiate`: a component with its provider, built from their configurations.
-/

namespace SearchKit

/-- A value that is looked up as a key. -/
def lookupKey (v : Value) : Except Fault Value :=
  if v.hashable then .ok v else .error .wrongType

namespace Manifest

/-- The first provider of a component. -/
def firstProvider (config : ComponentConfig) : Except Fault Value :=
  match config.providers with
  | (handle, _) :: _ => .ok handle
  | [] => .error (.misuse .exhausted)

/-- The handle of the provider of a component under a tag: the one that the tag binds it to, else
its first one.  A tag that the manifest does not know is warned of. -/
def providerHandle (m : Manifest) (component tag : Value) : Act Value := do
  match m.components.get? (← lookupKey component) with
  | none => throw (.misuse .noKey)
  | some config =>
    if !tag.truthy then return ← firstProvider config
    match m.bindings.get? (← lookupKey tag) with
    | none =>
      log .warning none ("No bindings for tag " ++ (← tag.spell) ++ ", using first provider")
      return ← firstProvider config
    | some bindings => match bindings.get? component with
      | none => return ← firstProvider config
      | some handle =>
        if (config.providers.get? (.str handle)).isSome then return .str handle
        else throw (.load (.noProvider handle (← component.spell)))

end Manifest

/-- What was built under its handle and its type in a manifest, which null and maps cannot have. -/
def Built.label (b : Built) (handle : Value) (type : String) : Act Unit := do
  match b with
  | .component id => putComponent id { ← SearchKit.component id with handle, type := .str type }
  | .provider id => putProvider id { ← SearchKit.provider id with handle, type := .str type }
  | .value .null | .value (.dict _) => throw .noPart
  | .value _ | .object => return ()

namespace Manifest

/-- The provider of a component under a tag, none if the component has no providers. -/
def instantiateProvider (m : Manifest) (env : Environment) (handle tag : Value)
    (config : ComponentConfig) : Act (Option Built) := do
  if config.providers.isEmpty then return none
  let chosen ← m.providerHandle handle tag
  match config.providers.get? chosen with
  | none => throw (.misuse .noKey)
  | some provider =>
    let parameters ← m.resolve env (.dict provider.parameters)
    let built ← providerAt (some (providerPath config.type provider.type)) parameters
    built.label chosen provider.type
    return some built

/-- The component of a handle, bound to its provider under a tag. -/
def instantiate (m : Manifest) (env : Environment) (handle tag : Value) : Act Built := do
  match m.components.get? (← lookupKey handle) with
  | none => throw (.load (.noComponent (← handle.spell)))
  | some config =>
    let parameters ← m.resolve env (.dict config.parameters)
    let provider ← m.instantiateProvider env handle tag config
    let built ← componentAt (componentPath config.type) parameters provider
    built.label handle config.type
    return built

end Manifest

end SearchKit
