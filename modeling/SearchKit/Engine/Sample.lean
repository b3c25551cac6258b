import SearchKit.Engine.Elasticsearch

/-!
# A sample component and provider

A small component with a provider of its own, for trying how operations are routed: sums that are
not carried out, labels, and a wrapped value.

* `Sample.providerMethods`: what the provider implements; `missing` is left to the component.
* `Sample.operations`: the operations of the component, with what they do without a provider.
-/

namespace SearchKit.Sample

open Elasticsearch (optionalParameter)

/-- Two summands, and further keywords. -/
def addSignature : Signature where
  parameters := [
    { name := "a", type := .int }, { name := "b", type := .int, fallback := some (.int 2) }]
  further := true

/-- A text with a size and tags. -/
def labelSignature : Signature where
  parameters := [
    { name := "text", type := .str }, optionalParameter "size" .float,
    { name := "tags", type := .listOf .int, fallback := some (.tuple []) }]

/-- The summands, with the one that answers. -/
def add (who : String) (a : Arguments) : Value := Fields.toValue [
  ("by", .str who), ("a", a.get "a"), ("b", a.get "b"), ("extra", Fields.toValue a.further)]

/-- The label, with the one that answers. -/
def label (who : String) (a : Arguments) : Act Value := do
  let tags ← itemsOf (a.get "tags")
  return Fields.toValue [
    ("by", .str who), ("text", a.get "text"), ("size", a.get "size"), ("tags", .list tags)]

/-- The value, or the order if there is one, as a response. -/
def wrap (a : Arguments) : Act Value :=
  let order := a.get "order"
  let result := if order.isNull then a.get "value" else order
  model .response (Fields.toValue [
    ("result", result), ("native", single "raw" (a.get "value")), ("context", a.get "context")])

/-- What the provider implements.  It has no label for the text `unsupported`. -/
def providerMethods : List (String × Method) := [
  ("add", { signature := addSignature, body := fun _ a => return add "provider" a }),
  ("label", { signature := labelSignature, body := fun _ a =>
    match a.get "text" with
    | .str "unsupported" => throw (.unsupported "label")
    | _ => label "provider" a }),
  ("wrap", {
    signature.parameters := [
      { name := "value", fallback := some .null }, optionalParameter "order" (.model .sortOrder),
      optionalParameter "context" (.model .context)]
    body := fun _ a => wrap a })]

/-- The operations of the component, with what they do without a provider. -/
def operations : List (String × Method) := [
  ("add", { signature := addSignature, body := fun _ a => return add "component" a }),
  ("label", { signature := labelSignature, body := fun _ a => label "component" a }),
  ("missing", {
    signature.parameters := [{ name := "value", fallback := some .null }]
    body := fun id a => do
      return Fields.toValue [
        ("by", .str "component"), ("value", a.get "value"),
        ("base", (← component id).settings.getD "base")] }),
  ("wrap", {
    signature := { parameters := [{ name := "value", fallback := some .null }], further := true }
    body := fun _ _ => throw (.misuse .notImplemented) })]

end SearchKit.Sample
