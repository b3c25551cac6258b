import SearchKit.Schema.Model
import SearchKit.Text.FilePath
import SearchKit.Yaml.Meaning

/-!
# Manifests

A manifest describes the components of an application and the providers that implement them.

* `Manifest`: the description, with `Manifest.ofValue?` for its reading from structured data.
* `ManifestFile.read`: the structured data of a manifest file.
-/

namespace SearchKit

/-- The configuration of a provider. -/
structure ProviderConfig where
  /-- Its type, from which its class is found. -/
  type : String
  /-- Its parameters, which may refer to variables and to the environment. -/
  parameters : Entries
  deriving Inhabited, Repr

/-- The configuration of a component. -/
structure ComponentConfig where
  /-- Its type, from which its class is found. -/
  type : String
  /-- Its parameters, which may refer to variables and to the environment. -/
  parameters : Entries
  /-- The providers that it can be bound to, by handle. -/
  providers : Assoc ProviderConfig
  deriving Inhabited, Repr

/-- The description of the components of an application. -/
structure Manifest where
  /-- The values of the variables, to which parameters refer by name. -/
  values : Entries
  /-- The components by handle. -/
  components : Assoc ComponentConfig
  /-- The handles of providers by tag and by component. -/
  bindings : Assoc (Assoc String)
  deriving Inhabited, Repr

/-- The entries of a map with each value read. -/
def Entries.readWith? {α : Type} (read : Value → Option α) (v : Value) : Option (Assoc α) := do
  (← v.asDict?).mapM fun e => (read e.2).map fun a => (e.1, a)

/-- The configuration of a provider from structured data. -/
def ProviderConfig.ofValue? : Value → Option ProviderConfig
  | .model .providerConfig [(_, .str type), (_, .dict parameters)] => some { type, parameters }
  | _ => none

/-- The configuration of a component from structured data. -/
def ComponentConfig.ofValue? : Value → Option ComponentConfig
  | .model .componentConfig [(_, .str type), (_, .dict parameters), (_, providers)] => do
    let providers ← Entries.readWith? ProviderConfig.ofValue? providers
    return { type, parameters, providers }
  | _ => none

/-- A manifest from structured data. -/
def Manifest.ofValue? : Value → Option Manifest
  | .model .manifest [(_, .dict values), (_, components), (_, bindings)] => do
    let components ← Entries.readWith? ComponentConfig.ofValue? components
    let bindings ← Entries.readWith? (Entries.readWith? Value.asStr?) bindings
    return { values, components, bindings }
  | _ => none

/-! ### Files -/

/-- The contents of a manifest file. -/
inductive ManifestContents where
  /-- A text to be read. -/
  | text (s : String)
  /-- The value that the file stands for. -/
  | value (v : Value)
  deriving Inhabited, Repr

/-- The value of the contents of a file. -/
def ManifestContents.read : ManifestContents → Except Fault Value
  | text s => Yaml.readText s
  | value v => .ok v

/-- A manifest file in a directory of its own. -/
structure ManifestFile where
  /-- The name of the directory. -/
  directory : String
  /-- The name of the file in it. -/
  name : String
  /-- What it contains, if there is such a file. -/
  contents : Option ManifestContents
  deriving Inhabited, Repr

namespace ManifestFile

/-- The steps of a path, without those that stay in place. -/
def steps (path : List Char) : List (List Char) :=
  (path.splitBy fun a b => (a == '/') == (b == '/')).filter fun part =>
    !(part.contains '/' || part == ['.'])

/-- A path leads to a file of a name: it takes one step, to that name, and does not go on. -/
def leadsTo (path name : String) : Bool :=
  steps path.toList == [name.toList] && path.toList.head? != some '/' &&
    path.toList.getLast? != some '/' && !(['/', '.'].isSuffixOf path.toList)

/-- The structured data of the manifest at a path.  An empty file is an empty manifest. -/
def read (f : ManifestFile) (path : String) : Except Fault Value := do
  let full := joinPath f.directory path
  match f.contents with
  | some contents =>
    unless leadsTo path f.name do throw (.load (.noManifest full))
    let v ← contents.read
    let v := if v.truthy then v else .dict []
    unless v.isDict do throw (.load (.notMapping full))
    ModelKind.manifest.ofValue v
  | none => throw (.load (.noManifest full))

end ManifestFile

end SearchKit
