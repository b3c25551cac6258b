import SearchKit.Yaml.Document
import SearchKit.Yaml.Scalar

/-!
# What documents stand for

The value of a document.  Collections are filled level by level, the outermost first; a scalar is
read where it is first met, and the first node that has no value decides the fault.  Before a
mapping is filled, the entries that it merges are put in front of its own.

* `Document.merge`: a mapping with the entries that it merges.
* `Filling`: how far a document is filled.
* `Document.fill`: the document and the values of its scalars, once all its nodes have values.
* `Document.value`: the value of a document.
* `readText`: the value of a text.
-/

namespace SearchKit.Yaml

/-- Nodes of the tag hold other nodes. -/
def Tag.isCollection : Tag → Bool
  | .seq | .map | .set | .entries => true
  | _ => false

namespace Document

/-- A node by number. -/
def node (d : Document) (id : Nat) : Node := d.nodes.getD id default

/-- The tag of a node. -/
def tag (d : Document) (id : Nat) : Tag := (d.node id).tag

/-- What a node holds. -/
def content (d : Document) (id : Nat) : Content := (d.node id).content

/-- The entries of a mapping, none of another node. -/
def entries? (d : Document) (id : Nat) : Option (List (Nat × Nat)) :=
  match d.content id with
  | .mapping entries => some entries
  | _ => none

/-! ### Merged entries -/

/-- A mapping with other entries. -/
def setEntries (d : Document) (id : Nat) (entries : List (Nat × Nat)) : Document :=
  { d with nodes := d.nodes.modify id fun n => { n with content := .mapping entries } }

/-- The keys of entries stand for themselves, also an equals sign. -/
def settleKeys (d : Document) (entries : List (Nat × Nat)) : Document :=
  let settle (n : Node) : Node := if n.tag = .default then { n with tag := .str } else n
  { d with nodes := entries.foldl (fun nodes e => nodes.modify e.1 settle) d.nodes }

mutual

/-- A mapping with the entries that it merges in front of its own, and those entries found so far,
with fuel for the merges. -/
def mergeWithin : Nat → List (Nat × Nat) → Nat → Document → Option Document
  | 0, _, _, _ => none
  | fuel + 1, found, id, d => do
    let entries ← d.entries? id
    match entries.findIdx? fun e => d.tag e.1 == .merge with
    | none => return (d.settleKeys entries).setEntries id (found ++ entries)
    | some i =>
      let d := d.setEntries id (entries.eraseIdx i)
      let (merged, d) ← mergedFrom fuel ((entries[i]?.map (·.2)).getD id) d
      mergeWithin fuel (found ++ merged) id d

/-- The entries of a merged value: a mapping, or several of which the first wins. -/
def mergedFrom : Nat → Nat → Document → Option (List (Nat × Nat) × Document)
  | 0, _, _ => none
  | fuel + 1, id, d => match d.content id with
    | .mapping _ => do
      let d ← mergeWithin fuel [] id d
      return (← d.entries? id, d)
    | .sequence items => mergedFromAll fuel items [] d
    | .scalar _ => none

/-- The entries of several merged mappings, the last mapping first. -/
def mergedFromAll :
    Nat → List Nat → List (Nat × Nat) → Document → Option (List (Nat × Nat) × Document)
  | 0, _, _, _ => none
  | _ + 1, [], found, d => some (found, d)
  | fuel + 1, i :: items, found, d => do
    let d ← mergeWithin fuel [] i d
    mergedFromAll fuel items ((← d.entries? i) ++ found) d

end

/-- The count of references from nodes to the nodes in them. -/
def references (d : Document) : Nat :=
  d.nodes.foldl
    (fun n node => n + match node.content with
      | .scalar _ => 0
      | .sequence items => items.length
      | .mapping entries => entries.length)
    0

/-- A mapping with the entries that it merges in front of its own; none when something other than
a mapping is merged. -/
def merge (d : Document) (id : Nat) : Option Document :=
  mergeWithin (4 * d.references + 4) [] id d

/-! ### Scalars -/

/-- The text of a scalar, with fuel for the way to it; a mapping has the text of its default. -/
def textWithin (d : Document) : Nat → Nat → Except Fault String
  | 0, _ => .error (.misuse .endless)
  | fuel + 1, id => match d.content id with
    | .scalar text => .ok text
    | .sequence _ => .error .unreadable
    | .mapping entries => match entries.find? fun e => d.tag e.1 == .default with
      | some e => textWithin d fuel e.2
      | none => .error .unreadable

/-- The value of a scalar.  A day or time has to be written out in the node itself. -/
def scalar (d : Document) (id : Nat) : Except Fault Value := do
  let tag := d.tag id
  if tag == .unknown || tag == .merge || tag == .default then throw .unreadable
  let text ← textWithin d (d.nodes.size + 1) id
  match tag, d.content id with
  | .timestamp, .mapping _ => throw .wrongType
  | _, _ => scalarValue tag text

end Document

/-! ### Filling collections -/

/-- How far a document is filled. -/
structure Filling where
  /-- The document, with its mappings merged so far. -/
  document : Document
  /-- The values by number of node, of the scalars met. -/
  values : Array (Option Value)
  /-- The nodes met. -/
  met : Array Bool
  /-- The collections to be filled next, the last one first. -/
  waiting : List Nat := []

/-- A step of filling. -/
abbrev Fill (α : Type) := StateT Filling (Except Fault) α

namespace Filling

/-- A node is met, perhaps as a key, which has to be a scalar. -/
def meet (isKey : Bool) (id : Nat) : Fill Unit := do
  let s ← get
  if (s.document.tag id).isCollection then
    if isKey then throw .unreadable
    unless s.met.getD id false do
      set { s with met := s.met.setIfInBounds id true, waiting := id :: s.waiting }
  else unless s.met.getD id false do
    let v ← s.document.scalar id
    set { s with met := s.met.setIfInBounds id true, values := s.values.setIfInBounds id (some v) }

/-- The entries of a mapping are met. -/
def meetEntries (areKeys : Bool) (entries : List (Nat × Nat)) : Fill Unit :=
  entries.forM fun e => do
    meet areKeys e.1
    meet false e.2

/-- The nodes in a collection are met. -/
def fillOne (id : Nat) : Fill Unit := do
  let d := (← get).document
  match d.tag id, d.content id with
  | .seq, .sequence items => items.forM (meet false)
  | .map, .mapping _ | .set, .mapping _ => match d.merge id with
    | some d =>
      modify fun s => { s with document := d }
      meetEntries true ((d.entries? id).getD [])
    | none => throw .unreadable
  | .entries, .sequence items => items.forM fun i => match d.content i with
    | .mapping [e] => meetEntries false [e]
    | _ => throw .unreadable
  | _, _ => throw .unreadable

/-- The collections of a level are filled, and then those met in them, with fuel for the levels. -/
def fillLevels : Nat → Fill Unit
  | 0 => return ()
  | fuel + 1 => do
    match (← get).waiting.reverse with
    | [] => return ()
    | level =>
      modify fun s => { s with waiting := [] }
      level.forM fillOne
      fillLevels fuel

end Filling

namespace Document

/-- The document with its mappings merged and the values of its scalars, the outermost node being
met first. -/
def fill (d : Document) : Except Fault (Document × Array (Option Value)) := do
  let n := d.nodes.size
  let start : Filling :=
    { document := d, values := Array.replicate n none, met := Array.replicate n false }
  let fill : Fill Unit := do
    Filling.meet false d.root
    Filling.fillLevels (n + 1)
  let (_, s) ← fill.run start
  return (s.document, s.values)

/-! ### Values -/

/-- The value of a node from those of the nodes in it. -/
def valueFrom (d : Document) (known : Array (Option Value)) (id : Nat) : Option Value := do
  let value (i : Nat) : Option Value := known.getD i none
  let entry (e : Nat × Nat) : Option (Value × Value) := return (← value e.1, ← value e.2)
  match d.tag id, d.content id with
  | .seq, .sequence items => return .list (← items.mapM value)
  | .map, .mapping entries => return .dict (Assoc.ofList (← entries.mapM entry))
  | .set, .mapping entries => return .list ((Assoc.ofList (← entries.mapM entry)).map (·.1))
  | .entries, .sequence items => return .list <| ← items.mapM fun i => match d.content i with
    | .mapping (e :: _) => do return .tuple [← value e.1, ← value e.2]
    | _ => some .null
  | _, _ => value id

/-- The values of all nodes from those of the scalars, each found after those of the nodes in it.  A
node that is within itself, or around such a node, has none. -/
def values (d : Document) (scalars : Array (Option Value)) : Array (Option Value) :=
  d.order.foldl (fun known id => known.setIfInBounds id (d.valueFrom known id)) scalars

/-- The value of a document.  Values are finite, so a document with a node within itself, whose value
would lead back to itself, is refused. -/
def value (d : Document) : Except Fault Value := do
  let (d, scalars) ← d.fill
  match (d.values scalars).getD d.root none with
  | some v => return v
  | none => throw (.misuse .endless)

end Document

/-! ### Texts -/

/-- The text with every end of a line as a line feed. -/
def unixLines : List Char → List Char
  | '\r' :: '\n' :: cs => '\n' :: unixLines cs
  | '\r' :: cs => '\n' :: unixLines cs
  | c :: cs => c :: unixLines cs
  | [] => []

/-- The value of a manifest text, null for one without a document. -/
def readText (text : String) : Except Fault Value := do
  let (tokens, fault) := Token.lex (String.ofList (unixLines text.toList))
  match ← Document.ofTokens tokens fault with
  | none => return .null
  | some d => d.value

end SearchKit.Yaml
