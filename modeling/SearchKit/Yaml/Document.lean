import SearchKit.Yaml.Token
import SearchKit.Yaml.Tag

/-!
# Documents

A document is a graph of nodes: scalars, sequences and mappings.  The nodes within a node are given
by their numbers, so that an alias is one more reference to the node that its anchor marks, also
from within that node.

* `Node`: a node with its tag.
* `Document`: the nodes of a document.
* `Document.ofTokens`: the only document of a text, if it has one.
-/

namespace SearchKit.Yaml

/-- What a node holds. -/
inductive Content where
  /-- A text. -/
  | scalar (text : String)
  /-- The items of a sequence. -/
  | sequence (items : List Nat)
  /-- The keys and values of a mapping, in the order of its entries. -/
  | mapping (entries : List (Nat × Nat))
  deriving DecidableEq, Inhabited, Repr

/-- A node of a document. -/
structure Node where
  /-- What it stands for. -/
  tag : Tag
  /-- What it holds. -/
  content : Content
  deriving DecidableEq, Inhabited, Repr

/-- A document. -/
structure Document where
  /-- Its nodes by number. -/
  nodes : Array Node
  /-- The numbers of the nodes, each after those within it, except where a node is within itself. -/
  order : List Nat
  /-- The number of the outermost node. -/
  root : Nat
  deriving Inhabited, Repr

namespace Document

/-! ### Reading -/

/-- The state of reading a document. -/
structure Reader where
  /-- The tokens still to be read. -/
  tokens : List Token
  /-- Why there are no more tokens, if not because the text is at its end. -/
  fault : Option Fault
  /-- The nodes marked by anchors. -/
  anchors : List (String × Nat) := []
  /-- What the handles of tags stand for. -/
  handles : List (String × String) := []
  /-- The nodes so far. -/
  nodes : Array Node := #[]
  /-- The nodes that are complete, the last one first. -/
  complete : List Nat := []
  /-- The count of collections around the next node. -/
  depth : Nat := 0

/-- A step of reading. -/
abbrev Read (α : Type) := StateT Reader (Except Fault) α

/-- The tokens make no document. -/
def refuse {α : Type} : Read α := throw .unreadable

/-- The next token. -/
def peek : Read Token := do
  match (← get).tokens, (← get).fault with
  | t :: _, _ => return t
  | [], some fault => throw fault
  | [], none => return .streamEnd

/-- The next token passed. -/
def next : Read Unit := modify fun s => { s with tokens := s.tokens.tail }

/-- The next token passed if it is a given one. -/
def accept (t : Token) : Read Bool := do
  if (← peek) == t then
    next
    return true
  else return false

/-- The next token is one of some. -/
def at? (ts : List Token) : Read Bool := do return ts.contains (← peek)

/-- The handles of tags that need no directive. -/
def defaultHandles : List (String × String) := [("!", "!"), ("!!", tagRoot)]

/-- A tag in full. -/
def resolveTag (handle : Option String) (suffix : String) : Read String := do
  match handle with
  | none => return suffix
  | some h => match (← get).handles.lookup h with
    | some start => return start ++ suffix
    | none => refuse

/-- The anchor and the tag before a node, in either order. -/
def properties : Read (Option String × Option String) := do
  match ← peek with
  | .anchor a =>
    next
    match ← peek with
    | .tag h s =>
      next
      return (some a, some (← resolveTag h s))
    | _ => return (some a, none)
  | .tag h s =>
    next
    match ← peek with
    | .anchor a =>
      next
      return (some a, some (← resolveTag h s))
    | _ => return (none, some (← resolveTag h s))
  | _ => return (none, none)

/-- A node begun, with nothing in it so far; an anchor marks one node only. -/
def start (anchor : Option String) (tag : Tag) : Read Nat := do
  let s ← get
  let id := s.nodes.size
  if anchor.any fun a => (s.anchors.lookup a).isSome then refuse
  set { s with
    anchors := (anchor.map fun a => (a, id)).toList ++ s.anchors
    nodes := s.nodes.push { tag, content := .scalar "" } }
  return id

/-- A node complete with what it holds. -/
def finish (id : Nat) (content : Content) : Read Nat := do
  modify fun s => { s with
    nodes := s.nodes.modify id fun n => { n with content }
    complete := id :: s.complete }
  return id

/-- A scalar. -/
def leaf (anchor : Option String) (tag : Tag) (text : String) : Read Nat := do
  finish (← start anchor tag) (.scalar text)

/-- An empty scalar, where a node was left out. -/
def empty : Read Nat := leaf none .null ""

/-- The most collections around a node.  It stands for the depth of calls that the environment
allows, a thousand, without those that are open when a document is read; a collection takes two. -/
def maxDepth : Nat := 485

/-- A collection whose contents are read by a given step. -/
def collection (anchor : Option String) (tag : Tag) (contents : Read Content) : Read Nat := do
  let id ← start anchor tag
  if maxDepth ≤ (← get).depth then throw (.misuse .endless)
  modify fun s => { s with depth := s.depth + 1 }
  let content ← contents
  modify fun s => { s with depth := s.depth - 1 }
  finish id content

/-- Where a node stands, which decides what may stand there. -/
inductive Place where
  /-- In a block. -/
  | block
  /-- In a block, where a sequence may go on at the same indentation. -/
  | indentless
  /-- Within brackets. -/
  | flow
  deriving BEq

mutual

/-- A node, with fuel for the nodes in it. -/
def readNode : Nat → Place → Read Nat
  | 0, _ => refuse
  | fuel + 1, place => do
    match ← peek with
    | .alias a =>
      next
      match (← get).anchors.lookup a with
      | some id => return id
      | none => refuse
    | _ =>
      let (anchor, given) ← properties
      let own := given.filter (· != "!")
      let tag (usual : Tag) : Tag := (own.map Tag.ofName).getD usual
      let sequence (items : Read (List Nat)) : Read Nat :=
        collection anchor (tag .seq) do return .sequence (← items)
      let mapping (entries : Read (List (Nat × Nat))) : Read Nat :=
        collection anchor (tag .map) do return .mapping (← entries)
      if place == .indentless && (← peek) == .blockEntry then sequence (readIndentless fuel [])
      else
        match ← peek with
        | .scalar text plain =>
          next
          leaf anchor (tag (if plain || given == some "!" then .ofPlain text else .str)) text
        | .flowSequenceStart =>
          next
          sequence (readFlowItems fuel true [])
        | .flowMappingStart =>
          next
          mapping (readFlowEntries fuel true [])
        | .blockSequenceStart =>
          if place == .flow then refuse
          next
          sequence (readBlockItems fuel [])
        | .blockMappingStart =>
          if place == .flow then refuse
          next
          mapping (readBlockEntries fuel [])
        | _ =>
          if anchor.isSome || given.isSome then leaf anchor (tag .null) "" else refuse

/-- The items of a block sequence up to its end, gathered backwards. -/
def readBlockItems : Nat → List Nat → Read (List Nat)
  | 0, _ => refuse
  | fuel + 1, acc => do
    if ← accept .blockEntry then
      let n ← if ← at? [.blockEntry, .blockEnd] then empty else readNode fuel .block
      readBlockItems fuel (n :: acc)
    else if ← accept .blockEnd then return acc.reverse
    else refuse

/-- The items of a sequence at the indentation of its mapping, gathered backwards. -/
def readIndentless : Nat → List Nat → Read (List Nat)
  | 0, _ => refuse
  | fuel + 1, acc => do
    if ← accept .blockEntry then
      let n ← if ← at? [.blockEntry, .key, .value, .blockEnd] then empty
        else readNode fuel .block
      readIndentless fuel (n :: acc)
    else return acc.reverse

/-- The entries of a block mapping up to its end, gathered backwards. -/
def readBlockEntries : Nat → List (Nat × Nat) → Read (List (Nat × Nat))
  | 0, _ => refuse
  | fuel + 1, acc => do
    let ends : List Token := [.key, .value, .blockEnd]
    if ← at? [.key, .value] then
      let k ← if ← accept .key then
          if ← at? ends then empty else readNode fuel .indentless
        else refuse
      let v ← if ← accept .value then
          if ← at? ends then empty else readNode fuel .indentless
        else empty
      readBlockEntries fuel ((k, v) :: acc)
    else if ← accept .blockEnd then return acc.reverse
    else refuse

/-- The value of an entry within brackets, empty when it is left out. -/
def readFlowValue : Nat → Token → Read Nat
  | 0, _ => refuse
  | fuel + 1, closing => do
    if ← accept .value then
      if ← at? [.flowEntry, closing] then empty else readNode fuel .flow
    else empty

/-- The items of a sequence in brackets, gathered backwards; an item with a key is a mapping of one
entry. -/
def readFlowItems : Nat → Bool → List Nat → Read (List Nat)
  | 0, _, _ => refuse
  | fuel + 1, first, acc => do
    if ← accept .flowSequenceEnd then return acc.reverse
    unless first do
      unless ← accept .flowEntry do refuse
    if ← accept .key then
      let n ← collection none .map do
        let k ← if ← at? [.value, .flowEntry, .flowSequenceEnd] then empty
          else readNode fuel .flow
        return .mapping [(k, ← readFlowValue fuel .flowSequenceEnd)]
      readFlowItems fuel false (n :: acc)
    else if ← accept .flowSequenceEnd then return acc.reverse
    else
      let n ← readNode fuel .flow
      readFlowItems fuel false (n :: acc)

/-- The entries of a mapping in braces, gathered backwards. -/
def readFlowEntries : Nat → Bool → List (Nat × Nat) → Read (List (Nat × Nat))
  | 0, _, _ => refuse
  | fuel + 1, first, acc => do
    if ← accept .flowMappingEnd then return acc.reverse
    unless first do
      unless ← accept .flowEntry do refuse
    if ← accept .key then
      let k ← if ← at? [.value, .flowEntry, .flowMappingEnd] then empty
        else readNode fuel .flow
      let v ← readFlowValue fuel .flowMappingEnd
      readFlowEntries fuel false ((k, v) :: acc)
    else if ← accept .flowMappingEnd then return acc.reverse
    else
      let k ← readNode fuel .flow
      readFlowEntries fuel false ((k, ← empty) :: acc)

end

/-- The directives before a document, the version having been seen or not.  The version has to be
the first, and neither it nor a handle may be given twice. -/
def readDirectives : Nat → Bool → Read Unit
  | 0, _ => refuse
  | fuel + 1, versioned => do
    match ← peek with
    | .version major =>
      next
      if versioned || major != 1 then refuse
      readDirectives fuel true
    | .handle name start =>
      next
      let s ← get
      if (s.handles.lookup name).isSome then refuse
      set { s with handles := (name, start) :: s.handles }
      readDirectives fuel versioned
    | .directive =>
      next
      readDirectives fuel versioned
    | _ => return ()

/-- The directives before a document, and its start. -/
def readStart (fuel : Nat) : Read Unit := do
  modify fun s => { s with handles := [] }
  readDirectives fuel false
  modify fun s => { s with handles := s.handles ++ defaultHandles }
  unless ← accept .documentStart do refuse

/-- The marks of the end of a document passed. -/
def skipEnds : Nat → Read Unit
  | 0 => return ()
  | fuel + 1 => do
    if ← accept .documentEnd then skipEnds fuel

/-- A token starts a document, or a directive before one. -/
def startsDocument : Token → Bool
  | .version _ | .handle .. | .directive | .documentStart => true
  | _ => false

/-- The outermost node of the only document of a text, none when the text has none. -/
def readDocument (fuel : Nat) : Read (Option Nat) := do
  let t ← peek
  if t == .streamEnd then return none
  else
    let root ←
      if startsDocument t then
        readStart fuel
        let t ← peek
        if startsDocument t || t == .documentEnd || t == .streamEnd then empty
        else readNode fuel .block
      else
        modify fun s => { s with handles := defaultHandles }
        readNode fuel .block
    skipEnds fuel
    if (← peek) == .streamEnd then return some root
    else
      readStart fuel
      refuse

/-- The only document of a list of tokens, with the fault that comes after them. -/
def ofTokens (tokens : List Token) (fault : Option Fault) : Except Fault (Option Document) := do
  let (root, s) ← (readDocument (2 * tokens.length + 2)).run { tokens, fault }
  return root.map fun root => { nodes := s.nodes, order := s.complete.reverse, root }

end Document

end SearchKit.Yaml
