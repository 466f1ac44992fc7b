import UpgradeGate.Yaml.Token.Lexer

/-!
The tree of a YAML document.
-/

namespace UpgradeGate.Yaml

/-- A node of a document. An alias names the anchor that it stands for by number. -/
inductive Node where
  | alias (anchor : Nat)
  | scalar (tag : Option String) (text : String) (plain : Bool)
  | sequence (tag : Option String) (items : List Node)
  | mapping (tag : Option String) (entries : List (Node × Node))
deriving Inhabited

/-- A node that an anchor names, and its place among the nodes of the document. -/
structure Anchored where
  anchor : Nat
  place : Nat
  node : Node

/-- A document: its root, unless it is empty, and the nodes that have anchors. -/
structure Document where
  root : Option Node
  anchored : List Anchored
  /-- How many scalars and aliases, and starts and ends of collections, the document has. -/
  events : Nat

namespace Document

/-- The node of an anchor: of several with one number the one that begins last. -/
def anchor? (document : Document) (anchor : Nat) : Option Node :=
  let nodes := document.anchored.filter (·.anchor == anchor)
  let last := nodes.foldl (fun best next => match best with
    | none => some next
    | some b => if b.place < next.place then some next else some b) (none : Option Anchored)
  last.map (·.node)

end Document

/-- How far the tokens of a document have become nodes. -/
structure Building where
  tokens : List Token
  handles : List (String × String) := []
  anchors : List (String × Nat) := []
  anchored : List Anchored := []
  events : Nat := 0

/-- A step of building a document, which fails where the tokens are in no order that makes sense. -/
abbrev Build := StateT Building Option

namespace Build

def peek : Build (Option Token) := return (← get).tokens.head?

def drop : Build Unit := modify fun b => { b with tokens := b.tokens.tail }

def event : Build Unit := modify fun b => { b with events := b.events + 1 }

/-- Whether the next token is one of the given ones, or the tokens end and the end is among them. -/
def nextIs (tokens : List Token) : Build Bool := do
  match ← peek with
  | some token => return tokens.contains token
  | none => return false

def emptyScalar : Build Node := do
  event
  return .scalar none "" true

/-- An anchor is numbered by how many names there are so far; a name may be used again. -/
def newAnchor (name : String) : Build Nat := modifyGet fun b =>
  let number := b.anchors.length
  let others := b.anchors.filter (·.1 != name)
  (number, { b with anchors := (name, number) :: others })

structure Properties where
  anchor : Option String := none
  tag : Option (String × String) := none

def properties : Build Properties := do
  match ← peek with
  | some (.anchor name) =>
    drop
    match ← peek with
    | some (.tag handle suffix) => drop; return { anchor := name, tag := (handle, suffix) }
    | _ => return { anchor := name }
  | some (.tag handle suffix) =>
    drop
    match ← peek with
    | some (.anchor name) => drop; return { anchor := name, tag := (handle, suffix) }
    | _ => return { tag := (handle, suffix) }
  | _ => return {}

def fullTag : Option (String × String) → Build (Option String)
  | none => return none
  | some (handle, suffix) => do
    if handle.isEmpty then return some suffix
    match (← get).handles.lookup handle with
    | some leader => return some (leader ++ suffix)
    | none => failure

/-- Notes the node that an anchor names, which has its number before the node is read. -/
def withAnchor (name : Option String) (node : Build Node) : Build Node := do
  match name with
  | none => node
  | some name =>
    let place := (← get).events
    let anchor ← newAnchor name
    let node ← node
    modify fun b => { b with anchored := ⟨anchor, place, node⟩ :: b.anchored }
    return node

mutual

/--
A node. Block collections may stand only where `block` holds; a sequence without indentation of its
own only where `indentless` holds.
-/
def node (block indentless : Bool) : Nat → Build Node
  | 0 => failure
  | fuel + 1 => do
    if let some (.alias name) ← peek then
      drop
      match (← get).anchors.lookup name with
      | some anchor => event; return .alias anchor
      | none => failure
    let props ← properties
    let tag ← fullTag props.tag
    withAnchor props.anchor do
      match ← peek with
      | some .blockEntry =>
        if indentless then do
          event
          let items ← indentlessItems fuel
          event
          return .sequence tag items
        else bare props tag
      | some (.scalar text plain) =>
        drop
        event
        return .scalar (if tag = some "!" then none else tag) text plain
      | some .flowSequenceStart =>
        drop
        event
        let items ← flowItems true fuel
        event
        return .sequence tag items
      | some .flowMappingStart =>
        drop
        event
        let entries ← flowEntries true fuel
        event
        return .mapping tag entries
      | some .blockSequenceStart =>
        if block then do
          drop
          event
          let items ← blockItems fuel
          event
          return .sequence tag items
        else bare props tag
      | some .blockMappingStart =>
        if block then do
          drop
          event
          let entries ← blockEntries fuel
          event
          return .mapping tag entries
        else bare props tag
      | _ => bare props tag
where
  bare (props : Properties) (tag : Option String) : Build Node := do
    if props.anchor.isNone && props.tag.isNone then failure
    event
    return .scalar tag "" true

def blockItems : Nat → Build (List Node)
  | 0 => failure
  | fuel + 1 => do
    match ← peek with
    | some .blockEntry =>
      drop
      let item ← if ← nextIs [.blockEntry, .blockEnd] then emptyScalar else node true false fuel
      return item :: (← blockItems fuel)
    | some .blockEnd => drop; return []
    | _ => failure

def indentlessItems : Nat → Build (List Node)
  | 0 => failure
  | fuel + 1 => do
    match ← peek with
    | some .blockEntry =>
      drop
      let item ←
        if ← nextIs [.blockEntry, .key, .value, .blockEnd] then emptyScalar
        else node true false fuel
      return item :: (← indentlessItems fuel)
    | _ => return []

def blockEntries : Nat → Build (List (Node × Node))
  | 0 => failure
  | fuel + 1 => do
    match ← peek with
    | some .key =>
      drop
      let name ← blockPart fuel
      let content ←
        if ← nextIs [.value] then do
          drop
          blockPart fuel
        else emptyScalar
      return (name, content) :: (← blockEntries fuel)
    | some .blockEnd => drop; return []
    | _ => failure

/-- The key or the value of an entry, after its mark. -/
def blockPart : Nat → Build Node
  | 0 => failure
  | fuel + 1 => do
    if ← nextIs [.key, .value, .blockEnd] then emptyScalar else node true true fuel

def flowItems (first : Bool) : Nat → Build (List Node)
  | 0 => failure
  | fuel + 1 => do
    if ← nextIs [.flowSequenceEnd] then drop; return []
    if !first then
      if ← nextIs [.flowEntry] then drop else failure
    match ← peek with
    | some .flowSequenceEnd => drop; return []
    | some .key =>
      drop
      event
      let entry ← flowSingle fuel
      event
      return .mapping none [entry] :: (← flowItems false fuel)
    | _ =>
      let item ← node false false fuel
      return item :: (← flowItems false fuel)

/-- A mapping of one entry without braces. Where its key is missing, the next mark is passed. -/
def flowSingle : Nat → Build (Node × Node)
  | 0 => failure
  | fuel + 1 => do
    let name ←
      if ← nextIs [.value, .flowEntry, .flowSequenceEnd] then do
        drop
        emptyScalar
      else node false false fuel
    if ← nextIs [.value] then
      drop
      if ← nextIs [.flowEntry, .flowSequenceEnd] then return (name, ← emptyScalar)
      return (name, ← node false false fuel)
    return (name, ← emptyScalar)

def flowEntries (first : Bool) : Nat → Build (List (Node × Node))
  | 0 => failure
  | fuel + 1 => do
    if ← nextIs [.flowMappingEnd] then drop; return []
    if !first then
      if ← nextIs [.flowEntry] then drop else failure
    match ← peek with
    | some .flowMappingEnd => drop; return []
    | some .key =>
      drop
      let name ←
        if ← nextIs [.value, .flowEntry, .flowMappingEnd] then emptyScalar
        else node false false fuel
      let content ←
        if ← nextIs [.value] then do
          drop
          if ← nextIs [.flowEntry, .flowMappingEnd] then emptyScalar else node false false fuel
        else emptyScalar
      return (name, content) :: (← flowEntries false fuel)
    | _ =>
      let name ← node false false fuel
      let content ← emptyScalar
      return (name, content) :: (← flowEntries false fuel)

end

def directives (version : Bool) : Nat → Build Unit
  | 0 => failure
  | fuel + 1 => do
    match ← peek with
    | some (.versionDirective major minor) =>
      if version || major != 1 || (minor != 1 && minor != 2) then failure
      drop
      directives true fuel
    | some (.tagDirective handle leader) =>
      if ((← get).handles.lookup handle).isSome then failure
      drop
      modify fun b => { b with handles := (handle, leader) :: b.handles }
      directives version fuel
    | _ => return ()

/-- Handles that mean something without a directive, which one of the text may change. -/
def standardHandles : List (String × String) := [("!", "!"), ("!!", "tag:yaml.org,2002:")]

def isDirective : Token → Bool
  | .versionDirective _ _ | .tagDirective _ _ => true
  | _ => false

def document (fuel : Nat) : Build (Option Node) := do
  match ← peek with
  | none => return none
  | some token =>
    let explicit := isDirective token || token == .documentStart
    if explicit then
      directives false fuel
      if ← nextIs [.documentStart] then drop else failure
    modify fun b => { b with handles := b.handles ++ standardHandles }
    let root ← do
      match ← peek with
      | none => emptyScalar
      | some next =>
        if explicit && (isDirective next || next == .documentStart || next == .documentEnd) then
          emptyScalar
        else node true false fuel
    modify fun b => { b with tokens := b.tokens.dropWhile (· == .documentEnd) }
    if (← get).tokens.isEmpty then return some root else failure

end Build

def Document.ofText? (text : String) : Option Document := do
  let tokens ← Token.ofText? text
  let (root, building) ← (Build.document (4 * tokens.length + 10)).run { tokens }
  return { root, anchored := building.anchored, events := building.events }

end UpgradeGate.Yaml
