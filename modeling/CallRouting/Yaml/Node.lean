import CallRouting.Yaml.Token

/-!
# YAML nodes

A `Node` is a document with its references still unresolved.

* `Compose` : the state of reading nodes from tokens; each reading consumes the tokens of one node;
* `Compose.node` : a node with its anchor and tag;
* `Document.compose?` : the one document of a token list, which may be empty.
-/

namespace CallRouting.Yaml

inductive Node where
  | scalar (tag : Option (List UInt8)) (plain : Bool) (text : List Char)
  | sequence (tag : Option (List UInt8)) (items : List Node)
  | mapping (tag : Option (List UInt8)) (entries : List (Node × Node))
  /-- Stands for the node whose anchor has this number. -/
  | reference (anchor : Nat)

/-- A node that is not written out. -/
def Node.absent : Node := .scalar none true []

/-- An anchored node. Its number is how many names were in use before it, so another node can come
to have the same number; the one that began last is meant. -/
structure Anchored where
  number : Nat
  order : Nat
  node : Node

structure Composition where
  tokens : List Token
  tagAliases : List (List Char × List UInt8) := []
  /-- The anchor names in use, each with the number that it stands for now. -/
  names : List (List Char × Nat) := []
  /-- How many anchored nodes have begun. -/
  begun : Nat := 0
  anchored : List Anchored := []
  /-- How many scalars, references and ends of collections the document has. -/
  events : Nat := 0

abbrev Compose := StateT Composition Option

namespace Compose

def peek : Compose (Option Token) := do return (← get).tokens.head?

def skip : Compose Unit := modify fun c => { c with tokens := c.tokens.tail }

def tick (n : Nat) : Compose Unit := modify fun c => { c with events := c.events + n }

/-- Whether the next token is one of these. -/
def atAny (ts : List Token) : Compose Bool := do
  match ← peek with
  | some t => return t ∈ ts
  | none => return false

def absent : Compose Node := do
  tick 1
  return .absent

/-! ## Anchors and tags -/

/-- The anchor and the tag before a node, in either order. -/
def properties : Compose (Option (List Char) × Option (List Char × List UInt8)) := do
  match (← get).tokens with
  | .anchor a :: .tag h s :: _ => do skip; skip; return (some a, some (h, s))
  | .tag h s :: .anchor a :: _ => do skip; skip; return (some a, some (h, s))
  | .anchor a :: _ => do skip; return (some a, none)
  | .tag h s :: _ => do skip; return (none, some (h, s))
  | _ => return (none, none)

def tagOctets (t : Option (List Char × List UInt8)) : Compose (Option (List UInt8)) := do
  match t with
  | none => return none
  | some ([], text) => return some text
  | some (handle, suffix) =>
    match (← get).tagAliases.lookup handle with
    | some stem => return some (stem ++ suffix)
    | none => failure

/-- Gives the anchor a number; the node is recorded under it once it has been read. -/
def begin_ (anchor : Option (List Char)) : Compose (Option (Nat × Nat)) := do
  match anchor with
  | none => return none
  | some name =>
    let c ← get
    let number := c.names.length
    set { c with names := (name, number) :: c.names.filter (·.1 ≠ name), begun := c.begun + 1 }
    return some (number, c.begun)

def record (place : Option (Nat × Nat)) (node : Node) : Compose Node := do
  match place with
  | none => return node
  | some (number, order) =>
    modify fun c => { c with anchored := ⟨number, order, node⟩ :: c.anchored }
    return node

/-! ## Nodes -/

mutual

def node : Nat → Bool → Bool → Compose Node
  | 0, _, _ => failure
  | fuel + 1, block, indentless => do
    match ← peek with
    | some (.reference name) =>
      skip
      tick 1
      match (← get).names.lookup name with
      | some number => return .reference number
      | none => failure
    | _ =>
      let (anchor, tagged) ← properties
      let tag ← tagOctets tagged
      let place ← begin_ anchor
      let unwritten : Compose Node := do
        if anchor.isNone && tag.isNone then failure
        tick 1
        return .scalar tag true []
      let n ← match ← peek with
        | some (.scalar plain text) => do
          skip
          tick 1
          pure (.scalar (if tag = some [0x21] then none else tag) plain text)
        | some .flowSequence => do
          skip
          tick 2
          pure (.sequence tag (← flowItems fuel true))
        | some .flowMapping => do
          skip
          tick 2
          pure (.mapping tag (← flowEntries fuel true))
        | some .blockSequence =>
          if block then do
            skip
            tick 2
            pure (.sequence tag (← blockItems fuel))
          else unwritten
        | some .blockMapping =>
          if block then do
            skip
            tick 2
            pure (.mapping tag (← blockEntries fuel))
          else unwritten
        | some .entry =>
          if indentless then do
            tick 2
            pure (.sequence tag (← indentlessItems fuel))
          else unwritten
        | _ => unwritten
      record place n

def blockItems : Nat → Compose (List Node)
  | 0 => failure
  | fuel + 1 => do
    match ← peek with
    | some .entry =>
      skip
      let item ← if ← atAny [.entry, .blockEnd] then absent else node fuel true false
      return item :: (← blockItems fuel)
    | some .blockEnd =>
      skip
      return []
    | _ => failure

/-- The items of a sequence in a mapping that is indented no further than the mapping's keys. -/
def indentlessItems : Nat → Compose (List Node)
  | 0 => failure
  | fuel + 1 => do
    match ← peek with
    | some .entry =>
      skip
      let item ← if ← atAny [.entry, .key, .value, .blockEnd] then absent
        else node fuel true false
      return item :: (← indentlessItems fuel)
    | _ => return []

def blockEntries : Nat → Compose (List (Node × Node))
  | 0 => failure
  | fuel + 1 => do
    match ← peek with
    | some .key =>
      skip
      let k ← if ← atAny [.key, .value, .blockEnd] then absent else node fuel true true
      let v ← if ← atAny [.value] then do
          skip
          if ← atAny [.key, .value, .blockEnd] then absent else node fuel true true
        else absent
      return (k, v) :: (← blockEntries fuel)
    | some .blockEnd =>
      skip
      return []
    | _ => failure

def flowItems : Nat → Bool → Compose (List Node)
  | 0, _ => failure
  | fuel + 1, first => do
    if ← atAny [.flowSequenceEnd] then
      skip
      return []
    if !first then
      if ← atAny [.comma] then skip else failure
    match ← peek with
    | some .flowSequenceEnd =>
      skip
      return []
    | some .key =>
      skip
      tick 2
      let k ← if ← atAny [.value, .comma, .flowSequenceEnd] then do
          skip
          absent
        else node fuel false false
      let v ← flowValue fuel .flowSequenceEnd
      return .mapping none [(k, v)] :: (← flowItems fuel false)
    | _ =>
      let item ← node fuel false false
      return item :: (← flowItems fuel false)

def flowEntries : Nat → Bool → Compose (List (Node × Node))
  | 0, _ => failure
  | fuel + 1, first => do
    if ← atAny [.flowMappingEnd] then
      skip
      return []
    if !first then
      if ← atAny [.comma] then skip else failure
    match ← peek with
    | some .flowMappingEnd =>
      skip
      return []
    | some .key =>
      skip
      let k ← if ← atAny [.value, .comma, .flowMappingEnd] then absent else node fuel false false
      let v ← flowValue fuel .flowMappingEnd
      return (k, v) :: (← flowEntries fuel false)
    | _ =>
      let k ← node fuel false false
      let v ← absent
      return (k, v) :: (← flowEntries fuel false)

/-- The value after a key in a flow collection that ends with the token `close`. -/
def flowValue : Nat → Token → Compose Node
  | 0, _ => failure
  | fuel + 1, close => do
    if ← atAny [.value] then
      skip
      if ← atAny [.comma, close] then absent else node fuel false false
    else absent

end

/-! ## Documents -/

/-- The directives before a document, in order. A version must be 1.1 or 1.2. -/
def directives : Nat → Bool → Compose Unit
  | 0, _ => failure
  | fuel + 1, versioned => do
    match ← peek with
    | some (.version major minor) =>
      if versioned || major ≠ 1 || (minor ≠ 1 && minor ≠ 2) then failure
      skip
      directives fuel true
    | some (.tagAlias handle stem) =>
      let c ← get
      if (c.tagAliases.lookup handle).isSome then failure
      set { c with tagAliases := c.tagAliases ++ [(handle, stem)] }
      skip
      directives fuel versioned
    | _ => return ()

/-- The handles that need no directive, unless one defines them anew. -/
def defaultTagAliases : List (List Char × List UInt8) :=
  [(['!'], [0x21]), (['!', '!'], "tag:yaml.org,2002:".toUTF8.toList)]

/-- Whether the next token can only come before a document or after it. -/
def atMargin : Compose Bool := do
  match ← peek with
  | some (.version ..) | some (.tagAlias ..) | some .documentStart | some .documentEnd | none =>
    return true
  | _ => return false

def useDefaults : Compose Unit :=
  modify fun c => { c with tagAliases := c.tagAliases ++ defaultTagAliases }

def document (fuel : Nat) : Compose Node := do
  match ← peek with
  | some (.version ..) | some (.tagAlias ..) | some .documentStart =>
    directives fuel false
    useDefaults
    match ← peek with
    | some .documentStart =>
      skip
      if ← atMargin then absent else node fuel true false
    | _ => failure
  | _ =>
    useDefaults
    node fuel true false

end Compose

/-- A node with the nodes that its references stand for. -/
structure Document where
  root : Node
  anchored : List Anchored
  events : Nat

namespace Document

/-- The node whose anchor has this number. -/
def target? (d : Document) (number : Nat) : Option Node :=
  ((d.anchored.filter (·.number = number)).foldl
    (fun best a => match best with
      | some b => if b.order < a.order then some a else some b
      | none => some a) none).map (·.node)

/-- The only document of the tokens; without any tokens it is empty. -/
def compose? (tokens : List Token) : Option Document :=
  if tokens.isEmpty then some { root := .absent, anchored := [], events := 1 }
  else
    match (Compose.document (3 * tokens.length + 3)).run { tokens } with
    | some (root, c) =>
      if c.tokens.all (· = .documentEnd) then
        some { root, anchored := c.anchored, events := c.events }
      else none
    | none => none

end Document
end CallRouting.Yaml
