import EnvRegistry.Yaml.Scanner

/-! # From tokens to nodes

    `document` reads the only document of a text.  Its nodes are scalars, lists,
    mappings and aliases; an alias holds the number of the node it stands for, which
    is found among the anchored nodes. -/

namespace EnvRegistry.Yaml

/-- A node of a document. -/
inductive Node where
  | scalar (text : String) (style : Style) (tag : Option String)
  | sequence (items : List Node)
  | mapping (entries : List (Node × Node))
  /-- Stands for the anchored node with this number. -/
  | alias (target : Nat)
  deriving Inhabited

/-- A node without any text. -/
def Node.empty (tag : Option String) : Node := .scalar "" .plain tag

/-- What has been read of a document. -/
structure Composer where
  /-- The tokens that are still to be read. -/
  tokens : List Token
  /-- The handles of tags and what they stand for. -/
  handles : List (String × String) := []
  /-- The names of the anchors, each with its number. -/
  anchors : List (String × Nat) := []
  /-- The numbers of the anchored nodes in the order in which the nodes begin, newest first. -/
  begun : List Nat := []
  /-- The anchored nodes that are complete, by their place in that order. -/
  anchored : List (Nat × Node) := []

/-- A step of reading a document. -/
abbrev ComposeM := StateT Composer (Except Fault)

namespace Composer

/-! ## Tokens -/

/-- The next token. -/
def peek : ComposeM (Option Token) := return (← get).tokens.head?

/-- Passes over the next token. -/
def skip : ComposeM Unit := modify fun c => { c with tokens := c.tokens.tail }

/-- Whether the next token is one of some. -/
def nextIsOneOf (ts : List Token) : ComposeM Bool := do
  match ← peek with
  | some t => return ts.contains t
  | none => return false

/-! ## Properties of nodes -/

/-- The handles that need no directive. -/
def standardHandles : List (String × String) := [("!", "!"), ("!!", "tag:yaml.org,2002:")]

/-- The full name of a tag. -/
def resolveTag (handle suffix : String) : ComposeM String := do
  if handle.isEmpty then return suffix
  match (← get).handles.lookup handle with
  | some start => return start ++ suffix
  | none => throw .unknownTagHandle

/-- Reads the anchor and the tag of a node, in either order. -/
def properties : ComposeM (Option String × Option String) := do
  match ← peek with
  | some (.anchor a) =>
    skip
    match ← peek with
    | some (.tag h s) =>
      skip
      return (some a, some (← resolveTag h s))
    | _ => return (some a, none)
  | some (.tag h s) =>
    skip
    match ← peek with
    | some (.anchor a) =>
      skip
      return (some a, some (← resolveTag h s))
    | _ => return (none, some (← resolveTag h s))
  | _ => return (none, none)

/-- Numbers an anchor by how many names are in use, and gives back the place of its node.  A name
that is used again keeps its slot, so the anchor after it shares its number. -/
def openAnchor (anchor : Option String) : ComposeM (Option Nat) := do
  match anchor with
  | none => return none
  | some a =>
    let c ← get
    let n := c.anchors.length
    set { c with anchors := (a, n) :: c.anchors.filter (·.1 ≠ a), begun := n :: c.begun }
    return some c.begun.length

/-- Keeps an anchored node under its place. -/
def closeAnchor (place : Option Nat) (node : Node) : ComposeM Node := do
  match place with
  | none => return node
  | some p =>
    modify fun c => { c with anchored := (p, node) :: c.anchored }
    return node

/-- The anchored nodes by their numbers; of nodes that share one, those that began later come
first. -/
def targets (c : Composer) : List (Nat × Node) :=
  let places := (List.range c.begun.length).reverse
  (c.begun.zip places).filterMap fun (n, place) => (c.anchored.lookup place).map (n, ·)

/-- The number of an anchor. -/
def lookUpAnchor (name : String) : ComposeM Node := do
  match (← get).anchors.lookup name with
  | some n => return .alias n
  | none => throw .unknownAnchor

/-! ## Nodes -/

mutual

/-- Reads a node.  Blocks may start where `block` says so, and a list whose entries are not
indented where `unindented` says so. -/
def node : (fuel : Nat) → (block unindented : Bool) → ComposeM Node
  | 0, _, _ => throw .tooDeep
  | fuel + 1, block, unindented => do
    match ← peek with
    | some (.alias name) =>
      skip
      lookUpAnchor name
    | _ =>
      let (anchor, tag) ← properties
      let place ← openAnchor anchor
      let content ← match ← peek with
        | some .blockEntry =>
          if unindented then unindentedItems fuel []
          else if anchor.isSome || tag.isSome then pure (Node.empty tag)
          else throw .contentExpected
        | some (.scalar text style) => do
          skip
          pure (Node.scalar text style tag)
        | some .flowSequenceStart => do
          skip
          flowItems fuel true []
        | some .flowMappingStart => do
          skip
          flowEntries fuel true []
        | some .blockSequenceStart =>
          if block then do
            skip
            blockItems fuel []
          else if anchor.isSome || tag.isSome then pure (Node.empty tag)
          else throw .contentExpected
        | some .blockMappingStart =>
          if block then do
            skip
            blockEntries fuel []
          else if anchor.isSome || tag.isSome then pure (Node.empty tag)
          else throw .contentExpected
        | _ =>
          if anchor.isSome || tag.isSome then pure (Node.empty tag)
          else throw .contentExpected
      closeAnchor place content

/-- Reads a node, or an empty one before one of the given tokens. -/
def nodeUnless : (fuel : Nat) → (block unindented : Bool) → List Token → ComposeM Node
  | 0, _, _, _ => throw .tooDeep
  | fuel + 1, block, unindented, stops => do
    if ← nextIsOneOf stops then return Node.empty none
    node fuel block unindented

/-- Reads the entries of a list in a block of its own. -/
def blockItems : (fuel : Nat) → List Node → ComposeM Node
  | 0, _ => throw .tooDeep
  | fuel + 1, acc => do
    match ← peek with
    | some .blockEntry =>
      skip
      let item ← nodeUnless fuel true false [.blockEntry, .blockEnd]
      blockItems fuel (item :: acc)
    | some .blockEnd =>
      skip
      return .sequence acc.reverse
    | _ => throw .entryExpected

/-- Reads the entries of a list that is indented no deeper than the key before it. -/
def unindentedItems : (fuel : Nat) → List Node → ComposeM Node
  | 0, _ => throw .tooDeep
  | fuel + 1, acc => do
    match ← peek with
    | some .blockEntry =>
      skip
      let item ← nodeUnless fuel true false [.blockEntry, .key, .value, .blockEnd]
      unindentedItems fuel (item :: acc)
    | _ => return .sequence acc.reverse

/-- Reads the entries of a mapping in a block. -/
def blockEntries : (fuel : Nat) → List (Node × Node) → ComposeM Node
  | 0, _ => throw .tooDeep
  | fuel + 1, acc => do
    match ← peek with
    | some .key =>
      skip
      let key ← nodeUnless fuel true true [.key, .value, .blockEnd]
      match ← peek with
      | some .value =>
        skip
        let value ← nodeUnless fuel true true [.key, .value, .blockEnd]
        blockEntries fuel ((key, value) :: acc)
      | _ => blockEntries fuel ((key, Node.empty none) :: acc)
    | some .blockEnd =>
      skip
      return .mapping acc.reverse
    | _ => throw .keyExpected

/-- Reads the entries of a list between brackets. -/
def flowItems : (fuel : Nat) → (first : Bool) → List Node → ComposeM Node
  | 0, _, _ => throw .tooDeep
  | fuel + 1, first, acc => do
    if ← nextIsOneOf [.flowSequenceEnd] then
      skip
      return .sequence acc.reverse
    if !first then
      if ← nextIsOneOf [.flowEntry] then skip else throw .commaExpected
    match ← peek with
    | some .flowSequenceEnd =>
      skip
      return .sequence acc.reverse
    | some .key =>
      skip
      let entry ← flowPair fuel
      flowItems fuel false (entry :: acc)
    | _ =>
      let item ← node fuel false false
      flowItems fuel false (item :: acc)

/-- Reads a mapping of a single entry that stands in a list without brackets of its own. -/
def flowPair : (fuel : Nat) → ComposeM Node
  | 0 => throw .tooDeep
  | fuel + 1 => do
    let key ← if ← nextIsOneOf [.value, .flowEntry, .flowSequenceEnd] then do
        skip
        pure (Node.empty none)
      else node fuel false false
    if ← nextIsOneOf [.value] then
      skip
      let value ← nodeUnless fuel false false [.flowEntry, .flowSequenceEnd]
      return .mapping [(key, value)]
    return .mapping [(key, Node.empty none)]

/-- Reads the entries of a mapping between braces. -/
def flowEntries : (fuel : Nat) → (first : Bool) → List (Node × Node) → ComposeM Node
  | 0, _, _ => throw .tooDeep
  | fuel + 1, first, acc => do
    if ← nextIsOneOf [.flowMappingEnd] then
      skip
      return .mapping acc.reverse
    if !first then
      if ← nextIsOneOf [.flowEntry] then skip else throw .commaExpected
    match ← peek with
    | some .flowMappingEnd =>
      skip
      return .mapping acc.reverse
    | some .key =>
      skip
      let key ← nodeUnless fuel false false [.value, .flowEntry, .flowMappingEnd]
      if ← nextIsOneOf [.value] then
        skip
        let value ← nodeUnless fuel false false [.flowEntry, .flowMappingEnd]
        flowEntries fuel false ((key, value) :: acc)
      else flowEntries fuel false ((key, Node.empty none) :: acc)
    | _ =>
      let key ← node fuel false false
      flowEntries fuel false ((key, Node.empty none) :: acc)

end

/-! ## Documents -/

/-- Reads the directives before a document. -/
def directives : (fuel : Nat) → (versionSeen : Bool) → ComposeM Unit
  | 0, _ => throw .tooDeep
  | fuel + 1, versionSeen => do
    match ← peek with
    | some (.versionDirective major minor) =>
      if versionSeen then throw .repeatedDirective
      if major ≠ 1 || (minor ≠ 1 && minor ≠ 2) then throw .incompatibleVersion
      skip
      directives fuel true
    | some (.tagDirective handle start) =>
      if ((← get).handles.lookup handle).isSome then throw .repeatedDirective
      modify fun c => { c with handles := (handle, start) :: c.handles }
      skip
      directives fuel versionSeen
    | _ => modify fun c => { c with handles := c.handles ++ standardHandles }

/-- Passes over markers of the end of a document. -/
def skipDocumentEnds : ComposeM Unit :=
  modify fun c => { c with tokens := c.tokens.dropWhile (· == .documentEnd) }

/-- Reads the only document of a text, if there is one. -/
def onlyDocument (fuel : Nat) : ComposeM (Option Node) := do
  match ← peek with
  | none => return none
  | some t =>
    let explicit := match t with
      | .versionDirective _ _ | .tagDirective _ _ | .documentStart => true
      | _ => false
    directives fuel false
    let root ← if explicit then do
        if ← nextIsOneOf [.documentStart] then skip else throw .documentStartExpected
        match ← peek with
        | none | some (.versionDirective _ _) | some (.tagDirective _ _) | some .documentStart
        | some .documentEnd => pure (Node.empty none)
        | _ => node fuel true false
      else node fuel true false
    skipDocumentEnds
    match ← peek with
    | none => return some root
    | some _ => throw .severalDocuments

end Composer

/-- A document: its root and its anchored nodes.  A number stands for the first node it has. -/
structure Document where
  root : Node
  anchored : List (Nat × Node)

/-- The node that a node stands for; an alias never stands for another one. -/
def Document.resolve (d : Document) : Node → Node
  | .alias n => (d.anchored.lookup n).getD (Node.empty none)
  | n => n

/-- The only document of a text, unless there is none.  Every step takes a token or goes down one
of three calls, so four times their number is fuel enough. -/
def document (text : String) : Except Fault (Option Document) := do
  let ts ← tokens text
  let (root, c) ← (Composer.onlyDocument (4 * ts.length + 4)).run { tokens := ts }
  return root.map fun r => ⟨r, c.targets⟩

end EnvRegistry.Yaml
