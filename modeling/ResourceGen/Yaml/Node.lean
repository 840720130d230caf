import ResourceGen.Yaml.Token.Lexer

/-!
# Nodes and documents

`Document.ofText?` reads a text that holds at most one document. A node is a scalar, a sequence,
a mapping or an alias; an alias refers to its target by number, and the document keeps the
targets, so that an alias may also stand inside the node it refers to.

`Compose` walks the tokens; each of its functions reads what one token has opened.
-/

namespace ResourceGen.Yaml

/-- A node of a document. -/
inductive Node where
  | scalar (tag : Option String) (style : Style) (text : String)
  | sequence (tag : Option String) (items : List Node)
  | mapping (tag : Option String) (entries : List (Node × Node))
  /-- The node with a given anchor number. -/
  | reference (target : Nat)
  deriving Inhabited

/-- The root node of a text, if there is one, and the nodes that aliases refer to. -/
structure Document where
  root : Option Node
  targets : List (Nat × Node)

/-- What composing keeps: the tokens ahead, the tag handles, the number of each anchor name,
the place of each number and the finished nodes by place. -/
structure Composer where
  ahead : List Token
  handles : List (String × String) := []
  anchors : List (String × Nat) := []
  places : List (Nat × Nat) := []
  finished : List (Nat × Node) := []
  nextPlace : Nat := 0

/-- A step of composing. -/
abbrev Compose := StateT Composer Option

namespace Compose

/-- The next token; none at the end. -/
def peek : Compose (Option Token) := do return (← get).ahead.head?

/-- Passes a token. -/
def skip : Compose Unit := modify fun s => { s with ahead := s.ahead.tail }

/-- Passes the next token if it is the given one. -/
def accept (t : Token) : Compose Bool := do
  if (← peek) == some t then
    skip
    return true
  else return false

/-- A scalar that is not there. -/
def emptyNode : Node := .scalar none .plain ""

/-- The tag that a handle and a suffix mean. -/
def tagName (handle suffix : String) : Compose String := do
  if handle.isEmpty then return suffix
  else
    match ((← get).handles ++ [("!", "!"), ("!!", "tag:yaml.org,2002:")]).lookup handle with
    | some start => return start ++ suffix
    | none => failure

/-- Reads an anchor, if there is one. -/
def anchorProperty : Compose (Option String) := do
  match ← peek with
  | some (.anchor name) =>
    skip
    return some name
  | _ => return none

/-- Reads a tag, if there is one. -/
def tagProperty : Compose (Option String) := do
  match ← peek with
  | some (.tag handle suffix) =>
    skip
    return some (← tagName handle suffix)
  | _ => return none

/-- Reads the anchor and the tag of a node, in either order. -/
def properties : Compose (Option String × Option String) := do
  match ← anchorProperty with
  | some a => return (some a, ← tagProperty)
  | none =>
    let t ← tagProperty
    if t.isSome then return (← anchorProperty, t) else return (none, none)

/-- Enters an anchor at the start of its node; gives the place of the node. -/
def enterAnchor (name : Option String) : Compose (Option Nat) := do
  match name with
  | none => return none
  | some name =>
    let s ← get
    let number := s.anchors.length
    set { s with
      anchors := (name, number) :: s.anchors.filter (·.1 != name)
      places := (number, s.nextPlace) :: s.places
      nextPlace := s.nextPlace + 1 }
    return some s.nextPlace

/-- Keeps the node of a place. -/
def finishNode (place : Option Nat) (n : Node) : Compose Node := do
  match place with
  | none => return n
  | some p =>
    modify fun s => { s with finished := (p, n) :: s.finished }
    return n

/-- Whether a token ends an entry of a block mapping before anything has come. -/
def endsBlockPart (t : Option Token) : Bool :=
  t == some .key || t == some .value || t == some .blockEnd

/-- Whether a token ends an entry of a flow mapping before anything has come. -/
def endsFlowPart (close : Token) (t : Option Token) : Bool :=
  t == some .flowEntry || t == some close

mutual

/-- Reads a node; `block` allows block collections, `flush` a sequence without indentation. -/
def node : (fuel : Nat) → (block flush : Bool) → Compose Node
  | 0, _, _ => failure
  | fuel + 1, block, flush => do
    match ← peek with
    | some (.reference name) =>
      skip
      match (← get).anchors.lookup name with
      | some number => return .reference number
      | none => failure
    | _ =>
      let (anchor, tag) ← properties
      match ← peek with
      | some .blockEntry =>
        if flush then
          let p ← enterAnchor anchor
          finishNode p (.sequence tag (← flushEntries fuel))
        else if anchor.isSome || tag.isSome then
          finishNode (← enterAnchor anchor) (.scalar tag .plain "")
        else failure
      | some (.scalar text style) =>
        skip
        finishNode (← enterAnchor anchor) (.scalar tag style text)
      | some .flowSequenceStart =>
        skip
        let p ← enterAnchor anchor
        finishNode p (.sequence tag (← flowItems fuel true))
      | some .flowMappingStart =>
        skip
        let p ← enterAnchor anchor
        finishNode p (.mapping tag (← flowEntries fuel true))
      | some .blockSequenceStart =>
        if block then
          skip
          let p ← enterAnchor anchor
          finishNode p (.sequence tag (← blockItems fuel))
        else if anchor.isSome || tag.isSome then
          finishNode (← enterAnchor anchor) (.scalar tag .plain "")
        else failure
      | some .blockMappingStart =>
        if block then
          skip
          let p ← enterAnchor anchor
          finishNode p (.mapping tag (← blockEntries fuel))
        else if anchor.isSome || tag.isSome then
          finishNode (← enterAnchor anchor) (.scalar tag .plain "")
        else failure
      | _ =>
        if anchor.isSome || tag.isSome then
          finishNode (← enterAnchor anchor) (.scalar tag .plain "")
        else failure

/-- Reads the entries of a block sequence up to its end. -/
def blockItems : (fuel : Nat) → Compose (List Node)
  | 0 => failure
  | fuel + 1 => do
    if ← accept .blockEntry then
      let next ← peek
      let item ←
        if next == some .blockEntry || next == some .blockEnd then pure emptyNode
        else node fuel true false
      return item :: (← blockItems fuel)
    else if ← accept .blockEnd then return []
    else failure

/-- Reads the entries of a sequence that stands at the indentation of its mapping. -/
def flushEntries : (fuel : Nat) → Compose (List Node)
  | 0 => failure
  | fuel + 1 => do
    if ← accept .blockEntry then
      let next ← peek
      let item ←
        if next == some .blockEntry || endsBlockPart next then pure emptyNode
        else node fuel true false
      return item :: (← flushEntries fuel)
    else return []

/-- Reads the entries of a block mapping up to its end. -/
def blockEntries : (fuel : Nat) → Compose (List (Node × Node))
  | 0 => failure
  | fuel + 1 => do
    if ← accept .key then
      let k ← if endsBlockPart (← peek) then pure emptyNode else node fuel true true
      let v ←
        if ← accept .value then
          if endsBlockPart (← peek) then pure emptyNode else node fuel true true
        else pure emptyNode
      return (k, v) :: (← blockEntries fuel)
    else if ← accept .blockEnd then return []
    else failure

/-- Reads the value behind a key inside a flow collection. -/
def flowValue : (fuel : Nat) → (close : Token) → Compose Node
  | 0, _ => failure
  | fuel + 1, close => do
    if ← accept .value then
      if endsFlowPart close (← peek) then pure emptyNode else node fuel false false
    else pure emptyNode

/-- Reads the items of a flow sequence up to its end. An item with a key is a mapping of one
entry; a key sign with nothing behind it takes the next token with it. -/
def flowItems : (fuel : Nat) → (first : Bool) → Compose (List Node)
  | 0, _ => failure
  | fuel + 1, first => do
    if ← accept .flowSequenceEnd then return []
    else
      let separated ← if first then pure true else accept .flowEntry
      if !separated then failure
      else if ← accept .flowSequenceEnd then return []
      else if ← accept .key then
        let next ← peek
        let k ←
          if next == some .value || endsFlowPart .flowSequenceEnd next then do
            skip
            pure emptyNode
          else node fuel false false
        let v ← flowValue fuel .flowSequenceEnd
        return .mapping none [(k, v)] :: (← flowItems fuel false)
      else
        let item ← node fuel false false
        return item :: (← flowItems fuel false)

/-- Reads the entries of a flow mapping up to its end. -/
def flowEntries : (fuel : Nat) → (first : Bool) → Compose (List (Node × Node))
  | 0, _ => failure
  | fuel + 1, first => do
    if ← accept .flowMappingEnd then return []
    else
      let separated ← if first then pure true else accept .flowEntry
      if !separated then failure
      else if ← accept .flowMappingEnd then return []
      else if ← accept .key then
        let next ← peek
        let k ←
          if next == some .value || endsFlowPart .flowMappingEnd next then pure emptyNode
          else node fuel false false
        let v ← flowValue fuel .flowMappingEnd
        return (k, v) :: (← flowEntries fuel false)
      else
        let k ← node fuel false false
        return (k, emptyNode) :: (← flowEntries fuel false)

end

/-! ## Documents -/

/-- Reads the directives in front of a document; at most one version, and each handle once. -/
def directives : (fuel : Nat) → (versioned : Bool) → Compose Unit
  | 0, _ => failure
  | fuel + 1, versioned => do
    match ← peek with
    | some (.versionDirective major minor) =>
      if versioned || major != 1 || (minor != 1 && minor != 2) then failure
      else
        skip
        directives fuel true
    | some (.tagDirective handle start) =>
      if ((← get).handles.lookup handle).isSome then failure
      else
        skip
        modify fun s => { s with handles := (handle, start) :: s.handles }
        directives fuel versioned
    | _ => return

/-- Whether a document ends here before anything has come. -/
def endsDocument : Option Token → Bool
  | none | some .documentStart | some .documentEnd | some (.versionDirective _ _)
  | some (.tagDirective _ _) => true
  | _ => false

/-- Passes marks of a document's end. -/
def skipEnds : (fuel : Nat) → Compose Unit
  | 0 => return
  | fuel + 1 => do if ← accept .documentEnd then skipEnds fuel else return

/-- Reads a text of at most one document. -/
def document (fuel : Nat) : Compose (Option Node) := do
  match ← peek with
  | none => return none
  | some t =>
    let root ←
      if t != .documentEnd && endsDocument (some t) then do
        directives fuel false
        if ← accept .documentStart then
          if endsDocument (← peek) then pure emptyNode else node fuel true false
        else failure
      else node fuel true false
    skipEnds fuel
    if (← peek).isNone then return some root else failure

end Compose

/-- Reads a text of at most one document. -/
def Document.ofText? (text : String) : Option Document := do
  let ts ← tokens? text
  let (root, s) ← (Compose.document (4 * ts.length + 8)).run { ahead := ts }
  let targets := s.places.filterMap fun (number, place) =>
    (s.finished.lookup place).map fun n => (number, n)
  some ⟨root, targets⟩

end ResourceGen.Yaml
