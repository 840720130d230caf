import ResourceGen.Yaml.Token.Tag

/-!
# From text to tokens

The lexer keeps the indentation of the open blocks and, for each open flow collection, the
place where a key without its sign may have started. When the colon comes, the key sign and, if
need be, the start of a mapping are entered at that place. A key of this kind ends on its line
and within 1024 characters.
-/

namespace ResourceGen.Yaml

/-- A place where a key without its sign may have started. -/
structure KeyStart where
  /-- Whether a key must come of it: it stands at the indentation of its block. -/
  required : Bool
  /-- How many tokens come before it. -/
  before : Nat
  index : Nat
  line : Nat
  column : Nat

/-- The state of the lexer. -/
structure Lexer where
  cursor : Cursor
  /-- The tokens so far, last first. -/
  tokens : List Token := []
  /-- The indentation of the current block; minus one outside all blocks. -/
  indent : Int := -1
  /-- The indentations of the blocks around it. -/
  outer : List Int := []
  /-- Whether a key without its sign may start here. -/
  keyAllowed : Bool := true
  /-- The possible key start of the innermost collection. -/
  keyStart : Option KeyStart := none
  /-- The same for the collections around it; their number is the flow depth. -/
  outerKeys : List (Option KeyStart) := []

namespace Lexer

/-- Whether a flow collection is open. -/
def inFlow (l : Lexer) : Bool := !l.outerKeys.isEmpty

/-- Adds a token at the end. -/
def emit (l : Lexer) (t : Token) : Lexer := { l with tokens := t :: l.tokens }

/-- Adds a token behind the first `n`. -/
def emitAt (l : Lexer) (n : Nat) (t : Token) : Lexer :=
  let later := l.tokens.take (l.tokens.length - n)
  { l with tokens := later ++ t :: l.tokens.drop (l.tokens.length - n) }

/-- Moves to a place. -/
def moveTo (l : Lexer) (c : Cursor) : Lexer := { l with cursor := c }

/-- Closes the blocks that are indented deeper than a column. -/
def unroll (column : Int) : (outer : List Int) → Lexer → Lexer
  | [], l => l
  | o :: rest, l =>
    if l.indent > column then
      unroll column rest { l with tokens := .blockEnd :: l.tokens, indent := o, outer := rest }
    else l

/-- Closes the blocks that are indented deeper than a column, outside flow collections. -/
def closeBlocks (l : Lexer) (column : Int) : Lexer :=
  if l.inFlow then l else unroll column l.outer l

/-- Opens a block at a column if it is deeper than the current one; its start goes behind the
first `n` tokens. -/
def openBlock (l : Lexer) (column : Nat) (n : Nat) (t : Token) : Lexer :=
  if !l.inFlow && l.indent < column then
    { l.emitAt n t with indent := column, outer := l.indent :: l.outer }
  else l

/-- Gives up the possible key start; refused where a key must come. -/
def dropKey (l : Lexer) : Option Lexer :=
  if l.keyStart.any (·.required) then none else some { l with keyStart := none }

/-- Notes that a key may start here. -/
def markKey (l : Lexer) : Option Lexer := do
  if l.keyAllowed then
    let l ← l.dropKey
    let c := l.cursor
    some { l with
      keyStart :=
        some ⟨!l.inFlow && l.indent == c.column, l.tokens.length, c.index, c.line, c.column⟩ }
  else some l

/-- Whether a key can no longer have started at a place. -/
def isStale (c : Cursor) (k : KeyStart) : Bool := k.line < c.line || k.index + 1024 < c.index

/-- A key start unless it is stale; refused when a key must come of a stale one. -/
def refresh (c : Cursor) : Option KeyStart → Option (Option KeyStart)
  | none => some none
  | some k => if isStale c k then (if k.required then none else some none) else some (some k)

/-- Gives up all stale key starts. -/
def refreshKeys (l : Lexer) : Option Lexer := do
  let outer ← l.outerKeys.mapM (refresh l.cursor)
  some { l with keyStart := ← refresh l.cursor l.keyStart, outerKeys := outer }

/-- Passes white space, comments and line breaks up to the next token. -/
def toNextToken : (fuel : Nat) → Lexer → Lexer
  | 0, l => l
  | fuel + 1, l =>
    let c := (l.cursor.takeWhile fun ch =>
      ch == ' ' || (ch == '\t' && (l.inFlow || !l.keyAllowed))).2
    let c := c.skipComment
    if c.breakAt 0 then
      toNextToken fuel { l with cursor := c.skipLine, keyAllowed := l.keyAllowed || !l.inFlow }
    else l.moveTo c

/-! ## One token -/

/-- A directive. -/
def lexDirective (l : Lexer) : Option Lexer := do
  let l ← (l.closeBlocks (-1)).dropKey
  let (t, c) ← directive? l.cursor
  some { (l.emit t).moveTo c with keyAllowed := false }

/-- A mark between documents. -/
def lexDocumentMark (l : Lexer) (t : Token) : Option Lexer := do
  let l ← (l.closeBlocks (-1)).dropKey
  some { (l.emit t).moveTo (l.cursor.skipMany 3) with keyAllowed := false }

/-- The start of a flow collection. -/
def lexFlowStart (l : Lexer) (t : Token) : Option Lexer := do
  let l ← l.markKey
  some { (l.emit t).moveTo l.cursor.skip with
    keyAllowed := true, keyStart := none, outerKeys := l.keyStart :: l.outerKeys }

/-- The end of a flow collection. -/
def lexFlowEnd (l : Lexer) (t : Token) : Option Lexer := do
  let l ← l.dropKey
  let l := { (l.emit t).moveTo l.cursor.skip with keyAllowed := false }
  match l.outerKeys with
  | k :: rest => some { l with keyStart := k, outerKeys := rest }
  | [] => some l

/-- A comma. -/
def lexFlowEntry (l : Lexer) : Option Lexer := do
  let l ← l.dropKey
  some { (l.emit .flowEntry).moveTo l.cursor.skip with keyAllowed := true }

/-- The sign of a block sequence entry. -/
def lexBlockEntry (l : Lexer) : Option Lexer := do
  if !l.inFlow && !l.keyAllowed then none
  else
    let l ← (l.openBlock l.cursor.column l.tokens.length .blockSequenceStart).dropKey
    some { (l.emit .blockEntry).moveTo l.cursor.skip with keyAllowed := true }

/-- The sign of a key. -/
def lexKey (l : Lexer) : Option Lexer := do
  if !l.inFlow && !l.keyAllowed then none
  else
    let l ← (l.openBlock l.cursor.column l.tokens.length .blockMappingStart).dropKey
    some { (l.emit .key).moveTo l.cursor.skip with keyAllowed := !l.inFlow }

/-- The sign of a value, which also ends a key without its sign. -/
def lexValue (l : Lexer) : Option Lexer :=
  match l.keyStart with
  | some k =>
    let l := (l.emitAt k.before .key).openBlock k.column k.before .blockMappingStart
    some { (l.emit .value).moveTo l.cursor.skip with keyStart := none, keyAllowed := false }
  | none =>
    if !l.inFlow && !l.keyAllowed then none
    else
      let l := l.openBlock l.cursor.column l.tokens.length .blockMappingStart
      some { (l.emit .value).moveTo l.cursor.skip with keyAllowed := !l.inFlow }

/-- An anchor or an alias. -/
def lexName (l : Lexer) (make : String → Token) : Option Lexer := do
  let l ← l.markKey
  let (name, c) ← anchorName? l.cursor
  some { (l.emit (make name)).moveTo c with keyAllowed := false }

/-- A tag. -/
def lexTag (l : Lexer) : Option Lexer := do
  let l ← l.markKey
  let (t, c) ← tagToken? l.inFlow l.cursor
  some { (l.emit t).moveTo c with keyAllowed := false }

/-- A block scalar. -/
def lexBlockScalar (l : Lexer) (literal : Bool) : Option Lexer := do
  let l ← l.dropKey
  let (s, c) ← blockScalar literal l.indent l.cursor.skip
  let style := if literal then Style.literal else .folded
  some { (l.emit (.scalar s style)).moveTo c with keyAllowed := true }

/-- A quoted scalar. -/
def lexQuoted (l : Lexer) (single : Bool) : Option Lexer := do
  let l ← l.markKey
  let (f, c) ← quotedScalar single (l.cursor.rest.length + 1) {} l.cursor.skip
  some { (l.emit (.scalar f.result (if single then .singleQuoted else .doubleQuoted))).moveTo c with
    keyAllowed := false }

/-- A plain scalar. -/
def lexPlain (l : Lexer) : Option Lexer := do
  let l ← l.markKey
  let (f, c) ← plainScalar l.inFlow (l.indent + 1) (l.cursor.rest.length + 1) {} l.cursor
  some { (l.emit (.scalar f.result .plain)).moveTo c with keyAllowed := f.broken }

/-- The signs with which no plain scalar starts. -/
def isSign (ch : Char) : Bool := "-?:,[]\x7b\x7d#&*!|>'\"%@`".toList.contains ch

/-- Whether a plain scalar starts here. -/
def startsPlain (l : Lexer) : Bool :=
  let c := l.cursor
  (!c.wordEndAt 0 && !(c.peek? 0).any isSign) || (c.at? '-' && !c.blankAt 1) ||
    (!l.inFlow && (c.at? '?' || c.at? ':') && !c.wordEndAt 1)

/-- The next token at the cursor. -/
def lexToken (l : Lexer) : Option Lexer :=
  let c := l.cursor
  if c.column == 0 && c.at? '%' then l.lexDirective
  else if c.atDocumentMark then
    l.lexDocumentMark (if c.at? '-' then .documentStart else .documentEnd)
  else
    match c.rest with
    | '[' :: _ => l.lexFlowStart .flowSequenceStart
    | '\x7b' :: _ => l.lexFlowStart .flowMappingStart
    | ']' :: _ => l.lexFlowEnd .flowSequenceEnd
    | '\x7d' :: _ => l.lexFlowEnd .flowMappingEnd
    | ',' :: _ => l.lexFlowEntry
    | '*' :: _ => l.lexName .reference
    | '&' :: _ => l.lexName .anchor
    | '!' :: _ => l.lexTag
    | '\'' :: _ => l.lexQuoted true
    | '"' :: _ => l.lexQuoted false
    | _ =>
      if c.at? '-' && c.wordEndAt 1 then l.lexBlockEntry
      else if c.at? '?' && (l.inFlow || c.wordEndAt 1) then l.lexKey
      else if c.at? ':' && (l.inFlow || c.wordEndAt 1) then l.lexValue
      else if c.at? '|' && !l.inFlow then l.lexBlockScalar true
      else if c.at? '>' && !l.inFlow then l.lexBlockScalar false
      else if l.startsPlain then l.lexPlain
      else none

/-- The end of the text: all blocks close. -/
def finish (l : Lexer) : Option (List Token) := do
  let l ← (l.closeBlocks (-1)).dropKey
  some l.tokens.reverse

/-- Reads tokens up to the end of the text. -/
def run : (fuel : Nat) → Lexer → Option (List Token)
  | 0, _ => none
  | fuel + 1, l => do
    let l ← (toNextToken (l.cursor.rest.length + 1) l).refreshKeys
    let l := l.closeBlocks l.cursor.column
    if l.cursor.endAt 0 then l.finish
    else run fuel (← l.lexToken)

end Lexer

/-- The tokens of a text; a byte order mark may stand in front. -/
def tokens? (text : String) : Option (List Token) :=
  let chars := text.toList
  let chars := if chars.head?.any (·.toNat == 0xFEFF) then chars.tail else chars
  if chars.all isAllowedChar then
    Lexer.run (chars.length + 1) { cursor := Cursor.start chars }
  else none

end ResourceGen.Yaml
