import ResourceGen.Yaml.Cursor
import ResourceGen.Yaml.Token

/-!
# Scalars

Reading plain, quoted and block scalars. A scalar may run over several lines; `Fold` collects
its text together with the white space that is only kept if more text follows.
-/

namespace ResourceGen.Yaml

/-- Text read so far, reversed, and the white space behind it: blanks on the same line, or the
first line break and the ones after it. -/
structure Fold where
  text : List Char := []
  blanks : List Char := []
  firstBreak : List Char := []
  moreBreaks : List Char := []
  /-- Whether a line break has been met since the last text. -/
  broken : Bool := false

namespace Fold

/-- Adds characters to the text. -/
def add (f : Fold) (cs : List Char) : Fold := { f with text := cs.reverse ++ f.text }

/-- Turns the pending white space into text: a single line break becomes a space. -/
def settle (f : Fold) : Fold :=
  let space :=
    if f.broken then
      if f.firstBreak == ['\n'] then (if f.moreBreaks.isEmpty then [' '] else f.moreBreaks)
      else f.firstBreak ++ f.moreBreaks
    else f.blanks
  { text := space.reverse ++ f.text }

/-- Passes a blank. -/
def blank (f : Fold) (ch : Char) : Fold :=
  if f.broken then f else { f with blanks := f.blanks ++ [ch] }

/-- Passes a line break. -/
def lineBreak (f : Fold) (br : List Char) : Fold :=
  if f.broken then { f with moreBreaks := f.moreBreaks ++ br }
  else { f with blanks := [], firstBreak := br, broken := true }

/-- The text without pending white space. -/
def result (f : Fold) : String := String.ofList f.text.reverse

end Fold

/-! ## Plain scalars -/

/-- Whether a plain scalar ends here, or cannot go on. -/
def plainEnds (inFlow : Bool) (c : Cursor) : Bool :=
  (c.at? ':' && c.wordEndAt 1) ||
    (inFlow && (c.at? ',' || c.at? '[' || c.at? ']' || c.at? '\x7b' || c.at? '\x7d'))

/-- Whether a colon stands where a flow collection allows none. -/
def strayColon (inFlow : Bool) (c : Cursor) : Bool :=
  inFlow && c.at? ':' &&
    (c.peek? 1).any fun ch =>
      ch == ',' || ch == '?' || ch == '[' || ch == ']' || ch == '\x7b' || ch == '\x7d'

/-- Reads a run of text of a plain scalar. -/
def plainText (inFlow : Bool) : (fuel : Nat) → Fold → Cursor → Option (Fold × Cursor)
  | 0, _, _ => none
  | fuel + 1, f, c =>
    if c.wordEndAt 0 then some (f, c)
    else if strayColon inFlow c then none
    else if plainEnds inFlow c then some (f, c)
    else
      match c.rest with
      | ch :: _ =>
        let f := if f.broken || !f.blanks.isEmpty then f.settle else f
        plainText inFlow fuel (f.add [ch]) c.skip
      | [] => some (f, c)

/-- Reads the white space behind text of a plain scalar; a tab may not stand for indentation. -/
def plainSpace (indent : Int) : (fuel : Nat) → Fold → Cursor → Option (Fold × Cursor)
  | 0, _, _ => none
  | fuel + 1, f, c =>
    if c.blankAt 0 then
      if f.broken && (c.column : Int) < indent && c.at? '\t' then none
      else plainSpace indent fuel (f.blank (c.rest.headD ' ')) c.skip
    else if c.breakAt 0 then plainSpace indent fuel (f.lineBreak c.breakText) c.skipLine
    else some (f, c)

/-- Reads a plain scalar in a block of the given indentation. -/
def plainScalar (inFlow : Bool) (indent : Int) :
    (fuel : Nat) → Fold → Cursor → Option (Fold × Cursor)
  | 0, _, _ => none
  | fuel + 1, f, c =>
    if c.atDocumentMark || c.at? '#' then some (f, c)
    else do
      let (f, c) ← plainText inFlow (c.rest.length + 1) f c
      if !(c.blankAt 0 || c.breakAt 0) then some (f, c)
      else
        let (f, c) ← plainSpace indent (c.rest.length + 1) f c
        if !inFlow && (c.column : Int) < indent then some (f, c)
        else plainScalar inFlow indent fuel f c

/-! ## Quoted scalars -/

/-- The value of a hexadecimal digit. -/
def hexDigit? (c : Char) : Option Nat :=
  if '0' ≤ c && c ≤ '9' then some (c.toNat - '0'.toNat)
  else if 'a' ≤ c && c ≤ 'f' then some (c.toNat - 'a'.toNat + 10)
  else if 'A' ≤ c && c ≤ 'F' then some (c.toNat - 'A'.toNat + 10)
  else none

/-- The number written by hexadecimal digits. -/
def hexNumber? (ds : List Char) : Option Nat :=
  ds.foldlM (fun n d => (hexDigit? d).map (n * 16 + ·)) 0

/-- The character that a one-letter escape stands for. -/
def escapeChar? : Char → Option Nat
  | '0' => some 0
  | 'a' => some 7
  | 'b' => some 8
  | 't' | '\t' => some 9
  | 'n' => some 10
  | 'v' => some 11
  | 'f' => some 12
  | 'r' => some 13
  | 'e' => some 27
  | ' ' => some 32
  | '"' => some 34
  | '/' => some 47
  | '\\' => some 92
  | 'N' => some 0x85
  | '_' => some 0xA0
  | 'L' => some 0x2028
  | 'P' => some 0x2029
  | _ => none

/-- How many hexadecimal digits an escape takes. -/
def escapeDigits? : Char → Option Nat
  | 'x' => some 2
  | 'u' => some 4
  | 'U' => some 8
  | _ => none

/-- Reads an escape that starts with the backslash here. -/
def readEscape? (c : Cursor) : Option (Char × Cursor) := do
  let e ← c.peek? 1
  let c := c.skipMany 2
  match escapeDigits? e with
  | some n =>
    let digits := c.rest.take n
    if digits.length < n then none
    else
      let code ← hexNumber? digits
      if (0xD800 ≤ code && code ≤ 0xDFFF) || code > 0x10FFFF then none
      else some (Char.ofNat code, c.skipMany n)
  | none => do some (Char.ofNat (← escapeChar? e), c)

/-- Reads a run of text of a quoted scalar, up to white space or the closing quote. -/
def quotedText (single : Bool) : (fuel : Nat) → Fold → Cursor → Option (Fold × Cursor)
  | 0, _, _ => none
  | fuel + 1, f, c =>
    if c.wordEndAt 0 then some (f, c)
    else if single && c.at? '\'' && c.atPlace 1 '\'' then
      quotedText single fuel (f.add ['\'']) (c.skipMany 2)
    else if c.at? (if single then '\'' else '"') then some (f, c)
    else if !single && c.at? '\\' then
      if c.breakAt 1 then some ({ f with broken := true }, c.skip.skipLine)
      else do
        let (ch, c) ← readEscape? c
        quotedText single fuel (f.add [ch]) c
    else
      match c.rest with
      | ch :: _ => quotedText single fuel (f.add [ch]) c.skip
      | [] => none

/-- Reads the white space behind text of a quoted scalar. -/
def quotedSpace : (fuel : Nat) → Fold → Cursor → Fold × Cursor
  | 0, f, c => (f, c)
  | fuel + 1, f, c =>
    if c.blankAt 0 then quotedSpace fuel (f.blank (c.rest.headD ' ')) c.skip
    else if c.breakAt 0 then quotedSpace fuel (f.lineBreak c.breakText) c.skipLine
    else (f, c)

/-- Reads a quoted scalar behind its opening quote. -/
def quotedScalar (single : Bool) : (fuel : Nat) → Fold → Cursor → Option (Fold × Cursor)
  | 0, _, _ => none
  | fuel + 1, f, c =>
    if c.atDocumentMark || c.endAt 0 then none
    else do
      let (f, c) ← quotedText single (c.rest.length + 1) f c
      if c.at? (if single then '\'' else '"') then some (f, c.skip)
      else
        let (f, c) := quotedSpace (c.rest.length + 1) f c
        quotedScalar single fuel f.settle c

/-! ## Block scalars -/

/-- What becomes of the line breaks at the end of a block scalar. -/
inductive Chomping where
  | strip
  | clip
  | keep
  deriving DecidableEq

/-- The chomping mark here, if there is one. -/
def chompingMark? (c : Cursor) : Option Chomping :=
  if c.at? '+' then some .keep else if c.at? '-' then some .strip else none

/-- The indentation digit here, if there is one; zero is refused. -/
def indentMark? (c : Cursor) : Option (Option Nat) :=
  match c.rest.head? with
  | some d =>
    if d.isDigit then (if d == '0' then none else some (some (d.toNat - '0'.toNat)))
    else some none
  | none => some none

/-- Reads the marks behind the sign of a block scalar, in either order. -/
def blockMarks? (c : Cursor) : Option (Chomping × Option Nat × Cursor) :=
  match chompingMark? c with
  | some ch => do
    let c := c.skip
    match ← indentMark? c with
    | some n => some (ch, some n, c.skip)
    | none => some (ch, none, c)
  | none => do
    match ← indentMark? c with
    | some n =>
      let c := c.skip
      match chompingMark? c with
      | some ch => some (ch, some n, c.skip)
      | none => some (.clip, some n, c)
    | none => some (.clip, none, c)

/-- The state of passing indentation and empty lines. -/
structure Margin where
  breaks : List Char
  widest : Nat

/-- Passes indentation and empty lines; `indent` is zero while it is not known. -/
def passMargin (indent : Nat) : (fuel : Nat) → Margin → Cursor → Option (Margin × Cursor)
  | 0, _, _ => none
  | fuel + 1, m, c =>
    if (indent == 0 || c.column < indent) && c.at? ' ' then passMargin indent fuel m c.skip
    else
      let m := { m with widest := max m.widest c.column }
      if (indent == 0 || c.column < indent) && c.at? '\t' then none
      else if c.breakAt 0 then
        passMargin indent fuel { m with breaks := m.breaks ++ c.breakText } c.skipLine
      else some (m, c)

/-- Passes indentation and empty lines and finds the indentation where it is not known. -/
def blockBreaks (parent : Int) (indent : Nat) (c : Cursor) : Option (Nat × List Char × Cursor) := do
  let (m, c) ← passMargin indent (c.rest.length + 1) ⟨[], 0⟩ c
  let found := if indent == 0 then (max (max (m.widest : Int) (parent + 1)) 1).toNat else indent
  some (found, m.breaks, c)

/-- A block scalar as far as it has been read: its text reversed, the break behind its last
line and the empty lines after that. -/
structure BlockPart where
  text : List Char
  lastBreak : List Char
  emptyLines : List Char
  /-- Whether the last line started with a blank. -/
  blankLine : Bool

/-- Reads the lines of a block scalar. -/
def blockLines (literal : Bool) (parent : Int) (indent : Nat) :
    (fuel : Nat) → BlockPart → Cursor → Option BlockPart × Cursor
  | 0, _, c => (none, c)
  | fuel + 1, p, c =>
    if c.column != indent || c.endAt 0 then (some p, c)
    else
      let blank := c.blankAt 0
      let lead :=
        if !literal && p.lastBreak == ['\n'] && !p.blankLine && !blank then
          (if p.emptyLines.isEmpty then [' '] else p.emptyLines)
        else p.lastBreak ++ p.emptyLines
      let (line, c) := c.takeWhile fun ch => !isBreakChar ch
      let lastBreak := c.breakText
      let c := if c.breakAt 0 then c.skipLine else c
      match blockBreaks parent indent c with
      | some (_, empty, c) =>
        blockLines literal parent indent fuel
          ⟨line.reverse ++ lead.reverse ++ p.text, lastBreak, empty, blank⟩ c
      | none => (none, c)

/-- Reads a block scalar behind its sign. -/
def blockScalar (literal : Bool) (parent : Int) (c : Cursor) : Option (String × Cursor) := do
  let (chomping, increment, c) ← blockMarks? c
  let c ← c.skipLineEnd?
  let given := match increment with
    | some n => if parent ≥ 0 then (parent + n).toNat else n
    | none => 0
  let (indent, empty, c) ← blockBreaks parent given c
  let (part, c) := blockLines literal parent indent (c.rest.length + 1) ⟨[], [], empty, false⟩ c
  let p ← part
  let tail :=
    match chomping with
    | .strip => []
    | .clip => p.lastBreak
    | .keep => p.lastBreak ++ p.emptyLines
  some (String.ofList (p.text.reverse ++ tail), c)

end ResourceGen.Yaml
