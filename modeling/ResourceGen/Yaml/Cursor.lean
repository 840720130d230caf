/-!
# Places in a text

A `Cursor` is the rest of a text with the place it starts at. Lines end at a line feed, a
carriage return, both together, or one of the three line separators beyond ASCII.
-/

namespace ResourceGen.Yaml

/-- The rest of a text and its place: characters passed, line and column, all from zero. -/
structure Cursor where
  rest : List Char
  index : Nat
  line : Nat
  column : Nat

/-- Whether a character ends a line. -/
def isBreakChar (c : Char) : Bool :=
  c == '\n' || c == '\r' || c.toNat == 0x85 || c.toNat == 0x2028 || c.toNat == 0x2029

/-- Whether a character is a space or a tab. -/
def isBlankChar (c : Char) : Bool := c == ' ' || c == '\t'

/-- Whether a character may stand in an anchor or a tag handle. -/
def isNameChar (c : Char) : Bool := c.isAlphanum || c == '_' || c == '-'

/-- Whether a text may contain a character at all. -/
def isAllowedChar (c : Char) : Bool :=
  let n := c.toNat
  n == 9 || n == 10 || n == 13 || (0x20 ≤ n && n ≤ 0x7E) || n == 0x85 || (0xA0 ≤ n && n ≤ 0xD7FF) ||
    (0xE000 ≤ n && n ≤ 0xFFFD && n != 0xFEFF) || 0x10000 ≤ n

namespace Cursor

/-- The start of a text. -/
def start (text : List Char) : Cursor := ⟨text, 0, 0, 0⟩

/-- The character `n` places on. -/
def peek? (c : Cursor) (n : Nat) : Option Char := c.rest[n]?

/-- Whether the text starts with a given character. -/
def at? (c : Cursor) (ch : Char) : Bool := c.rest.head? == some ch

/-- Whether a given character stands `n` places on. -/
def atPlace (c : Cursor) (n : Nat) (ch : Char) : Bool := c.peek? n == some ch

/-- Whether a blank stands `n` places on. -/
def blankAt (c : Cursor) (n : Nat) : Bool := (c.peek? n).any isBlankChar

/-- Whether a line ends `n` places on, without the end of the text. -/
def breakAt (c : Cursor) (n : Nat) : Bool := (c.peek? n).any isBreakChar

/-- Whether the text has ended `n` places on. -/
def endAt (c : Cursor) (n : Nat) : Bool := (c.peek? n).isNone

/-- Whether a line or the text ends `n` places on. -/
def lineEndAt (c : Cursor) (n : Nat) : Bool := c.breakAt n || c.endAt n

/-- Whether a word ends `n` places on: a blank, a break or the end. -/
def wordEndAt (c : Cursor) (n : Nat) : Bool := c.blankAt n || c.lineEndAt n

/-- One character on, on the same line. -/
def skip (c : Cursor) : Cursor := ⟨c.rest.tail, c.index + 1, c.line, c.column + 1⟩

/-- Several characters on, on the same line. -/
def skipMany (c : Cursor) (n : Nat) : Cursor := ⟨c.rest.drop n, c.index + n, c.line, c.column + n⟩

/-- Behind a line break. -/
def skipLine (c : Cursor) : Cursor :=
  match c.rest with
  | '\r' :: '\n' :: rest => ⟨rest, c.index + 2, c.line + 1, 0⟩
  | _ :: rest => ⟨rest, c.index + 1, c.line + 1, 0⟩
  | [] => c

/-- What a line break reads as: the last two separators stay, any other is a line feed. -/
def breakText (c : Cursor) : List Char :=
  match c.rest with
  | ch :: _ => if ch.toNat == 0x2028 || ch.toNat == 0x2029 then [ch] else ['\n']
  | [] => []

/-- Behind the characters that satisfy a test, with these characters. -/
def takeWhile (c : Cursor) (p : Char → Bool) : List Char × Cursor :=
  let taken := c.rest.takeWhile p
  (taken, c.skipMany taken.length)

/-- Behind spaces and tabs. -/
def skipBlanks (c : Cursor) : Cursor := (c.takeWhile isBlankChar).2

/-- Behind a comment, if one starts here. -/
def skipComment (c : Cursor) : Cursor :=
  if c.at? '#' then (c.takeWhile fun ch => !isBreakChar ch).2 else c

/-- Behind the end of a line that holds nothing more than blanks and a comment. -/
def skipLineEnd? (c : Cursor) : Option Cursor :=
  let c := c.skipBlanks.skipComment
  if c.lineEndAt 0 then some (if c.breakAt 0 then c.skipLine else c) else none

/-- Whether one of the marks that separate documents stands at the start of a line here. -/
def atDocumentMark (c : Cursor) : Bool :=
  c.column == 0 && (c.rest.take 3 == ['-', '-', '-'] || c.rest.take 3 == ['.', '.', '.']) &&
    c.wordEndAt 3

end Cursor

end ResourceGen.Yaml
