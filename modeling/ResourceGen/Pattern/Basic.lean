import ResourceGen.Text.CaseMap
import ResourceGen.Text.Category

/-!
# Patterns

The regular expressions with which a configuration picks operations. `CharSet` says which
characters a place accepts, `Look` what it asserts about its surroundings, and `Pattern` how
places follow one another. Alternatives and repetitions come in order of preference.
-/

namespace ResourceGen

/-- A set of characters. -/
inductive CharSet where
  | range (low high : Nat)
  | codes (set : Text.CodeSet)
  | union (a b : CharSet)
  | inter (a b : CharSet)
  | diff (a b : CharSet)
  | symmDiff (a b : CharSet)
  | compl (a : CharSet)
  /-- All characters that fold like a member. -/
  | folded (a : CharSet)
  /-- The same for the letters A to Z only. -/
  | foldedAscii (a : CharSet)

namespace CharSet

/-- No character. -/
def empty : CharSet := .codes ⟨[]⟩

/-- One character. -/
def single (c : Char) : CharSet := .range c.toNat c.toNat

/-- The other case of an ASCII letter, or the code point itself. -/
def otherAscii (n : Nat) : Nat :=
  if 65 ≤ n && n ≤ 90 then n + 32 else if 97 ≤ n && n ≤ 122 then n - 32 else n

/-- Whether a code point is in the set. -/
def contains : CharSet → Nat → Bool
  | range low high, n => low ≤ n && n ≤ high
  | codes set, n => set.contains n
  | union a b, n => a.contains n || b.contains n
  | inter a b, n => a.contains n && b.contains n
  | diff a b, n => a.contains n && !b.contains n
  | symmDiff a b, n => a.contains n != b.contains n
  | compl a, n => !a.contains n
  | folded a, n => (Text.foldOrbit n).any a.contains
  | foldedAscii a, n => a.contains n || a.contains (otherAscii n)

/-- Several ranges. -/
def ranges (rs : List (Nat × Nat)) : CharSet :=
  rs.foldr (fun r s => .union (.range r.1 r.2) s) empty

end CharSet

/-- What a place asserts about the characters around it. -/
inductive Look where
  | textStart
  | textEnd
  | lineStart
  | lineEnd
  /-- The same with a carriage return before the line feed counted in. -/
  | returnLineStart
  | returnLineEnd
  | wordBoundary (ascii : Bool)
  | notWordBoundary (ascii : Bool)
  | wordStart (ascii : Bool)
  | wordEnd (ascii : Bool)
  | wordStartHalf (ascii : Bool)
  | wordEndHalf (ascii : Bool)
  deriving DecidableEq, Repr

namespace Look

/-- Whether a character is a word character, Unicode or ASCII. -/
def isWordChar (ascii : Bool) (c : Option Char) : Bool :=
  match c with
  | none => false
  | some c => if ascii then c.isAlphanum || c == '_' else Text.isWord c

/-- Whether the assertion holds between two characters; none is the edge of the text. -/
def holds (l : Look) (before after : Option Char) : Bool :=
  match l with
  | textStart => before.isNone
  | textEnd => after.isNone
  | lineStart => before.isNone || before == some '\n'
  | lineEnd => after.isNone || after == some '\n'
  | returnLineStart =>
    before.isNone || before == some '\n' || (before == some '\r' && after != some '\n')
  | returnLineEnd =>
    after.isNone || after == some '\r' || (after == some '\n' && before != some '\r')
  | wordBoundary ascii => isWordChar ascii before != isWordChar ascii after
  | notWordBoundary ascii => isWordChar ascii before == isWordChar ascii after
  | wordStart ascii => !isWordChar ascii before && isWordChar ascii after
  | wordEnd ascii => isWordChar ascii before && !isWordChar ascii after
  | wordStartHalf ascii => !isWordChar ascii before
  | wordEndHalf ascii => !isWordChar ascii after

end Look

/-- A regular expression. -/
inductive Pattern where
  | empty
  | chars (set : CharSet)
  | look (assertion : Look)
  /-- A group whose match is kept under a number. -/
  | group (index : Nat) (body : Pattern)
  | seq (first second : Pattern)
  /-- Two alternatives, the first preferred. -/
  | alt (first second : Pattern)
  /-- Repetition within bounds; more is preferred when it is greedy. -/
  | repeat (least : Nat) (most : Option Nat) (greedy : Bool) (body : Pattern)

namespace Pattern

/-- Whether the pattern can match the empty text. -/
def nullable : Pattern → Bool
  | empty | look _ => true
  | chars _ => false
  | group _ body => body.nullable
  | seq a b => a.nullable && b.nullable
  | alt a b => a.nullable || b.nullable
  | «repeat» least _ _ body => least == 0 || body.nullable

/-- Whether the pattern matches nothing but the empty text. -/
def onlyEmpty : Pattern → Bool
  | empty | look _ => true
  | chars _ => false
  | group _ body => body.onlyEmpty
  | seq a b => a.onlyEmpty && b.onlyEmpty
  | alt a b => a.onlyEmpty && b.onlyEmpty
  | «repeat» _ most _ body => most == some 0 || body.onlyEmpty

end Pattern

/-- A pattern with the names of its groups. -/
structure NamedPattern where
  pattern : Pattern
  groupNames : List (String × Nat)

end ResourceGen
