import ResourceGen.Pattern.Basic

/-!
# Reading patterns

`NamedPattern.ofText?` reads the text of a pattern and refuses what is not one: a repetition of
nothing, a reversed range, an open group or class, a look to either side, a reference back to a
group, an unknown escape or flag, a group name used twice. Of the classes it knows those that
`Text.namedClass?` names.

Flags hold from where they are set to the end of the group around them.
-/

namespace ResourceGen

/-- Flags in force. -/
structure PatternFlags where
  ignoreCase : Bool := false
  multiLine : Bool := false
  dotAll : Bool := false
  swapGreed : Bool := false
  unicode : Bool := true
  returns : Bool := false
  extended : Bool := false

/-- The state of reading: the text ahead, the flags, and the groups so far. -/
structure PatternState where
  rest : List Char
  flags : PatternFlags := {}
  names : List (String × Nat) := []
  groups : Nat := 0

/-- A step of reading. -/
abbrev ReadPattern := StateT PatternState Option

namespace ReadPattern

/-! ## Characters -/

/-- The next character, if any. -/
def peek : ReadPattern (Option Char) := do return (← get).rest.head?

/-- Passes a character. -/
def bump : ReadPattern Unit := modify fun s => { s with rest := s.rest.tail }

/-- The next character, passed. -/
def next : ReadPattern Char := do
  match (← get).rest with
  | c :: rest =>
    modify fun s => { s with rest := rest }
    return c
  | [] => failure

/-- Passes the next character if it is the given one. -/
def accept (c : Char) : ReadPattern Bool := do
  if (← peek) == some c then
    bump
    return true
  else return false

/-- Passes a word if it stands next. -/
def acceptWord (w : String) : ReadPattern Bool := do
  let s ← get
  if w.toList.isPrefixOf s.rest then
    set { s with rest := s.rest.drop w.length }
    return true
  else return false

/-- The text behind white space and comments. -/
def skipExtended : (fuel : Nat) → List Char → List Char
  | 0, cs => cs
  | fuel + 1, cs =>
    match cs.dropWhile Text.isBlank with
    | '#' :: rest => skipExtended fuel (rest.dropWhile (· != '\n'))
    | rest => rest

/-- Passes white space and comments where the flags ignore them. -/
def skipSpace : ReadPattern Unit := do
  let s ← get
  if s.flags.extended then set { s with rest := skipExtended (s.rest.length + 1) s.rest }

/-- The character behind the next one and behind ignored space. -/
def peekBehindSpace : ReadPattern (Option Char) := do
  let s ← get
  let rest := s.rest.tail
  return (if s.flags.extended then skipExtended (rest.length + 1) rest else rest).head?

/-! ## Sets of characters -/

/-- Decimal digits. -/
def digitSet (f : PatternFlags) : CharSet :=
  if f.unicode then .codes Text.decimalDigits else .range 48 57

/-- White space. -/
def spaceSet (f : PatternFlags) : CharSet :=
  if f.unicode then .codes Text.whiteSpace else .ranges [(9, 13), (32, 32)]

/-- Word characters. -/
def wordSet (f : PatternFlags) : CharSet :=
  if f.unicode then .codes Text.wordCharacters
  else .ranges [(48, 57), (65, 90), (95, 95), (97, 122)]

/-- A set with the case of letters ignored where the flags say so. -/
def fold (f : PatternFlags) (s : CharSet) : CharSet :=
  if f.ignoreCase then (if f.unicode then .folded s else .foldedAscii s) else s

/-- The complement of a set. Without Unicode it would hold single octets, so it is refused. -/
def negate (f : PatternFlags) (s : CharSet) : ReadPattern CharSet :=
  if f.unicode then return .compl s else failure

/-- The ASCII class of a name. -/
def asciiClass? : String → Option CharSet
  | "alnum" => some (.ranges [(48, 57), (65, 90), (97, 122)])
  | "alpha" => some (.ranges [(65, 90), (97, 122)])
  | "ascii" => some (.range 0 127)
  | "blank" => some (.ranges [(9, 9), (32, 32)])
  | "cntrl" => some (.ranges [(0, 31), (127, 127)])
  | "digit" => some (.range 48 57)
  | "graph" => some (.range 33 126)
  | "lower" => some (.range 97 122)
  | "print" => some (.range 32 126)
  | "punct" => some (.ranges [(33, 47), (58, 64), (91, 96), (123, 126)])
  | "space" => some (.ranges [(9, 13), (32, 32)])
  | "upper" => some (.range 65 90)
  | "word" => some (.ranges [(48, 57), (65, 90), (95, 95), (97, 122)])
  | "xdigit" => some (.ranges [(48, 57), (65, 70), (97, 102)])
  | _ => none

/-- The loose spelling of a class name. -/
def looseName (cs : List Char) : String :=
  String.ofList ((cs.filter fun c => c != ' ' && c != '-' && c != '_').map Char.toLower)

/-- The class that a name means, alone or behind the name of its property. -/
def unicodeClass? (name : List Char) : Option CharSet :=
  let property := name.takeWhile fun c => c != '=' && c != ':'
  let codes := match name.drop property.length with
    | [] => Text.namedClass? (looseName name)
    | _ :: value =>
      match looseName property with
      | "gc" | "generalcategory" => Text.categoryClass? (looseName value)
      | "sc" | "script" => Text.scriptClass? (looseName value)
      | _ => none
  codes.map .codes

/-- Reads a Unicode class behind its letter. -/
def unicodeClass (negated : Bool) : ReadPattern CharSet := do
  skipSpace
  let f := (← get).flags
  if !f.unicode then failure
  else
    let c ← next
    let (negated, name) ←
      if c == '\x7b' then do
        let s ← get
        let body := s.rest.takeWhile (· != '\x7d')
        if body.length == s.rest.length then failure
        else
          set { s with rest := s.rest.drop (body.length + 1) }
          match body with
          | '^' :: name => pure (!negated, name)
          | name => pure (negated, name)
      else pure (negated, [c])
    match unicodeClass? name with
    | some s => return if negated then .compl (fold f s) else fold f s
    | none => failure

/-! ## Escapes -/

/-- What an escape means. -/
inductive Escaped where
  | char (c : Char)
  | set (s : CharSet)
  | look (l : Look)

/-- The number written by hexadecimal digits. -/
def hexNumber? (ds : List Char) : Option Nat :=
  ds.foldlM (fun n d =>
    if d.isDigit then some (n * 16 + (d.toNat - 48))
    else if 'a' ≤ d && d ≤ 'f' then some (n * 16 + (d.toNat - 87))
    else if 'A' ≤ d && d ≤ 'F' then some (n * 16 + (d.toNat - 55))
    else none) 0

/-- The character with a number, if there is one. -/
def charOfCode? (n : Nat) : Option Char :=
  if n < 0xD800 || (0xDFFF < n && n < 0x110000) then some (Char.ofNat n) else none

/-- Reads hexadecimal digits: in braces, or as many as the letter takes. -/
def hexEscape (digits : Nat) : ReadPattern Char := do
  skipSpace
  let s ← get
  match s.rest with
  | '\x7b' :: rest =>
    let body := rest.takeWhile (· != '\x7d')
    if body.length == rest.length || body.isEmpty then failure
    else
      set { s with rest := rest.drop (body.length + 1) }
      let digits := body.filter fun c => !(s.flags.extended && Text.isBlank c)
      match (hexNumber? digits).bind charOfCode? with
      | some c => return c
      | none => failure
  | rest =>
    let body := rest.take digits
    if body.length < digits then failure
    else
      set { s with rest := rest.drop digits }
      match (hexNumber? body).bind charOfCode? with
      | some c => return c
      | none => failure

/-- The characters with a meaning of their own. -/
def isMeta (c : Char) : Bool := "\\.+*?()|[]\x7b\x7d^$#&-~".toList.contains c

/-- The boundary assertion of a name in braces. -/
def namedBoundary? (ascii : Bool) : String → Option Look
  | "start" => some (.wordStart ascii)
  | "end" => some (.wordEnd ascii)
  | "start-half" => some (.wordStartHalf ascii)
  | "end-half" => some (.wordEndHalf ascii)
  | _ => none

/-- Reads what follows the letter of a word boundary: perhaps a name in braces. -/
def boundary : ReadPattern Look := do
  let s ← get
  let ascii := !s.flags.unicode
  match s.rest with
  | '\x7b' :: rest =>
    let name := rest.takeWhile fun c => c == '-' || c.isAlpha
    if name.isEmpty then return .wordBoundary ascii
    else
      match rest.drop name.length, namedBoundary? ascii (String.ofList name) with
      | '\x7d' :: rest, some l =>
        set { s with rest := rest }
        return l
      | _, _ => failure
  | _ => return .wordBoundary ascii

/-- A class given by a letter, or its complement. -/
def letterClass (f : PatternFlags) (negated : Bool) (s : CharSet) : ReadPattern Escaped := do
  if negated then return .set (← negate f s) else return .set s

/-- A character by its number; without Unicode only ASCII has one meaning. -/
def numbered (f : PatternFlags) (c : Char) : ReadPattern Escaped :=
  if f.unicode || c.toNat < 128 then return .char c else failure

/-- Reads an escape behind its backslash. -/
def escape : ReadPattern Escaped := do
  let f := (← get).flags
  let ascii := !f.unicode
  match ← next with
  | 'x' => numbered f (← hexEscape 2)
  | 'u' => numbered f (← hexEscape 4)
  | 'U' => numbered f (← hexEscape 8)
  | 'p' => return .set (← unicodeClass false)
  | 'P' => return .set (← unicodeClass true)
  | 'd' => letterClass f false (digitSet f)
  | 'D' => letterClass f true (digitSet f)
  | 's' => letterClass f false (spaceSet f)
  | 'S' => letterClass f true (spaceSet f)
  | 'w' => letterClass f false (wordSet f)
  | 'W' => letterClass f true (wordSet f)
  | 'a' => return .char '\x07'
  | 'f' => return .char '\x0c'
  | 't' => return .char '\t'
  | 'n' => return .char '\n'
  | 'r' => return .char '\r'
  | 'v' => return .char '\x0b'
  | 'A' => return .look .textStart
  | 'z' => return .look .textEnd
  | 'b' => return .look (← boundary)
  | 'B' => return .look (.notWordBoundary ascii)
  | '<' => return .look (.wordStart ascii)
  | '>' => return .look (.wordEnd ascii)
  | c => if isMeta c || (c.toNat < 128 && !c.isAlphanum) then return .char c else failure

/-! ## Classes in brackets -/

/-- Reads one item of a class. -/
def classItem : ReadPattern Escaped := do
  if ← accept '\\' then escape else return .char (← next)

/-- An item as a set; an assertion is none. -/
def itemSet : Escaped → ReadPattern CharSet
  | .char c => return .single c
  | .set s => return s
  | .look _ => failure

/-- Reads an item or a range of a class. -/
def classRange : ReadPattern CharSet := do
  let first ← classItem
  skipSpace
  match ← peek with
  | none => failure
  | some c =>
    let behind ← peekBehindSpace
    if c != '-' || behind == some ']' || behind == some '-' then itemSet first
    else
      bump
      skipSpace
      match first, ← classItem with
      | .char low, .char high =>
        if low ≤ high then return .range low.toNat high.toNat else failure
      | _, _ => failure

/-- Reads an ASCII class by name, if one stands here. -/
def namedAsciiClass? : ReadPattern (Option CharSet) := do
  let s ← get
  match s.rest with
  | '[' :: ':' :: rest =>
    let (negated, rest) := match rest with
      | '^' :: r => (true, r)
      | r => (false, r)
    let name := rest.takeWhile (· != ':')
    match rest.drop name.length, asciiClass? (String.ofList name) with
    | ':' :: ']' :: after, some set' =>
      set { s with rest := after }
      if negated then return some (← negate s.flags set') else return some set'
    | _, _ => return none
  | _ => return none

/-- The operations on classes. -/
inductive ClassOp where
  | inter
  | diff
  | symmDiff

/-- Applies an operation. -/
def ClassOp.apply : ClassOp → CharSet → CharSet → CharSet
  | .inter => .inter
  | .diff => .diff
  | .symmDiff => .symmDiff

/-- Completes the operation that waits for its right side. -/
def combine (f : PatternFlags) (pending : Option (ClassOp × CharSet)) (s : CharSet) : CharSet :=
  match pending with
  | none => s
  | some (op, left) => op.apply (fold f left) (fold f s)

/-- The operation that stands here, passed. -/
def classOp? : ReadPattern (Option ClassOp) := do
  if ← acceptWord "&&" then return some .inter
  else if ← acceptWord "--" then return some .diff
  else if ← acceptWord "~~" then return some .symmDiff
  else return none

/-- Reads hyphens at the start of a class. -/
def leadingHyphens : (fuel : Nat) → CharSet → Bool → ReadPattern (CharSet × Bool)
  | 0, s, any => return (s, any)
  | fuel + 1, s, any => do
    if ← accept '-' then
      skipSpace
      leadingHyphens fuel (.union s (.single '-')) true
    else return (s, any)

mutual

/-- Reads a class behind its opening bracket. -/
def bracketed : (fuel : Nat) → ReadPattern CharSet
  | 0 => failure
  | fuel + 1 => do
    skipSpace
    let negated ← accept '^'
    if negated then skipSpace
    let (s, any) ← leadingHyphens ((← get).rest.length + 1) .empty false
    let s ←
      if !any && (← peek) == some ']' then do
        bump
        skipSpace
        pure (CharSet.union s (.single ']'))
      else pure s
    let f := (← get).flags
    let s := fold f (← classItems fuel none s)
    if negated then negate f s else return s

/-- Reads the items of a class up to its closing bracket. -/
def classItems : (fuel : Nat) → Option (ClassOp × CharSet) → CharSet → ReadPattern CharSet
  | 0, _, _ => failure
  | fuel + 1, pending, s => do
    skipSpace
    let f := (← get).flags
    match ← peek with
    | none => failure
    | some ']' =>
      bump
      return combine f pending s
    | some '[' =>
      match ← namedAsciiClass? with
      | some t => classItems fuel pending (.union s t)
      | none =>
        bump
        let t ← bracketed fuel
        classItems fuel pending (.union s t)
    | some _ =>
      match ← classOp? with
      | some op => classItems fuel (some (op, combine f pending s)) .empty
      | none =>
        let t ← classRange
        classItems fuel pending (.union s t)

end

/-! ## Flags and groups -/

/-- Sets one flag. -/
def setFlag (f : PatternFlags) (c : Char) (on : Bool) : Option PatternFlags :=
  match c with
  | 'i' => some { f with ignoreCase := on }
  | 'm' => some { f with multiLine := on }
  | 's' => some { f with dotAll := on }
  | 'U' => some { f with swapGreed := on }
  | 'u' => some { f with unicode := on }
  | 'R' => some { f with returns := on }
  | 'x' => some { f with extended := on }
  | _ => none

/-- Reads flags up to a colon or a closing parenthesis, which is left; each flag once. -/
def flagItems : (fuel : Nat) → (seen : List Char) → (negated last : Bool) → PatternFlags →
    ReadPattern PatternFlags
  | 0, _, _, _, _ => failure
  | fuel + 1, seen, negated, last, f => do
    match ← peek with
    | none => failure
    | some c =>
      if c == ':' || c == ')' then
        if last then failure else return f
      else if c == '-' then
        if negated then failure
        else
          bump
          skipSpace
          flagItems fuel seen true true f
      else
        match setFlag f c !negated with
        | some f =>
          if seen.contains c then failure
          else
            bump
            skipSpace
            flagItems fuel (c :: seen) negated false f
        | none => failure

/-- Whether a character may start the name of a group. -/
def isNameStart (c : Char) : Bool :=
  c == '_' || (if c.toNat < 128 then c.isAlpha else Text.alphabetic.contains c.toNat)

/-- Whether a character may stand in the name of a group. -/
def isNamePart (c : Char) : Bool :=
  isNameStart c || c == '.' || c == '[' || c == ']' ||
    (if c.toNat < 128 then c.isDigit else Text.numbers.contains c.toNat)

/-- Reads the name of a group up to its closing bracket. -/
def groupName : ReadPattern String := do
  let s ← get
  let name := s.rest.takeWhile (· != '>')
  let named := match name with
    | c :: cs => isNameStart c && cs.all isNamePart
    | [] => false
  if !named || name.length == s.rest.length then failure
  else
    let text := String.ofList name
    if s.names.any (·.1 == text) then failure
    else
      set { s with rest := s.rest.drop (name.length + 1) }
      return text

/-- Opens a group that is kept; gives its number. -/
def openGroup (name : Option String) : ReadPattern Nat := do
  let s ← get
  let index := s.groups + 1
  set { s with
    groups := index
    names := match name with
      | some n => (n, index) :: s.names
      | none => s.names }
  return index

/-- What stands behind an opening parenthesis. -/
inductive GroupStart where
  | kept (index : Nat)
  | plain (flags : PatternFlags)
  /-- Flags for the rest of the group around. -/
  | flags (flags : PatternFlags)

/-- Reads what stands behind an opening parenthesis. -/
def groupStart : ReadPattern GroupStart := do
  skipSpace
  let s ← get
  let looks := ["?=", "?!", "?<=", "?<!"].any fun w => w.toList.isPrefixOf s.rest
  if looks then failure
  else if (← acceptWord "?P<") || (← acceptWord "?<") then
    let name ← groupName
    return .kept (← openGroup (some name))
  else if ← accept '?' then
    skipSpace
    let start := (← peek)
    let f ← flagItems ((← get).rest.length + 1) [] false false s.flags
    if ← accept ')' then
      if start == some ')' then failure else return .flags f
    else
      bump
      return .plain f
  else return .kept (← openGroup none)

/-! ## Repetitions -/

/-- Reads a decimal number with space around it. -/
def decimal? : ReadPattern (Option Nat) := do
  let s ← get
  let rest := s.rest.dropWhile Text.isBlank
  let ds := rest.takeWhile Char.isDigit
  set { s with rest := (rest.drop ds.length).dropWhile Text.isBlank }
  if ds.isEmpty then return none
  else
    let n := ds.foldl (fun n d => n * 10 + (d.toNat - 48)) 0
    if n < UInt32.size then return some n else failure

/-- Reads the bounds of a repetition behind the opening brace. -/
def bounds : ReadPattern (Nat × Option Nat) := do
  skipSpace
  match ← decimal? with
  | none => failure
  | some least =>
    if ← accept ',' then
      skipSpace
      if ← accept '\x7d' then return (least, none)
      else
        match ← decimal? with
        | none => failure
        | some most =>
          if (← accept '\x7d') && least ≤ most then return (least, some most) else failure
    else if ← accept '\x7d' then return (least, some least)
    else failure

/-- A repetition in its simplest form. -/
def repetition (least : Nat) (most : Option Nat) (greedy : Bool) (body : Pattern) : Pattern :=
  let (least, most) :=
    if body.onlyEmpty then (min least 1, some (min (most.getD 1) 1)) else (least, most)
  if most == some 0 then .empty
  else if least == 1 && most == some 1 then body
  else .repeat least most greedy body

/-- Whether a repetition sign is next, and its bounds. -/
def repetitionSign? : ReadPattern (Option (Nat × Option Nat × Bool)) := do
  match ← peek with
  | some '*' =>
    bump
    return some (0, none, false)
  | some '+' =>
    bump
    return some (1, none, false)
  | some '?' =>
    bump
    return some (0, some 1, false)
  | some '\x7b' =>
    bump
    let (least, most) ← bounds
    return some (least, most, true)
  | _ => return none

/-! ## Patterns -/

/-- A single character, or any that folds like it. -/
def literal (f : PatternFlags) (c : Char) : Pattern := .chars (fold f (.single c))

/-- The set of a dot. -/
def dot (f : PatternFlags) : ReadPattern Pattern :=
  if !f.unicode then failure
  else if f.dotAll then return .chars (.compl .empty)
  else if f.returns then return .chars (.compl (.ranges [(10, 10), (13, 13)]))
  else return .chars (.compl (.single '\n'))

/-- The pattern of an escape. -/
def escaped (f : PatternFlags) : Escaped → Pattern
  | .char c => literal f c
  | .set s => .chars s
  | .look l => .look l

/-- Reads a character, an escape, a dot or an anchor. -/
def primitive : ReadPattern Pattern := do
  let f := (← get).flags
  match ← next with
  | '\\' => return escaped f (← escape)
  | '.' => dot f
  | '^' =>
    let atStart := if f.returns then Look.returnLineStart else .lineStart
    return .look (if f.multiLine then atStart else .textStart)
  | '$' =>
    let atEnd := if f.returns then Look.returnLineEnd else .lineEnd
    return .look (if f.multiLine then atEnd else .textEnd)
  | c => return literal f c

/-- Joins the parts of a sequence, last first. -/
def sequence (parts : List Pattern) : Pattern :=
  match parts with
  | [] => .empty
  | p :: earlier => earlier.foldl (fun later q => .seq q later) p

mutual

/-- Reads alternatives up to a closing parenthesis or the end. -/
def alternatives : (fuel : Nat) → ReadPattern Pattern
  | 0 => failure
  | fuel + 1 => do
    let first ← branch fuel [] false
    if ← accept '|' then return .alt first (← alternatives fuel) else return first

/-- Reads the rest of one alternative behind the given parts, last first. -/
def branch : (fuel : Nat) → (parts : List Pattern) → (repeatable : Bool) → ReadPattern Pattern
  | 0, _, _ => failure
  | fuel + 1, parts, repeatable => do
    skipSpace
    match ← peek with
    | none | some '|' | some ')' => return sequence parts
    | some '(' =>
      bump
      let outer := (← get).flags
      match ← groupStart with
      | .flags f =>
        modify fun s => { s with flags := f }
        branch fuel parts false
      | .kept index =>
        let body ← alternatives fuel
        if ← accept ')' then
          modify fun s => { s with flags := outer }
          branch fuel (.group index body :: parts) true
        else failure
      | .plain f =>
        modify fun s => { s with flags := f }
        let body ← alternatives fuel
        if ← accept ')' then
          modify fun s => { s with flags := outer }
          branch fuel (body :: parts) true
        else failure
    | some '[' =>
      bump
      let s ← bracketed fuel
      branch fuel (.chars s :: parts) true
    | some _ =>
      let f := (← get).flags
      match ← repetitionSign? with
      | some (least, most, counted) =>
        match repeatable, parts with
        | true, p :: earlier =>
          if counted then skipSpace
          let lazy ← accept '?'
          branch fuel (repetition least most (lazy == f.swapGreed) p :: earlier) true
        | _, _ => failure
      | none =>
        let p ← primitive
        branch fuel (p :: parts) true

end

/-- Reads a whole pattern. -/
def whole : ReadPattern Pattern := do
  let p ← alternatives ((← get).rest.length * 2 + 4)
  if (← get).rest.isEmpty then return p else failure

end ReadPattern

/-- The pattern that a text writes. -/
def NamedPattern.ofText? (text : String) : Option NamedPattern := do
  let (p, s) ← ReadPattern.whole.run { rest := text.toList }
  some ⟨p, s.names⟩

end ResourceGen
