import ResourceGen.Yaml.Token.Scalar

/-!
# Directives, anchors and tags

The tokens that are words behind a sign: a directive behind `%`, an anchor behind `&`, an alias
behind `*`, a tag behind `!`.
-/

namespace ResourceGen.Yaml

/-- Reads a number of at most nine digits. -/
def versionNumber? (c : Cursor) : Option (Nat × Cursor) :=
  let (ds, c) := c.takeWhile Char.isDigit
  if ds.isEmpty || ds.length > 9 then none
  else some (ds.foldl (fun n d => n * 10 + (d.toNat - '0'.toNat)) 0, c)

/-- Reads a tag handle: a sign, a name and a closing sign, or the lone sign. -/
def tagHandle? (directive : Bool) (c : Cursor) : Option (List Char × Cursor) :=
  if c.at? '!' then
    let (name, c) := c.skip.takeWhile isNameChar
    if c.at? '!' then some ('!' :: name ++ ['!'], c.skip)
    else if directive && !name.isEmpty then none
    else some ('!' :: name, c)
  else none

/-- Whether a character may stand in a tag; inside angle brackets also the flow signs. -/
def isUriChar (bracketed : Bool) (c : Char) : Bool :=
  isNameChar c || ";/?:@&=+$.!~*'()%".toList.contains c ||
    (bracketed && (c == ',' || c == '[' || c == ']'))

/-- Reads one octet that is written with a percent sign. -/
def percentOctet? (c : Cursor) : Option (UInt8 × Cursor) := do
  let [p, a, b] := c.rest.take 3 | none
  if p == '%' then some ((← hexNumber? [a, b]).toUInt8, c.skipMany 3) else none

/-- How many octets a character has that starts with the given one. -/
def octetCount? (o : UInt8) : Option Nat :=
  if o &&& 0x80 == 0 then some 1
  else if o &&& 0xE0 == 0xC0 then some 2
  else if o &&& 0xF0 == 0xE0 then some 3
  else if o &&& 0xF8 == 0xF0 then some 4
  else none

/-- Reads octets that continue a character. -/
def moreOctets? : Nat → Cursor → Option (List UInt8 × Cursor)
  | 0, c => some ([], c)
  | n + 1, c => do
    let (o, c) ← percentOctet? c
    if o &&& 0xC0 != 0x80 then none
    else
      let (os, c) ← moreOctets? n c
      some (o :: os, c)

/-- Reads one character written by its octets. -/
def percentChar? (c : Cursor) : Option (List Char × Cursor) := do
  let (o, c) ← percentOctet? c
  let n ← octetCount? o
  let (os, c) ← moreOctets? (n - 1) c
  some (((String.fromUTF8? ⟨(o :: os).toArray⟩).getD "").toList, c)

/-- Reads the characters of a tag. -/
def uriChars (bracketed : Bool) : (fuel : Nat) → Cursor → Option (List Char × Cursor)
  | 0, _ => none
  | fuel + 1, c =>
    match c.rest with
    | ch :: _ =>
      if isUriChar bracketed ch then do
        let (cs, c) ← if ch == '%' then percentChar? c else some ([ch], c.skip)
        let (more, c) ← uriChars bracketed fuel c
        some (cs ++ more, c)
      else some ([], c)
    | [] => some ([], c)

/-- Reads a tag behind what has been read of it already. -/
def tagUri? (bracketed : Bool) (head : List Char) (c : Cursor) : Option (List Char × Cursor) := do
  let (cs, c) ← uriChars bracketed (c.rest.length + 1) c
  if head.isEmpty && cs.isEmpty then none else some (head.drop 1 ++ cs, c)

/-- Reads a tag: in angle brackets, behind a handle, or behind the lone sign. -/
def tagToken? (inFlow : Bool) (c : Cursor) : Option (Token × Cursor) := do
  let (handle, suffix, c) ←
    if c.atPlace 1 '<' then do
      let (uri, c) ← tagUri? true [] (c.skipMany 2)
      if c.at? '>' then some ([], uri, c.skip) else none
    else do
      let (handle, c) ← tagHandle? false c
      if handle.length > 1 && handle.getLast? == some '!' then
        let (uri, c) ← tagUri? false [] c
        some (handle, uri, c)
      else
        let (uri, c) ← tagUri? false handle c
        if uri.isEmpty then some ([], ['!'], c) else some (['!'], uri, c)
  if c.wordEndAt 0 || (inFlow && c.at? ',') then
    some (.tag (String.ofList handle) (String.ofList suffix), c)
  else none

/-- Reads the name of an anchor or alias behind its sign. -/
def anchorName? (c : Cursor) : Option (String × Cursor) :=
  let (name, c) := c.skip.takeWhile isNameChar
  let ends := c.wordEndAt 0 || (c.peek? 0).any fun ch => "?:,]\x7d%@`".toList.contains ch
  if name.isEmpty || !ends then none else some (String.ofList name, c)

/-- Reads a directive up to the end of its line. -/
def directive? (c : Cursor) : Option (Token × Cursor) := do
  let (name, c) := c.skip.takeWhile isNameChar
  if name.isEmpty || !c.wordEndAt 0 then none
  else
    let (token, c) ←
      if name == "YAML".toList then do
        let (major, c) ← versionNumber? c.skipBlanks
        if !c.at? '.' then none
        else
          let (minor, c) ← versionNumber? c.skip
          some (Token.versionDirective major minor, c)
      else if name == "TAG".toList then do
        let (handle, c) ← tagHandle? true c.skipBlanks
        if !c.blankAt 0 then none
        else
          let (uri, c) ← tagUri? true [] c.skipBlanks
          if c.wordEndAt 0 then
            some (Token.tagDirective (String.ofList handle) (String.ofList uri), c)
          else none
      else none
    some (token, ← c.skipLineEnd?)

end ResourceGen.Yaml
