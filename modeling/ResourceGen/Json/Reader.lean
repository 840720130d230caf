import ResourceGen.Json.Value

/-!
# Reading JSON text

`read?` accepts exactly one value with white space around it. Containers nested deeper than the
given room, and strings with half of a surrogate pair, come out as `Value.faulty`, as does an
object with such a key; everything else about the text must be well formed, also in parts that
nobody keeps.
-/

namespace ResourceGen.Json

/-- White space between tokens. -/
def isSpace (c : Char) : Bool := c == ' ' || c == '\n' || c == '\t' || c == '\r'

/-- The text after leading white space. -/
def skipSpace (cs : List Char) : List Char := cs.dropWhile isSpace

/-- The value of a hexadecimal digit. -/
def hexValue? (c : Char) : Option Nat :=
  if '0' ≤ c && c ≤ '9' then some (c.toNat - '0'.toNat)
  else if 'a' ≤ c && c ≤ 'f' then some (c.toNat - 'a'.toNat + 10)
  else if 'A' ≤ c && c ≤ 'F' then some (c.toNat - 'A'.toNat + 10)
  else none

/-- The number written by four hexadecimal digits. -/
def hexQuad? (a b c d : Char) : Option Nat := do
  let a ← hexValue? a
  let b ← hexValue? b
  let c ← hexValue? c
  let d ← hexValue? d
  return ((a * 16 + b) * 16 + c) * 16 + d

/-- What has been read of a string: the characters backwards, the first half of a surrogate
pair that waits for its second, and whether all halves so far have met. -/
structure StringPart where
  reversed : List Char
  half : Option Nat
  paired : Bool

namespace StringPart

/-- Nothing read yet. -/
def start : StringPart := ⟨[], none, true⟩

/-- A character follows. -/
def push (p : StringPart) (c : Char) : StringPart :=
  ⟨c :: p.reversed, none, p.paired && p.half.isNone⟩

/-- A code unit follows. -/
def pushUnit (p : StringPart) (n : Nat) : StringPart :=
  if 0xDC00 ≤ n && n ≤ 0xDFFF then
    match p.half with
    | some h =>
      let c := Char.ofNat (0x10000 + (h - 0xD800) * 0x400 + (n - 0xDC00))
      ⟨c :: p.reversed, none, p.paired⟩
    | none => ⟨p.reversed, none, false⟩
  else if 0xD800 ≤ n && n ≤ 0xDBFF then ⟨p.reversed, some n, p.paired && p.half.isNone⟩
  else p.push (Char.ofNat n)

/-- The text read, unless half of a pair stands alone. -/
def finish (p : StringPart) : Option String :=
  if p.paired && p.half.isNone then some (String.ofList p.reversed.reverse) else none

end StringPart

/-- The character that a one-letter escape stands for. -/
def escapedChar? : Char → Option Char
  | '"' => some '"'
  | '\\' => some '\\'
  | '/' => some '/'
  | 'b' => some '\x08'
  | 'f' => some '\x0c'
  | 'n' => some '\n'
  | 'r' => some '\r'
  | 't' => some '\t'
  | _ => none

/-- Reads a string behind its opening quote; the text is missing when it has no value. -/
def readString : StringPart → List Char → Option (Option String × List Char)
  | _, [] => none
  | p, '"' :: rest => some (p.finish, rest)
  | p, '\\' :: 'u' :: a :: b :: c :: d :: rest =>
    match hexQuad? a b c d with
    | some n => readString (p.pushUnit n) rest
    | none => none
  | p, '\\' :: e :: rest =>
    match escapedChar? e with
    | some c => readString (p.push c) rest
    | none => none
  | p, c :: rest => if c.toNat < 32 || c == '\\' then none else readString (p.push c) rest

/-- The number that a list of decimal digits writes. -/
def digitsValue (ds : List Char) : Nat := ds.foldl (fun n d => n * 10 + (d.toNat - '0'.toNat)) 0

/-- Reads the exponent of a number, zero when there is none. -/
def readExponent (cs : List Char) : Option (Option Int × List Char) :=
  match cs with
  | e :: rest =>
    if e == 'e' || e == 'E' then
      let (negative, rest) :=
        match rest with
        | '-' :: r => (true, r)
        | '+' :: r => (false, r)
        | r => (false, r)
      let ds := rest.takeWhile Char.isDigit
      if ds.isEmpty then none
      else
        let n : Int := digitsValue ds
        some (some (if negative then -n else n), rest.dropWhile Char.isDigit)
    else some (none, cs)
  | [] => some (none, [])

/-- Reads a number that starts at its first digit or minus sign. -/
def readNumber (cs : List Char) : Option (Value × List Char) := do
  let (negative, cs) :=
    match cs with
    | '-' :: rest => (true, rest)
    | rest => (false, rest)
  let whole := cs.takeWhile Char.isDigit
  let rest := cs.dropWhile Char.isDigit
  if whole.isEmpty || (whole.head? == some '0' && whole.length > 1) then none
  else
    let (fraction, rest) ←
      match rest with
      | '.' :: r =>
        let ds := r.takeWhile Char.isDigit
        if ds.isEmpty then none else some (some ds, r.dropWhile Char.isDigit)
      | r => some (none, r)
    let (power, rest) ← readExponent rest
    let magnitude : Int := digitsValue (whole ++ fraction.getD [])
    let n := if negative then -magnitude else magnitude
    if fraction.isNone && power.isNone && !(negative && magnitude == 0) then some (.int n, rest)
    else some (.decimal n (power.getD 0 - (fraction.getD []).length), rest)

/-- The rest of the text behind a given word. -/
def afterWord (word : List Char) (cs : List Char) : Option (List Char) :=
  if word.isPrefixOf cs then some (cs.drop word.length) else none

mutual

/-- Reads a value; `room` containers may still be opened. -/
def readValue : (fuel room : Nat) → List Char → Option (Value × List Char)
  | 0, _, _ => none
  | fuel + 1, room, cs =>
    match skipSpace cs with
    | 'n' :: rest => (afterWord ['u', 'l', 'l'] rest).map (.null, ·)
    | 't' :: rest => (afterWord ['r', 'u', 'e'] rest).map (.bool true, ·)
    | 'f' :: rest => (afterWord ['a', 'l', 's', 'e'] rest).map (.bool false, ·)
    | '"' :: rest =>
      match readString .start rest with
      | some (some s, rest) => some (.str s, rest)
      | some (none, rest) => some (.faulty, rest)
      | none => none
    | '[' :: rest => do
      let (items, rest) ←
        match skipSpace rest with
        | ']' :: rest => some ([], rest)
        | rest => readItems fuel (room - 1) rest
      some (if room = 0 then .faulty else .arr items, rest)
    | '\x7b' :: rest => do
      let (entries, rest) ←
        match skipSpace rest with
        | '\x7d' :: rest => some (some [], rest)
        | rest => readEntries fuel (room - 1) rest
      match entries with
      | some entries => some (if room = 0 then .faulty else .obj entries, rest)
      | none => some (.faulty, rest)
    | c :: rest => if c == '-' || c.isDigit then readNumber (c :: rest) else none
    | [] => none

/-- Reads the items of an array up to its closing bracket. -/
def readItems : (fuel room : Nat) → List Char → Option (List Value × List Char)
  | 0, _, _ => none
  | fuel + 1, room, cs => do
    let (v, rest) ← readValue fuel room cs
    match skipSpace rest with
    | ',' :: rest =>
      let (more, rest) ← readItems fuel room rest
      some (v :: more, rest)
    | ']' :: rest => some ([v], rest)
    | _ => none

/-- Reads the entries of an object up to its closing brace; no entries when a key has no value. -/
def readEntries :
    (fuel room : Nat) → List Char → Option (Option (List (String × Value)) × List Char)
  | 0, _, _ => none
  | fuel + 1, room, cs =>
    match skipSpace cs with
    | '"' :: rest => do
      let (key, rest) ← readString .start rest
      match skipSpace rest with
      | ':' :: rest =>
        let (v, rest) ← readValue fuel room rest
        match skipSpace rest with
        | ',' :: rest =>
          let (more, rest) ← readEntries fuel room rest
          some ((do some ((← key, v) :: (← more))), rest)
        | '\x7d' :: rest => some (key.map fun k => [(k, v)], rest)
        | _ => none
      | _ => none
    | _ => none

end

/-- Reads a text that holds one value and nothing else. -/
def read? (room : Nat) (text : String) : Option Value :=
  match readValue (text.length + 1) room text.toList with
  | some (v, rest) => if (skipSpace rest).isEmpty then some v else none
  | none => none

/-- How deep documents may nest. -/
def documentDepth : Nat := 127

end ResourceGen.Json
