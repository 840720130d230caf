import ResourceGen.Dict

/-!
# JSON values

`Value` holds what a JSON text says, objects as their entries in the order written. A number
with a fraction, an exponent or a sign on zero keeps its decimal digits. `faulty` stands for a
well-formed piece of text without a usable value (half of a surrogate pair, nesting that is too
deep): it may be skipped but never kept.

`Value.canonical` puts the entries of every object in key order, the last of equal keys winning;
`Value.render` writes the shortest text.
-/

namespace ResourceGen.Json

/-- A JSON value. -/
inductive Value where
  | null
  | bool (b : Bool)
  | int (n : Int)
  /-- The number `mantissa * 10 ^ exponent`. -/
  | decimal (mantissa exponent : Int)
  | str (s : String)
  | arr (items : List Value)
  | obj (entries : List (String × Value))
  /-- A piece of text that can be skipped but has no value. -/
  | faulty
  deriving Inhabited, Repr

namespace Value

mutual

/-- Equality of values, entry by entry. -/
def beq : Value → Value → Bool
  | null, null => true
  | bool a, bool b => a == b
  | int a, int b => a == b
  | decimal m e, decimal n f => m == n && e == f
  | str a, str b => a == b
  | arr a, arr b => beqItems a b
  | obj a, obj b => beqEntries a b
  | faulty, faulty => true
  | _, _ => false

/-- Equality of item lists. -/
def beqItems : List Value → List Value → Bool
  | [], [] => true
  | a :: as, b :: bs => beq a b && beqItems as bs
  | _, _ => false

/-- Equality of entry lists. -/
def beqEntries : List (String × Value) → List (String × Value) → Bool
  | [], [] => true
  | (k, a) :: as, (l, b) :: bs => k == l && beq a b && beqEntries as bs
  | _, _ => false

end

instance : BEq Value := ⟨beq⟩

/-- The entry of an object for a key; nothing for any other value. -/
def field? : Value → String → Option Value
  | obj entries, k => Entries.get? entries k
  | _, _ => none

/-- The last entry of an object for a key: the one that stays when keys are merged. -/
def lastField? : Value → String → Option Value
  | obj entries, k => Entries.get? entries.reverse k
  | _, _ => none

/-- The text of a string value. -/
def text? : Value → Option String
  | str s => some s
  | _ => none

/-- Whether the value is `null`. -/
def isNull : Value → Bool
  | null => true
  | _ => false

/-- The largest number of digits after which a number is surely too large for a double. -/
def maxMagnitude : Nat := 400

/-- The least number that rounds to no double: halfway beyond the largest one. -/
def doubleBound : Nat := Nat.pow 2 1024 - Nat.pow 2 970

/-- Whether a decimal number is below the bound at which doubles end. -/
def inDoubleRange (mantissa exponent : Int) : Bool :=
  let m := mantissa.natAbs
  let digits : Int := (Nat.toDigits 10 m).length
  if m = 0 || digits + exponent < 300 then true
  else if digits + exponent > maxMagnitude then false
  else if exponent < 0 then m < doubleBound * Nat.pow 10 (-exponent).toNat
  else m * Nat.pow 10 exponent.toNat < doubleBound

mutual

/-- Whether every part of the value can be kept: no faulty part, no number out of range. -/
def sound : Value → Bool
  | faulty => false
  | int n => inDoubleRange n 0
  | decimal m e => inDoubleRange m e
  | arr items => soundItems items
  | obj entries => soundEntries entries
  | _ => true

/-- Whether all items can be kept. -/
def soundItems : List Value → Bool
  | [] => true
  | v :: rest => sound v && soundItems rest

/-- Whether the values of all entries can be kept. -/
def soundEntries : List (String × Value) → Bool
  | [] => true
  | (_, v) :: rest => sound v && soundEntries rest

end

mutual

/-- The same value with the entries of every object in key order; of equal keys the last stays. -/
def canonical : Value → Value
  | arr items => arr (canonicalItems items)
  | obj entries => obj (canonicalEntries entries [])
  | v => v

/-- Each item in canonical form. -/
def canonicalItems : List Value → List Value
  | [] => []
  | v :: rest => canonical v :: canonicalItems rest

/-- Enters the entries, in canonical form, into `done`. -/
def canonicalEntries : List (String × Value) → List (String × Value) → List (String × Value)
  | [], done => done
  | (k, v) :: rest, done => canonicalEntries rest (Entries.insert done k (canonical v))

end

mutual

/-- The number of containers inside one another. -/
def depth : Value → Nat
  | arr items => depthItems items + 1
  | obj entries => depthEntries entries + 1
  | _ => 0

/-- The greatest depth of the items. -/
def depthItems : List Value → Nat
  | [] => 0
  | v :: rest => max (depth v) (depthItems rest)

/-- The greatest depth of the values of the entries. -/
def depthEntries : List (String × Value) → Nat
  | [] => 0
  | (_, v) :: rest => max (depth v) (depthEntries rest)

end

/-! ## Writing -/

/-- A hexadecimal digit, lower case. -/
def hexDigit (n : Nat) : Char := (Nat.toDigits 16 (n % 16)).headD '0'

/-- One character inside a quoted JSON string. -/
def renderChar (c : Char) : List Char :=
  match c with
  | '"' => ['\\', '"']
  | '\\' => ['\\', '\\']
  | '\n' => ['\\', 'n']
  | '\r' => ['\\', 'r']
  | '\t' => ['\\', 't']
  | c =>
    if c.toNat < 32 then ['\\', 'u', '0', '0', hexDigit (c.toNat / 16), hexDigit c.toNat] else [c]

/-- A quoted JSON string. -/
def renderString (s : String) : String :=
  "\"" ++ String.ofList (s.toList.flatMap renderChar) ++ "\""

mutual

/-- The shortest text of a value. -/
def render : Value → String
  | null => "null"
  | bool true => "true"
  | bool false => "false"
  | int n => toString n
  | decimal m e => toString m ++ "e" ++ toString e
  | str s => renderString s
  | arr [] => "[]"
  | arr (v :: rest) => "[" ++ render v ++ renderItems rest ++ "]"
  | obj [] => "\x7b\x7d"
  | obj ((k, v) :: rest) =>
    "\x7b" ++ renderString k ++ ":" ++ render v ++ renderEntries rest ++ "\x7d"
  | faulty => "null"

/-- The items after the first, each behind a comma. -/
def renderItems : List Value → String
  | [] => ""
  | v :: rest => "," ++ render v ++ renderItems rest

/-- The entries after the first, each behind a comma. -/
def renderEntries : List (String × Value) → String
  | [] => ""
  | (k, v) :: rest => "," ++ renderString k ++ ":" ++ render v ++ renderEntries rest

end

end Value

end ResourceGen.Json
