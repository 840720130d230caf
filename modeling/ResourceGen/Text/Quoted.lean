import ResourceGen.Text.Printable

/-!
# Quoted text

`quoted` writes a text between double quotes. A quote and a backslash get a backslash, tab,
newline, return and NUL their letters, and a character that does not print as itself is written
by its number in hexadecimal.
-/

namespace ResourceGen.Text

/-- One character inside a quoted text. -/
def quotedChar (c : Char) : List Char :=
  if c = '"' || c = '\\' then ['\\', c]
  else if c = '\t' then ['\\', 't']
  else if c = '\n' then ['\\', 'n']
  else if c = '\r' then ['\\', 'r']
  else if c.toNat = 0 then ['\\', '0']
  else if isPlain c then [c]
  else ['\\', 'u', '\x7b'] ++ Nat.toDigits 16 c.toNat ++ ['\x7d']

/-- A text between quotes. -/
def quoted (s : String) : String := "\"" ++ String.ofList (s.toList.flatMap quotedChar) ++ "\""

end ResourceGen.Text
