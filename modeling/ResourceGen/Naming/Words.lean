import ResourceGen.Text.CaseMap

/-!
# Words of an identifier

Members of a service description come in any case convention. `words` splits an identifier at
separators and case boundaries; `normalize` spells one word the way generated code spells it:
initialisms in capitals, any other word with a capital first letter.

An upper-case run ends before its last capital when a lower-case letter follows, except for a
plural `s` that closes the run.
-/

namespace ResourceGen.Naming

open ResourceGen.Text

/-- Initialisms, in the spelling they keep. -/
def initialisms : List String :=
  ["ARN", "ID", "URL", "URI", "API", "KMS", "SSE", "IAM", "EBS", "CPU", "GPU", "IOPS", "DNS",
    "IP", "JSON", "TLS", "SSL", "VPC"]

/-- The characters that separate words and belong to none. -/
def isSeparator (c : Char) : Bool := c == '_' || c == '-' || c == ' ' || c == '.'

/-- A plural `s` that closes an upper-case run: no lower-case letter follows it. -/
def closesPlural : List Char → Bool
  | ['s'] => true
  | 's' :: next :: _ => !isLowercase next
  | _ => false

/-- Whether `c`, between `prev` and `after`, opens a new word. -/
def opensWord (prev c : Char) (after : List Char) : Bool :=
  isUppercase c &&
    (isLowercase prev || prev.isDigit ||
      (isUppercase prev && (after.head?.any isLowercase) && !closesPlural after))

/-- Splits the rest of an identifier; `current` is the open word, reversed. -/
def splitFrom : (current : List Char) → List Char → List (List Char)
  | [], [] => []
  | current, [] => [current.reverse]
  | [], c :: rest => if isSeparator c then splitFrom [] rest else splitFrom [c] rest
  | prev :: current, c :: rest =>
    if isSeparator c then (prev :: current).reverse :: splitFrom [] rest
    else if opensWord prev c rest then (prev :: current).reverse :: splitFrom [c] rest
    else splitFrom (c :: prev :: current) rest

/-- The words of an identifier. -/
def words (raw : List Char) : List (List Char) := splitFrom [] raw

/-- Lower case of the letters A to Z only. -/
def lowerAscii (cs : List Char) : List Char := cs.map Char.toLower

/-- The initialism that a lower-case word spells. -/
def initialism? (lower : List Char) : Option (List Char) :=
  (initialisms.find? fun i => lowerAscii i.toList == lower).map String.toList

/-- The part of a word before a final lower-case `s`. -/
def beforeS? (w : List Char) : Option (List Char) :=
  if w.getLast? == some 's' then some w.dropLast else none

/-- A word as generated code spells it. -/
def normalize (word : List Char) : List Char :=
  let lower := lowerAscii word
  match initialism? lower with
  | some i => i
  | none =>
    match (beforeS? lower).bind initialism? with
    | some i => i ++ ['s']
    | none =>
      match word with
      | [] => []
      | first :: rest => uppercaseOf first ++ rest

end ResourceGen.Naming
