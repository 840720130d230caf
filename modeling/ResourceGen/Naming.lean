import ResourceGen.Naming.Words
import ResourceGen.Naming.Inflection

/-!
# Names

`Names` holds the normalized forms of one identifier. A `Namer` decides them, and the plural and
singular of words; `Namer.standard` splits at case boundaries and knows the initialisms.
-/

namespace ResourceGen

/-- The normalized forms of one identifier. -/
structure Names where
  /-- The identifier as the service description has it. -/
  raw : String
  /-- Words joined, each with a capital. -/
  camel : String
  /-- The same with the first word in lower case. -/
  camelLower : String
  /-- Words in lower case, joined by underscores. -/
  snake : String
  deriving DecidableEq, Repr, Inhabited

/-- How identifiers are normalized and inflected. -/
structure Namer where
  names : String → Names
  pluralize : String → String
  singularize : String → String

namespace Namer

/-- Whether a word differs from its singular. -/
def isPlural (n : Namer) (word : String) : Bool := n.singularize word ≠ word

end Namer

namespace Naming

/-- The camel form of an identifier with the given normalized words. -/
def camelForm (ws : List (List Char)) : List Char := ws.flatten

/-- The camel form with the first word in lower case. -/
def camelLowerForm : List (List Char) → List Char
  | [] => []
  | first :: rest => lowerAscii first ++ rest.flatten

/-- The words in lower case with underscores between. -/
def snakeForm (ws : List (List Char)) : List Char := ['_'].intercalate (ws.map lowerAscii)

/-- The normalized words of an identifier. -/
def normalWords (raw : List Char) : List (List Char) := (words raw).map normalize

/-- The names of an identifier. -/
def standardNames (raw : String) : Names :=
  let ws := normalWords raw.toList
  ⟨raw, String.ofList (camelForm ws), String.ofList (camelLowerForm ws),
    String.ofList (snakeForm ws)⟩

end Naming

/-- Case boundaries, the list of initialisms, English endings. -/
def Namer.standard : Namer where
  names := Naming.standardNames
  pluralize w := String.ofList (Naming.pluralChars w.toList)
  singularize w := String.ofList (Naming.singularChars w.toList)

end ResourceGen
