/-!
# Plural and singular

English endings by rule. Endings are found without regard to the case of the letters A to Z,
and a word that the singular leaves alone counts as singular.
-/

namespace ResourceGen.Naming

/-- Whether a word ends in `ending`, in any case. -/
def endsIn (w : List Char) (ending : String) : Bool :=
  ending.toList.isSuffixOf (w.map Char.toLower)

/-- The first characters of a word, all but the last `n`. -/
def dropEnd (w : List Char) (n : Nat) : List Char := w.take (w.length - n)

/-- Endings after which the plural has added `es`. -/
def sibilantPlurals : List String :=
  ["sses", "xes", "ches", "shes", "zzes", "iases", "tuses", "buses", "ruses"]

/-- Endings in `s` that are no plural. -/
def singularEndings : List String := ["ss", "us", "is", "ias"]

/-- The singular of a word. -/
def singularChars (w : List Char) : List Char :=
  if endsIn w "ies" && w.length > 3 then dropEnd w 3 ++ ['y']
  else if sibilantPlurals.any (endsIn w) then dropEnd w 2
  else if singularEndings.any (endsIn w) then w
  else if endsIn w "s" && w.length > 1 then dropEnd w 1
  else w

/-- The vowels that keep a final `y` in the plural. -/
def isVowel (c : Char) : Bool := "aeiou".toList.contains c

/-- The plural of a word; a plural word is its own plural. -/
def pluralChars (w : List Char) : List Char :=
  if singularChars w ≠ w then w
  else if w.getLast? == some 'y' && !(w.dropLast.getLast?.any isVowel) then
    w.dropLast ++ "ies".toList
  else if ["s", "x", "ch", "sh"].any (endsIn w) then w ++ "es".toList
  else w ++ ['s']

end ResourceGen.Naming
