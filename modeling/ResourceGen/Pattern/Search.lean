import ResourceGen.Pattern.Basic

/-!
# Finding matches

A pattern is turned into an automaton whose branches stand in order of preference
(`Automaton.ofPattern`). The search follows the most preferred branch first and never comes
twice to one state at one place: what failed there once, whatever the groups held, fails again.
`NamedPattern.find?` gives the match that starts first, and of those the most preferred, by the
places of its groups.
-/

namespace ResourceGen

/-- One state of an automaton. -/
inductive AutomatonState where
  | chars (set : CharSet) (next : Nat)
  | look (assertion : Look) (next : Nat)
  /-- Branches in order of preference. -/
  | branch (next : List Nat)
  /-- Keeps the place under a number. -/
  | mark (slot next : Nat)
  | done

/-- An automaton: its states by number. -/
abbrev Automaton := Array AutomatonState

namespace Automaton

/-- Adds a state; gives its number. -/
def add (a : Automaton) (s : AutomatonState) : Nat × Automaton := (a.size, a.push s)

/-- A branch to a body or past it, in order of preference. -/
def choice (greedy : Bool) (body past : Nat) : AutomatonState :=
  .branch (if greedy then [body, past] else [past, body])

/-- Adds a part several times in a row, in front of `next`. -/
def times (part : Nat → Automaton → Nat × Automaton) : Nat → Nat → Automaton → Nat × Automaton
  | 0, next, a => (next, a)
  | n + 1, next, a =>
    let (later, a) := times part n next a
    part later a

/-- Adds a part up to `n` times in a row, each with a way to `past`. -/
def upTo (part : Nat → Automaton → Nat × Automaton) (greedy : Bool) (past : Nat) :
    Nat → Automaton → Nat × Automaton
  | 0, a => (past, a)
  | n + 1, a =>
    let (later, a) := upTo part greedy past n a
    let (body, a) := part later a
    a.add (choice greedy body past)

/-- Adds a part one or more times, in front of `next`. -/
def oneOrMore (part : Nat → Automaton → Nat × Automaton) (greedy : Bool) (next : Nat)
    (a : Automaton) : Nat × Automaton :=
  let (loop, a) := a.add (.branch [])
  let (body, a) := part loop a
  (body, a.set! loop (choice greedy body next))

/-- Adds a part any number of times, in front of `next`. -/
def anyNumber (part : Nat → Automaton → Nat × Automaton) (nullable greedy : Bool) (next : Nat)
    (a : Automaton) : Nat × Automaton :=
  if nullable then
    let (body, a) := oneOrMore part greedy next a
    a.add (choice greedy body next)
  else
    let (loop, a) := a.add (.branch [])
    let (body, a) := part loop a
    (loop, a.set! loop (choice greedy body next))

/-- Adds the states of a pattern in front of `next`; gives the first of them. -/
def compile : Pattern → Nat → Automaton → Nat × Automaton
  | .empty, next, a => (next, a)
  | .chars set, next, a => a.add (.chars set next)
  | .look l, next, a => a.add (.look l next)
  | .group index body, next, a =>
    let (close, a) := a.add (.mark (2 * index + 1) next)
    let (first, a) := compile body close a
    a.add (.mark (2 * index) first)
  | .seq first second, next, a =>
    let (later, a) := compile second next a
    compile first later a
  | .alt first second, next, a =>
    let (one, a) := compile first next a
    let (two, a) := compile second next a
    a.add (.branch [one, two])
  | .repeat least none greedy body, next, a =>
    match least with
    | 0 => anyNumber (compile body) body.nullable greedy next a
    | n + 1 =>
      let (last, a) := oneOrMore (compile body) greedy next a
      times (compile body) n last a
  | .repeat least (some most) greedy body, next, a =>
    let (first, a) := upTo (compile body) greedy next (most - least) a
    times (compile body) least first a

/-- The automaton of a pattern, with its first state; state 0 is the match. -/
def ofPattern (p : Pattern) : Nat × Automaton := compile p 0 #[.done]

/-- The number of ways out of all states. -/
def edges (a : Automaton) : Nat :=
  a.foldl (fun n s => n + match s with
    | .branch next => next.length + 1
    | _ => 2) 0

end Automaton

/-- A path of the search: where it stands, and the places kept by slot. -/
structure SearchPath where
  state : Nat
  place : Nat
  slots : List (Nat × Nat)

namespace SearchPath

/-- The path one step on, for each way out in order of preference; none where it fails. -/
def steps (a : Automaton) (text : Array Char) (p : SearchPath) : List SearchPath :=
  match a[p.state]? with
  | some (.chars set next) =>
    match text[p.place]? with
    | some c =>
      if set.contains c.toNat then [{ p with state := next, place := p.place + 1 }] else []
    | none => []
  | some (.look l next) =>
    let before := if p.place = 0 then none else text[p.place - 1]?
    if l.holds before text[p.place]? then [{ p with state := next }] else []
  | some (.branch next) => next.map fun n => { p with state := n }
  | some (.mark slot next) => [{ p with state := next, slots := (slot, p.place) :: p.slots }]
  | some .done | none => []

end SearchPath

/-- Follows the paths in order until one reaches the match. `seen` marks the states and places
that have been reached; the fuel covers each of them once with its ways out. -/
def follow (a : Automaton) (text : Array Char) :
    (fuel : Nat) → List SearchPath → (seen : Array Bool) → Option SearchPath × Array Bool
  | 0, _, seen => (none, seen)
  | _, [], seen => (none, seen)
  | fuel + 1, p :: rest, seen =>
    let key := p.state * (text.size + 1) + p.place
    if seen.getD key true then follow a text fuel rest seen
    else if p.state = 0 then (some p, seen)
    else follow a text fuel (p.steps a text ++ rest) (seen.setIfInBounds key true)

/-- Searches from each place in turn. -/
def searchFrom (a : Automaton) (first : Nat) (text : Array Char) :
    (count place : Nat) → (seen : Array Bool) → Option SearchPath
  | 0, _, _ => none
  | count + 1, place, seen =>
    let fuel := (a.edges + 1) * (text.size + 1) + 1
    match follow a text fuel [⟨first, place, [(0, place)]⟩] seen with
    | (some p, _) => some p
    | (none, seen) => searchFrom a first text count (place + 1) seen

/-- A match: the text searched and the places kept by slot. -/
structure PatternMatch where
  text : List Char
  slots : List (Nat × Nat)
  groupNames : List (String × Nat)

namespace PatternMatch

/-- The text of a group, if it took part; group 0 is the whole match. -/
def group? (m : PatternMatch) (index : Nat) : Option (List Char) := do
  let start ← m.slots.lookup (2 * index)
  let stop ← m.slots.lookup (2 * index + 1)
  some ((m.text.drop start).take (stop - start))

/-- The text of a named group, if it took part. -/
def named? (m : PatternMatch) (name : String) : Option (List Char) := do
  m.group? (← m.groupNames.lookup name)

end PatternMatch

/-- The first match of a pattern in a text. -/
def NamedPattern.find? (p : NamedPattern) (text : String) : Option PatternMatch :=
  let (first, a) := Automaton.ofPattern p.pattern
  let chars := text.toList.toArray
  let seen := Array.replicate (a.size * (chars.size + 1)) false
  (searchFrom a first chars (chars.size + 1) 0 seen).map fun path =>
    ⟨text.toList, (1, path.place) :: path.slots, p.groupNames⟩

end ResourceGen
