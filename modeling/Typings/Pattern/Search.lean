import Std.Data.HashSet
import Typings.Pattern.Parse

/-!
# Searching with Patterns

A pattern is searched for by an automaton whose states are tried in order of
preference: earlier alternatives before later ones, more rounds of a greedy
repetition before fewer, and earlier places before later ones. The first way
through wins.

A state that has been tried at a place without success cannot succeed there
later, however it is reached. So no pair of state and place is tried twice,
which keeps the search short, bounds it, and ends it even where a repetition
repeats nothing.

Matches follow one another without overlap. Behind a match the search goes on
at its end, except that an empty match directly there does not count; it goes
on one character further instead.

## Main definitions

* `State`: The states of an automaton.
* `Program`: An automaton.
* `Program.ofExpr`: The automaton of an expression.
* `Program.find?`: The first match from a place on.
* `Program.findAll`: All matches, one after the other.
-/

namespace Typings

namespace Pattern

/-- The states of an automaton, each with the states behind it. -/
inductive State where
  | accept
  | chars (c : CharClass) (next : Nat)
  | look (l : Look) (next : Nat)
  | mark (slot next : Nat)
  | choose (preferred other : Nat)

instance : Inhabited State := ⟨.accept⟩

/-- States under construction. -/
abbrev States := Array State

/-- Add a state and say where it is. -/
def addState (states : States) (s : State) : States × Nat :=
  (states.push s, states.size)

/-- A choice between another round and going on, in order of preference. -/
def roundOrNext (isGreedy : Bool) (round next : Nat) : State :=
  if isGreedy then .choose round next else .choose next round

/-- Rounds that have to be gone through, the last leading to `next`. -/
def addRounds (add : States → Nat → States × Nat) : Nat → States → Nat → States × Nat
  | 0, states, next => (states, next)
  | n + 1, states, next =>
    let (states, round) := add states next
    addRounds add n states round

/-- Rounds of which each may be the last. -/
def addOptionalRounds (add : States → Nat → States × Nat) (isGreedy : Bool) (out : Nat) :
    Nat → States → Nat → States × Nat
  | 0, states, next => (states, next)
  | n + 1, states, next =>
    let (states, round) := add states next
    let (states, choice) := addState states (roundOrNext isGreedy round out)
    addOptionalRounds add isGreedy out n states choice

/-- Rounds without end: at least one, and after each a choice between another
    one and going on. The choice stands behind the round, and is where a
    repetition may begin that can do without any. -/
def addLoop (add : States → Nat → States × Nat) (isGreedy : Bool) (states : States)
    (next : Nat) : States × Nat × Nat :=
  -- The round leads to the choice and the choice to the round, so the choice is
  -- filled in when the place of the round is known.
  let (states, choice) := addState states .accept
  let (states, round) := add states choice
  (states.setIfInBounds choice (roundOrNext isGreedy round next), round, choice)

/-- Add the states of an expression in front of a state, and say where they
    begin. A repetition of something that can be empty first chooses whether
    to begin at all, so that its rounds are tried before going on. -/
def addExpr : Expr → States → Nat → States × Nat
  | .empty, states, next => (states, next)
  | .chars c, states, next => addState states (.chars c next)
  | .look l, states, next => addState states (.look l next)
  | .group index e, states, next =>
    -- States are added from behind, so the mark of the end comes first.
    let (states, close) := addState states (.mark (2 * index + 1) next)
    let (states, inner) := addExpr e states close
    addState states (.mark (2 * index) inner)
  | .seq a b, states, next =>
    let (states, second) := addExpr b states next
    addExpr a states second
  | .alt a b, states, next =>
    let (states, first) := addExpr a states next
    let (states, second) := addExpr b states next
    addState states (.choose first second)
  | .rep least (some greatest) isGreedy e, states, next =>
    let (states, optional) :=
      addOptionalRounds (addExpr e) isGreedy next (greatest - least) states next
    addRounds (addExpr e) least states optional
  | .rep least none isGreedy e, states, next =>
    let (states, round, choice) := addLoop (addExpr e) isGreedy states next
    if least = 0 then
      if e.canBeEmpty then addState states (roundOrNext isGreedy round next)
      else (states, choice)
    else addRounds (addExpr e) (least - 1) states round

/-- An automaton: its states and the one it starts in. Slots `2 * k` and
    `2 * k + 1` hold where group `k` begins and ends, group zero being the
    whole match. -/
structure Program where
  states : States
  start : Nat
  groups : Nat

/-- The automaton of an expression. -/
def Program.ofExpr (e : Expr) (groups : Nat) : Program :=
  let (states, accept) := addState #[] .accept
  let (states, start) := addExpr (.group 0 e) states accept
  ⟨states, start, groups⟩

/-- Where the groups of a match begin and end. -/
abbrev Slots := Array (Option Nat)

/-- A state to be tried at a place, with the slots filled on the way to it. -/
structure Attempt where
  state : Nat
  place : Nat
  slots : Slots

/-- What trying a state comes to: a match, or other states to be tried. -/
def Program.step (p : Program) (text : Array Char) (a : Attempt) : Slots ⊕ List Attempt :=
  match p.states[a.state]? with
  | none => .inr []
  | some .accept => .inl a.slots
  | some (.chars c next) =>
    match text[a.place]? with
    | some found =>
      .inr (if c.holds found then [{ a with state := next, place := a.place + 1 }] else [])
    | none => .inr []
  | some (.look l next) =>
    let before := if a.place = 0 then none else text[a.place - 1]?
    .inr (if l.holds before text[a.place]? then [{ a with state := next }] else [])
  | some (.mark slot next) =>
    .inr [{ a with state := next, slots := a.slots.setIfInBounds slot (some a.place) }]
  | some (.choose preferred other) =>
    .inr [{ a with state := preferred }, { a with state := other }]

/-- Try attempts in order, leaving out what has been tried before. -/
def Program.run (p : Program) (text : Array Char) :
    Nat → Std.HashSet Nat → List Attempt → Option Slots × Std.HashSet Nat
  | 0, tried, _ => (none, tried)
  | _ + 1, tried, [] => (none, tried)
  | fuel + 1, tried, a :: rest =>
    -- A state tried before at this place has failed, whatever its slots were.
    let key := a.state * (text.size + 1) + a.place
    if tried.contains key then p.run text fuel tried rest
    else
      match p.step text a with
      | .inl slots => (some slots, tried)
      | .inr next => p.run text fuel (tried.insert key) (next ++ rest)

/-- How many attempts a search can make: each pair of state and place leads to
    two more at most. -/
def Program.bound (p : Program) (text : Array Char) : Nat :=
  2 * (p.states.size + 1) * (text.size + 2) + 2

/-- The first match that begins at one of so many places from a given one. -/
def Program.findFrom (p : Program) (text : Array Char) :
    Nat → Std.HashSet Nat → Nat → Option Slots
  | 0, _, _ => none
  | places + 1, tried, place =>
    let attempt : Attempt := ⟨p.start, place, Array.replicate (2 * (p.groups + 1)) none⟩
    match p.run text (p.bound text) tried [attempt] with
    | (some slots, _) => some slots
    | (none, tried) => p.findFrom text places tried (place + 1)

/-- A match: where it begins and ends, and the slots of its groups. -/
structure Match where
  first : Nat
  last : Nat
  slots : Slots

/-- The first match from a place on. -/
def Program.find? (p : Program) (text : Array Char) (place : Nat) : Option Match :=
  if text.size < place then none
  else match p.findFrom text (text.size + 1 - place) ∅ place with
    | none => none
    | some slots => match slots[0]?, slots[1]? with
      | some (some first), some (some last) => some ⟨first, last, slots⟩
      | _, _ => none

/-- The next match behind a place, given where the last match ended. -/
def Program.next? (p : Program) (text : Array Char) (place : Nat) (lastEnd : Option Nat) :
    Option Match :=
  match p.find? text place with
  | none => none
  | some m =>
    -- An empty match that touches the last match is passed over.
    if m.first = m.last && some m.last = lastEnd then p.find? text (place + 1) else some m

/-- All matches behind a place, one after the other. Every match but the first
    ends further on than the one before it. -/
def Program.findAllFrom (p : Program) (text : Array Char) :
    Nat → Nat → Option Nat → List Match
  | 0, _, _ => []
  | fuel + 1, place, lastEnd =>
    match p.next? text place lastEnd with
    | none => []
    | some m => m :: p.findAllFrom text fuel m.last (some m.last)

/-- All matches in a text, one after the other. -/
def Program.findAll (p : Program) (text : Array Char) : List Match :=
  p.findAllFrom text (text.size + 2) 0 none

end Pattern

end Typings
