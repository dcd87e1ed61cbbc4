/-!
# File Name Patterns

Which targets a set of rules is meant for. A pattern is matched against a
whole target, byte by byte. A star and a question mark stop at slashes, a
class does not, and a double star crosses them, but only where it is a whole
component of the path.

A pattern is read into tokens, and a token moves a set of places in the
target to the places behind it. A target matches if its end is among the
places behind the last token. So alternatives and stars need no search.

## Main definitions

* `Token`: The parts of a pattern.
* `Glob`: A pattern.
* `Glob.parse?`: A pattern from its text.
* `Token.advance`: The places behind a token.
* `Glob.isMatch`: Whether a target matches.
-/

namespace Typings

/-- The parts of a pattern. -/
inductive Glob.Token where
  | literal (c : Char)
  /-- One byte other than a slash. -/
  | anyByte
  /-- Any bytes other than slashes. -/
  | star
  /-- Nothing, or everything up to some slash. -/
  | leading
  /-- A slash and everything behind it. -/
  | trailing
  /-- A slash, or everything between two slashes with them. -/
  | between
  | oneOf (negated : Bool) (ranges : List (Char × Char))
  | alternatives (branches : List (List Token))

/-- A pattern. -/
structure Glob where
  tokens : List Glob.Token

namespace Glob

/-- What has been read of a pattern: the tokens of the branch being read,
    newest first, and for each open brace the finished branches behind it and
    the tokens in front of it. -/
structure ReadState where
  current : List Token := []
  outer : List (List (List Token) × List Token) := []
  previous : Option Char := none

/-- Add a token to the branch being read. -/
def ReadState.add (s : ReadState) (t : Token) : ReadState :=
  { s with current := t :: s.current }

/-- Whether a character stands between two components of a path. -/
def isSlash (c : Char) : Bool := c = '/'

/-- A class, from behind its opening bracket and its mark of complement, with
    the ranges read so far, newest first. A closing bracket and a dash in
    first place stand for themselves, and so does a dash in last place. -/
def readRanges : List Char → Bool → Bool → List (Char × Char) →
    Option (List (Char × Char) × List Char)
  | [], _, _, _ => none
  | c :: cs, isFirst, inRange, ranges =>
    if c = ']' && !isFirst then
      -- A range that was begun and not ended leaves its dash.
      some ((if inRange then ('-', '-') :: ranges else ranges).reverse, cs)
    else if c = '-' && !isFirst && !inRange then readRanges cs false true ranges
    else if inRange then
      match ranges with
      | (low, _) :: others =>
        if c < low then none else readRanges cs false false ((low, c) :: others)
      | [] => none
    else readRanges cs false false ((c, c) :: ranges)

/-- A class, from behind its opening bracket. -/
def readClass (cs : List Char) : Option (Token × List Char) :=
  let (negated, cs) := match cs with
    | '!' :: cs => (true, cs)
    | '^' :: cs => (true, cs)
    | cs => (false, cs)
  (readRanges cs true false []).map fun (ranges, rest) => (.oneOf negated ranges, rest)

/-- Two stars that are not a component of their own. -/
def ReadState.addStars (s : ReadState) : ReadState :=
  { (s.add .star).add .star with previous := some '*' }

/-- Whether two stars can be a component where a branch has already begun: they
    have to follow a slash. Inside braces a comma or an opening brace that was
    made a character does as well, and is lost. -/
def ReadState.starsCanJoin (s : ReadState) : Bool :=
  s.previous.any fun c => isSlash c || (!s.outer.isEmpty && (c = ',' || c = '\x7b'))

/-- Two stars, and what follows them. At the beginning of a branch they are a
    component if a slash or the end follows; elsewhere they have to follow a
    slash as well, whose token they take the place of. -/
def readStars (s : ReadState) (cs : List Char) : ReadState × List Char :=
  match s.current with
  | [] =>
    match cs with
    | [] => ({ s.add .leading with previous := some '*' }, [])
    | c :: rest =>
      if isSlash c then ({ s.add .leading with previous := some c }, rest)
      else (s.addStars, c :: rest)
  | last :: before =>
    -- A double star at either end stays what it is when another one follows.
    let replace := fun (t : Token) =>
      match last with
      | .leading => Token.leading
      | .trailing => Token.trailing
      | _ => t
    if !s.starsCanJoin then (s.addStars, cs)
    else match cs with
      | [] => ({ s with current := replace .trailing :: before, previous := some '*' }, [])
      | c :: rest =>
        if (c = ',' || c = '\x7d') && !s.outer.isEmpty then
          ({ s with current := replace .trailing :: before, previous := some '*' }, c :: rest)
        else if isSlash c then
          ({ s with current := replace .between :: before, previous := some c }, rest)
        else (s.addStars, c :: rest)

/-- Read a pattern behind what has been read of it. Every step takes a
    character at least. -/
def readFrom : Nat → ReadState → List Char → Option (List Token)
  | 0, _, _ => none
  | _ + 1, s, [] => if s.outer.isEmpty then some s.current.reverse else none
  | fuel + 1, s, c :: cs =>
    match c with
    | '?' => readFrom fuel { s.add .anyByte with previous := some c } cs
    | '*' =>
      match cs with
      | '*' :: cs =>
        let (s, cs) := readStars s cs
        readFrom fuel s cs
      | cs => readFrom fuel { s.add .star with previous := some c } cs
    | '[' =>
      match readClass cs with
      | some (t, cs) => readFrom fuel { s.add t with previous := some ']' } cs
      | none => none
    | '\x7b' =>
      readFrom fuel { current := [], outer := ([], s.current) :: s.outer, previous := some c } cs
    | '\x7d' =>
      match s.outer with
      | [] => none
      -- The last branch ends here, and the braces join the tokens before them.
      | (branches, before) :: outer =>
        let all := (s.current.reverse :: branches).reverse
        readFrom fuel
          { current := .alternatives all :: before, outer := outer, previous := some c } cs
    | ',' =>
      match s.outer with
      -- Outside braces a comma is a character like any other.
      | [] => readFrom fuel { s.add (.literal c) with previous := some c } cs
      | (branches, before) :: outer =>
        readFrom fuel
          { current := [], outer := (s.current.reverse :: branches, before) :: outer,
            previous := some c } cs
    | '\\' =>
      match cs with
      | [] => none
      | e :: cs => readFrom fuel { s.add (.literal e) with previous := some e } cs
    | c => readFrom fuel { s.add (.literal c) with previous := some c } cs

/-- A pattern from its text, unless a bracket or a brace is left open, a brace
    is closed that was not open, a range runs backwards, or nothing follows a
    backslash. -/
def parse? (text : String) : Option Glob :=
  (readFrom (text.toList.length + 1) {} text.toList).map Glob.mk

/-- The bytes of a character. -/
def charBytes (c : Char) : List Nat :=
  (String.singleton c).toUTF8.toList.map UInt8.toNat

/-- The bytes that a range of characters stands for: the last byte of its
    first character through the first byte of its last character, and the
    other bytes of both by themselves. -/
def rangeBytes (range : Char × Char) : List (Nat × Nat) :=
  let first := charBytes range.1
  let last := charBytes range.2
  if range.1 = range.2 then first.map fun b => (b, b)
  else
    first.dropLast.map (fun b => (b, b)) ++ [(first.getLast?.getD 0, last.head?.getD 0)] ++
      (last.drop 1).map fun b => (b, b)

/-- Whether a class holds a byte. -/
def holdsByte (negated : Bool) (ranges : List (Char × Char)) (b : Nat) : Bool :=
  (ranges.flatMap rangeBytes).any (fun r => r.1 ≤ b && b ≤ r.2) != negated

/-- The byte of a slash. -/
def slashByte : Nat := 47

/-- The places behind the bytes of a literal. -/
def behindBytes (text : Array Nat) (bytes : List Nat) (place : Nat) : List Nat :=
  if (bytes.zip (List.range bytes.length)).all fun (b, i) => text[place + i]? = some b then
    [place + bytes.length]
  else []

/-- The places from a given one to the end of a text. -/
def placesFrom (text : Array Nat) (place : Nat) : List Nat :=
  (List.range (text.size + 1 - place)).map (· + place)

/-- The places directly behind a slash at a given place or further on. -/
def behindSlashes (text : Array Nat) (place : Nat) : List Nat :=
  ((placesFrom text place).filter fun p => text[p]? = some slashByte).map (· + 1)

/-- The places that can be reached without crossing a slash. -/
def withinComponent (text : Array Nat) (place : Nat) : List Nat :=
  let run := (placesFrom text place).takeWhile fun p =>
    match text[p]? with
    | some b => b ≠ slashByte
    | none => false
  place :: run.map (· + 1)

mutual

/-- Whether a token is nothing but braces with nothing in them. -/
def Token.isVoid : Token → Bool
  | .alternatives branches => allVoid branches
  | _ => false

/-- Whether all branches hold nothing but such tokens. -/
def allVoid : List (List Token) → Bool
  | [] => true
  | branch :: branches => areVoid branch && allVoid branches

/-- Whether all tokens of a branch are nothing but braces with nothing in
    them. -/
def areVoid : List Token → Bool
  | [] => true
  | t :: ts => t.isVoid && areVoid ts

end

mutual

/-- The places behind a token that stands at one of some places. A branch with
    nothing in it is left out, and braces without any other branch stand for
    nothing. -/
def Token.advance (text : Array Nat) (places : List Nat) : Token → List Nat
  | .literal c => places.flatMap (behindBytes text (charBytes c))
  | .anyByte => places.filterMap fun p =>
    match text[p]? with
    | some b => if b ≠ slashByte then some (p + 1) else none
    | none => none
  | .star => (places.flatMap (withinComponent text)).eraseDups
  | .leading => (places ++ places.flatMap (behindSlashes text)).eraseDups
  | .trailing => (places.flatMap fun p =>
      if text[p]? = some slashByte then placesFrom text (p + 1) else []).eraseDups
  | .between => (places.flatMap fun p =>
      if text[p]? = some slashByte then (p + 1) :: behindSlashes text (p + 1) else []).eraseDups
  | .oneOf negated ranges => places.filterMap fun p =>
    match text[p]? with
    | some b => if holdsByte negated ranges b then some (p + 1) else none
    | none => none
  | .alternatives branches =>
    if allVoid branches then places else (advanceAny text places branches).eraseDups

/-- The places behind one of the branches that are not empty. -/
def advanceAny (text : Array Nat) (places : List Nat) : List (List Token) → List Nat
  | [] => []
  | branch :: branches =>
    (if areVoid branch then [] else advanceAll text places branch) ++
      advanceAny text places branches

/-- The places behind tokens that follow one another. -/
def advanceAll (text : Array Nat) (places : List Nat) : List Token → List Nat
  | [] => places
  | t :: ts => advanceAll text (t.advance text places) ts

end

/-- Whether a target matches. A double star alone matches everything. -/
def isMatch (g : Glob) (target : String) : Bool :=
  match g.tokens with
  | [.leading] => true
  | tokens =>
    let text := (target.toUTF8.toList.map UInt8.toNat).toArray
    text.size ∈ advanceAll text [0] tokens

end Glob

end Typings
