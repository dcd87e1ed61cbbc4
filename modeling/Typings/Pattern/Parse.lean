import Typings.Pattern.Bracket

/-!
# Reading Patterns

The notation of patterns: characters stand for themselves, a few are
operators, and a backslash makes an operator of a letter or a character of an
operator. There is no way to look ahead or behind, and none to refer back to
what a group has matched; both are refused.

Flags change how what follows them is read, up to the end of their group,
other alternatives of that group included.

A pattern must not be nested too deeply. Every repetition, group and class is
one level deeper than what it holds, and so is a list of several parts or
alternatives.

## Main definitions

* `Piece`: A part of a pattern, and how deep it is nested.
* `readPattern`: A whole pattern.
* `Parsed`: An expression with its groups.
* `parse?`: A pattern from its text.
-/

namespace Typings

namespace Pattern

open Reader

/-- Whether a question mark behind a repetition turns its preference. -/
def readGreed : Reader Bool := do
  let swap := (← flags).swapGreed
  match ← rest with
  | '?' :: cs =>
    goOn cs
    return swap
  | _ => return !swap

/-- The rounds of a counted repetition, from behind its opening brace. -/
def readCounts : Reader (Nat × Option Nat) := do
  skip
  let least ← readDecimal
  let counts ← (do
    if (← peek) = ',' then
      advance
      if (← peek) = '\x7d' then return (least, none)
      else return (least, some (← readDecimal))
    else return (least, some least))
  if (← peek) ≠ '\x7d' then refuse
  advance
  return counts

/-- Whether a character can stand in the name of a group: letters everywhere,
    numbers and a few others behind the first place. -/
def isNameChar (isFirst : Bool) (c : Char) : Bool :=
  c = '_' || CharClass.alphabetic.holds c ||
    (!isFirst && (c = '.' || c = '[' || c = ']' ||
      Text.category c ∈ [.decimalNumber, .letterNumber, .otherNumber]))

/-- The name of a group, from behind its opening bracket. A name is given
    once. -/
def readName : Reader String := do
  let cs ← rest
  let name := cs.takeWhile (· ≠ '>')
  match name, cs.dropWhile (· ≠ '>') with
  | c :: more, _ :: after =>
    let text := String.ofList name
    if !isNameChar true c || !more.all (isNameChar false) then refuse
    else if (← get).names.any (·.1 = text) then refuse
    else
      goOn after
      return text
  | _, _ => refuse

/-- Flags changed by one letter. -/
def setFlag (f : Flags) (letter : Char) (value : Bool) : Option Flags :=
  match letter with
  | 'i' => some { f with ignoreCase := value }
  | 'm' => some { f with multiLine := value }
  | 's' => some { f with dotAll := value }
  | 'U' => some { f with swapGreed := value }
  | 'u' => some { f with unicode := value }
  | 'R' => some { f with crlf := value }
  | 'x' => some { f with verbose := value }
  | _ => none

/-- Flags changed by letters: those behind a dash are taken away. No letter
    occurs twice, nor does the dash, and something follows it. -/
def changeFlags (f : Flags) (isNegated : Bool) (seen : List Char) :
    List Char → Option Flags
  | [] => if seen.head? = some '-' then none else some f
  | '-' :: letters => if isNegated then none else changeFlags f true ('-' :: seen) letters
  | letter :: letters =>
    if letter ∈ seen then none
    else match setFlag f letter (!isNegated) with
      | some f => changeFlags f isNegated (letter :: seen) letters
      | none => none

/-- What stands at the front of a group. -/
inductive GroupStart where
  | capture (index : Nat)
  | plain
  | flagsOnly

/-- Count one more group, with or without a name. -/
def newGroup (name : Option String) : Reader Nat := do
  let s ← get
  let index := s.groups + 1
  set { s with
    groups := index
    names := s.names ++ name.toList.map fun n => (n, index) }
  return index

/-- What stands at the front of a group, from behind its opening
    parenthesis. -/
def readGroupStart : Reader GroupStart := do
  skip
  match ← rest with
  -- Conditions on what stands before or behind are not part of the language.
  | '?' :: '=' :: _ | '?' :: '!' :: _ | '?' :: '<' :: '=' :: _ | '?' :: '<' :: '!' :: _ => refuse
  | '?' :: 'P' :: '<' :: cs | '?' :: '<' :: cs =>
    goOn cs
    return .capture (← newGroup (some (← readName)))
  | '?' :: cs =>
    let letters := cs.takeWhile fun c => c ≠ ':' && c ≠ ')'
    match changeFlags (← flags) false [] letters, cs.dropWhile fun c => c ≠ ':' && c ≠ ')' with
    | some f, ')' :: after =>
      if letters.isEmpty then refuse
      else
        goOn after
        setFlags f
        return .flagsOnly
    | some f, _ :: after =>
      goOn after
      setFlags f
      return .plain
    | _, _ => refuse
  | _ => return .capture (← newGroup none)

/-- Every character but those that end a line, unless the flags say that those
    count too. -/
def dot (f : Flags) : CharClass :=
  if f.dotAll then .any
  else if f.crlf then ((CharClass.single '\n').union (.single '\r')).compl
  else (CharClass.single '\n').compl

/-- The condition of the mark for a start. -/
def startLook (f : Flags) : Look :=
  if !f.multiLine then .textStart else if f.crlf then .crlfStart else .lineStart

/-- The condition of the mark for an end. -/
def endLook (f : Flags) : Look :=
  if !f.multiLine then .textEnd else if f.crlf then .crlfEnd else .lineEnd

/-- A character as an expression. -/
def literal (f : Flags) (c : Char) : Expr :=
  .chars (closeCase f (.single c))

/-- One character, or an escape, outside brackets. -/
def readPrimitive : Reader Expr := do
  let f ← flags
  let c ← peek
  drop
  if c = '\\' then
    match ← readEscape with
    | .char c => return literal f c
    | .chars c => return .chars c
    | .look l => return .look l
  else if c = '.' then
    if f.unicode then return .chars (dot f) else refuse
  else if c = '^' then return .look (startLook f)
  else if c = '$' then return .look (endLook f)
  else return literal f c

/-- A part of a pattern, and how deep it is nested. -/
structure Piece where
  expr : Expr
  depth : Nat := 0

/-- How deep the deepest of some pieces is nested. -/
def deepest (pieces : List Piece) : Nat :=
  pieces.foldl (fun n p => max n p.depth) 0

/-- What has been read of a list of pieces, newest first. Flags stand in it as
    `none`. -/
abbrev PieceStack := List (Option Piece)

/-- What a repetition repeats: the piece before it, which has to be there.
    Flags are no piece. -/
def repeatLast (done : PieceStack) (least : Nat) (greatest : Option Nat) (isGreedy : Bool) :
    Reader PieceStack :=
  match done with
  | some p :: before =>
    return some ⟨.repeated least greatest isGreedy p.expr, p.depth + 1⟩ :: before
  | _ => refuse

/-- Pieces read one after the other as one. -/
def sequence (done : PieceStack) : Piece :=
  let pieces := done.reverse.filterMap id
  ⟨Expr.seqAll (pieces.map Piece.expr), nested done.length (deepest pieces)⟩

/-- Alternatives as one, the newest first. -/
def alternation (branches : List Piece) : Piece :=
  ⟨Expr.altAll (branches.reverse.map Piece.expr), nested branches.length (deepest branches)⟩

/-- Alternatives up to the end of the pattern or of the group they stand in.
    `branches` are the alternatives already read and `done` is what has been
    read of the next one, both newest first. -/
def readFrom : Nat → List Piece → PieceStack → Reader Piece
  | 0, _, _ => refuse
  | fuel + 1, branches, done => do
    skip
    match ← rest with
    | [] => return alternation (sequence done :: branches)
    | ')' :: _ => return alternation (sequence done :: branches)
    | '|' :: cs =>
      goOn cs
      readFrom fuel (sequence done :: branches) []
    | '(' :: cs =>
      goOn cs
      let f ← flags
      match ← readGroupStart with
      | .flagsOnly => readFrom fuel branches (none :: done)
      | start =>
        let inner ← readFrom fuel [] []
        match ← rest with
        | ')' :: after =>
          goOn after
          -- Flags changed inside the group are valid up to its end.
          setFlags f
          let e := match start with
            | .capture index => Expr.group index inner.expr
            | _ => inner.expr
          readFrom fuel branches (some ⟨e, inner.depth + 1⟩ :: done)
        | _ => refuse
    | '[' :: cs =>
      goOn cs
      let (c, depth) ← readClass fuel
      readFrom fuel branches (some ⟨.chars c, depth⟩ :: done)
    | '?' :: cs =>
      goOn cs
      readFrom fuel branches (← repeatLast done 0 (some 1) (← readGreed))
    | '*' :: cs =>
      goOn cs
      readFrom fuel branches (← repeatLast done 0 none (← readGreed))
    | '+' :: cs =>
      goOn cs
      readFrom fuel branches (← repeatLast done 1 none (← readGreed))
    | '\x7b' :: cs =>
      goOn cs
      let (least, greatest) ← readCounts
      let isGreedy ← readGreed
      if greatest.any (· < least) then refuse
      readFrom fuel branches (← repeatLast done least greatest isGreedy)
    | _ =>
      let e ← readPrimitive
      readFrom fuel branches (some ⟨e, 0⟩ :: done)

/-- A whole pattern. Every step takes a character at least. -/
def readPattern : Reader Piece := do
  let p ← readFrom (2 * (← rest).length + 2) [] []
  if (← rest).isEmpty then return p else refuse

/-- How deep a pattern may be nested. -/
def nestingLimit : Nat := 250

/-- An expression with its groups: how many there are, and those with
    names. -/
structure Parsed where
  expr : Expr
  groups : Nat
  names : List (String × Nat)

/-- A pattern from its text, unless it is wrong, nested too deeply or too
    large. -/
def parse? (flags : Flags) (text : String) : Option Parsed := do
  let (p, s) ← readPattern.run { rest := text.toList, flags := flags }
  if nestingLimit < p.depth || weightLimit < p.expr.weight then none
  else some ⟨p.expr, s.groups, s.names⟩

end Pattern

end Typings
