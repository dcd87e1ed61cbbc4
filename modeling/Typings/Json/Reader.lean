import Typings.Json.Scan

/-!
# Reading Documents

One pass over a text, from its characters to a tree with its damage. Reading
goes on for as long as a lenient walker could go on, and the tree records
where that ends.

What follows a comma is always read as another item or member. A comma with
nothing behind it therefore leaves a broken item, and the place behind the
last sound item is left to the `ending` of its container.

Every value, item and member takes a character at least, so twice the length
of the text bounds the depth of the recursion. The steps left at any place are
still above the length of the text behind it, which is what a string needs.

## Main definitions

* `scanNode`: A value, and the text behind it.
* `Document.ofText`: A whole text.
-/

namespace Typings

namespace Json

/-- What stands where a name is expected, other than a quote. -/
def bareKey (cs : List Char) : Key :=
  match cs with
  | 'n' :: cs => .bare (scanWord .null ['u', 'l', 'l'] cs).read
  | 't' :: cs => .bare (scanWord (.bool true) ['r', 'u', 'e'] cs).read
  | 'f' :: cs => .bare (scanWord (.bool false) ['a', 'l', 's', 'e'] cs).read
  | '-' :: cs => .bare ((scanNumber true cs).read.map .number)
  | '[' :: _ => .bare (.ok .sequence)
  | '\x7b' :: _ => .bare (.ok .map)
  | c :: cs =>
    if isDigit c then .bare ((scanNumber false (c :: cs)).read.map .number)
    else .bare (.error .malformed)
  | [] => .bare (.error .unexpectedEnd)

/-- A word as a node. -/
def wordNode (scanned : Scanned Found) : Node × Except Fault (List Char) :=
  (.word scanned.read, scanned.rest)

/-- A number as a node. -/
def numberNode (scanned : Scanned Number) : Node × Except Fault (List Char) :=
  (.number scanned.read scanned.skip, scanned.rest)

/-- A string as a node. -/
def stringNode (scanned : Scanned String) : Node × Except Fault (List Char) :=
  (.string scanned.read scanned.skip, scanned.rest)

/-- The fault that a lenient walker met, if any. -/
def faultOf {α : Type} : Except Fault α → Option Fault
  | .ok _ => none
  | .error fault => some fault

mutual

/-- A value, and the text behind it. -/
def scanNode : Nat → List Char → Node × Except Fault (List Char)
  | 0, _ => (.absent .unexpectedEnd, .error .unexpectedEnd)
  | fuel + 1, cs =>
    match dropSpace cs with
    | [] => (.absent .unexpectedEnd, .error .unexpectedEnd)
    | c :: cs =>
      if c = 'n' then wordNode (scanWord .null ['u', 'l', 'l'] cs)
      else if c = 't' then wordNode (scanWord (.bool true) ['r', 'u', 'e'] cs)
      else if c = 'f' then wordNode (scanWord (.bool false) ['a', 'l', 's', 'e'] cs)
      else if c = '"' then stringNode (scanString fuel cs)
      else if c = '-' then numberNode (scanNumber true cs)
      else if isDigit c then numberNode (scanNumber false (c :: cs))
      else if c = '[' then
        match dropSpace cs with
        | [] => (.array [] (some .unexpectedEnd), .error .unexpectedEnd)
        | ']' :: rest => (.array [] none, .ok rest)
        | cs =>
          let (items, rest) := scanItems fuel cs
          (.array items (faultOf rest), rest)
      else if c = '\x7b' then
        match dropSpace cs with
        | [] => (.object [] (some .unexpectedEnd), .error .unexpectedEnd)
        | '\x7d' :: rest => (.object [] none, .ok rest)
        | cs =>
          let (members, rest) := scanMembers fuel cs
          (.object members (faultOf rest), rest)
      else (.absent .malformed, .error .malformed)

/-- An item and those behind it, and the text behind the closing bracket. -/
def scanItems : Nat → List Char → List Node × Except Fault (List Char)
  | 0, _ => ([], .error .unexpectedEnd)
  | fuel + 1, cs =>
    let (item, rest) := scanNode fuel cs
    match rest with
    | .error fault => ([item], .error fault)
    | .ok rest => match dropSpace rest with
      | ',' :: rest =>
        let (items, rest) := scanItems fuel rest
        (item :: items, rest)
      | ']' :: rest => ([item], .ok rest)
      | rest => ([item], .error (faultAt rest))

/-- A member and those behind it, and the text behind the closing brace. -/
def scanMembers : Nat → List Char → List (Key × Node) × Except Fault (List Char)
  | 0, _ => ([], .error .unexpectedEnd)
  | fuel + 1, cs =>
    match dropSpace cs with
    | [] => ([(.text (.error .unexpectedEnd), .absent .unexpectedEnd)], .error .unexpectedEnd)
    | '"' :: cs =>
      let name := scanString fuel cs
      match name.rest with
      | .error fault => ([(.text name.read, .absent fault)], .error fault)
      | .ok rest => match dropSpace rest with
        | ':' :: rest =>
          let (node, rest) := scanNode fuel rest
          match rest with
          | .error fault => ([(.text name.read, node)], .error fault)
          | .ok rest => match dropSpace rest with
            | ',' :: rest =>
              let (members, rest) := scanMembers fuel rest
              ((.text name.read, node) :: members, rest)
            | '\x7d' :: rest => ([(.text name.read, node)], .ok rest)
            | rest => ([(.text name.read, node)], .error (faultAt rest))
        | rest => ([(.text name.read, .absent (faultAt rest))], .error (faultAt rest))
    | cs => ([(bareKey cs, .absent .malformed)], .error .malformed)

end

/-- Read a whole text. Behind its value only blanks may follow. -/
def Document.ofText (text : String) : Document :=
  let cs := text.toList
  let (root, rest) := scanNode (2 * cs.length + 2) cs
  match rest with
  | .error fault => ⟨root, some fault⟩
  | .ok rest => ⟨root, if (dropSpace rest).isEmpty then none else some .malformed⟩

end Json

end Typings
