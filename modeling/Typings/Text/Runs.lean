import Typings.Text.Split

/-!
# Tables of Runs

A property of code points that changes rarely along the code chart is kept as
a table of its runs. The table is a text: every word is the label of a run,
all labels being equally long, and the length of the run in hexadecimal, from
code point zero on without gaps. It is decoded once into an array of run
starts, and a code point is found in it by halving.

A property that few code points have is kept as a list of ranges instead, in
a text whose words are the ends of a range or a single code point.

## Main definitions

* `runStarts`: A decoded table.
* `findRun?`: The label of a code point.
* `countStretches`: How many stretches have labels of one sort.
* `readRanges`: A decoded list of ranges.
* `inRanges`: Membership in a list of ranges.
-/

namespace Typings

namespace Text

/-- The value of a hexadecimal digit. -/
def hexDigit? (c : Char) : Option Nat :=
  if '0' ≤ c && c ≤ '9' then some (c.toNat - '0'.toNat)
  else if 'a' ≤ c && c ≤ 'f' then some (c.toNat - 'a'.toNat + 10)
  else if 'A' ≤ c && c ≤ 'F' then some (c.toNat - 'A'.toNat + 10)
  else none

/-- The value of a row of hexadecimal digits; any other character counts as
    zero. -/
def hexValue (digits : List Char) : Nat :=
  digits.foldl (fun n c => n * 16 + (hexDigit? c).getD 0) 0

/-- The words of a table. -/
def tableWords (text : String) : List (List Char) :=
  splitChars (fun c => c = ' ' || c = '\n') text.toList

variable {α : Type}

/-- One run of a table: its label, and how many code points it has. -/
def readRun? (width : Nat) (label? : String → Option α) (word : List Char) : Option (α × Nat) :=
  (label? (String.ofList (word.take width))).map fun a => (a, hexValue (word.drop width))

/-- The first code point of every run, with the label of the run. -/
def runStarts (width : Nat) (label? : String → Option α) (text : String) : Array (Nat × α) :=
  ((tableWords text).foldl (fun (starts, next) word =>
    match readRun? width label? word with
    | some (a, length) => (starts.push (next, a), next + length)
    | none => (starts, next)) ((#[], 0) : Array (Nat × α) × Nat)).1

/-- Halve the stretch `[low, high)` of run starts until one run is left. The
    run starts ascend, so the last start at or below `n` is the run of `n`. -/
def findRunFrom? (starts : Array (Nat × α)) (n : Nat) : Nat → Nat → Nat → Option α
  | 0, _, _ => none
  | fuel + 1, low, high =>
    if high ≤ low + 1 then (starts[low]?).map Prod.snd
    else
      let middle := (low + high) / 2
      match starts[middle]? with
      | some (start, _) =>
        if start ≤ n then findRunFrom? starts n fuel middle high
        else findRunFrom? starts n fuel low middle
      | none => none

/-- The label of a code point. -/
def findRun? (starts : Array (Nat × α)) (n : Nat) : Option α :=
  findRunFrom? starts n (starts.size + 1) 0 starts.size

/-- How many stretches of the code chart, one as long as possible, have labels
    of one sort. -/
def countStretches (starts : Array (Nat × α)) (isOfSort : α → Bool) : Nat :=
  (starts.foldl (fun (count, isInside) start =>
    let enters := isOfSort start.2
    (if enters && !isInside then count + 1 else count, enters)) ((0, false) : Nat × Bool)).1

/-- The ends of a range, which are the same for a single code point. -/
def readRange (word : List Char) : Nat × Nat :=
  match splitChars (· = '-') word with
  | [first, last] => (hexValue first, hexValue last)
  | _ => (hexValue word, hexValue word)

/-- A decoded list of ranges. -/
def readRanges (text : String) : List (Nat × Nat) :=
  ((tableWords text).filter (!·.isEmpty)).map readRange

/-- Whether a number lies in one of some inclusive ranges. -/
def inRanges (ranges : List (Nat × Nat)) (n : Nat) : Bool :=
  ranges.any fun range => range.1 ≤ n && n ≤ range.2

end Text

end Typings
