/-!
# Cutting Text

Qualified names, type unions and documentation texts are all read by cutting
them at separator characters. One function does the cutting, on lists of
characters, so that each of its users inherits the same two facts: there is
always at least one piece, and no piece holds a separator.

A text's lines are cut differently. A line feed *ends* a line instead of
standing between two, so a final line feed opens no further line, and one
carriage return before it belongs to the line end and not to the line.

## Main definitions

* `splitChars`: Cutting a list of characters at every separator.
* `split`: The same on strings.
* `join`: Pieces put together with a separator between neighbours.
* `replaceChar`: One character exchanged for another throughout.
* `withoutStart?`, `withoutEnd?`: A text behind or before a known part.
* `lines`: The lines of a text, without their ends.
-/

namespace Typings

namespace Text

/-- Cut at every separator. The pieces are one more than the separators, so
    the empty list has one empty piece. -/
def splitChars (isSeparator : Char → Bool) : List Char → List (List Char)
  | [] => [[]]
  | c :: rest =>
    if isSeparator c then [] :: splitChars isSeparator rest
    else match splitChars isSeparator rest with
      | [] => [[c]]
      | piece :: pieces => (c :: piece) :: pieces

/-- Cut a string at every separator. -/
def split (isSeparator : Char → Bool) (text : String) : List String :=
  (splitChars isSeparator text.toList).map String.ofList

/-- Put pieces together, with the separator between neighbours. -/
def join (separator : String) : List String → String
  | [] => ""
  | [piece] => piece
  | piece :: rest => piece ++ separator ++ join separator rest

/-- Exchange one character for another throughout. -/
def replaceChar (old new : Char) (text : String) : String :=
  String.ofList (text.toList.map fun c => if c = old then new else c)

/-- What follows a known beginning. -/
def withoutStart? (start text : String) : Option String :=
  if start.toList.isPrefixOf text.toList then
    some (String.ofList (text.toList.drop start.toList.length))
  else none

/-- What stands before a known ending. -/
def withoutEnd? (ending text : String) : Option String :=
  if ending.toList.isSuffixOf text.toList then
    some (String.ofList (text.toList.take (text.toList.length - ending.toList.length)))
  else none

/-- Drop one carriage return from the end, which a line feed after it has
    made part of the line end. -/
def dropReturn (line : List Char) : List Char :=
  match line.reverse with
  | '\r' :: rest => rest.reverse
  | _ => line

/-- The pieces between line feeds become lines: every piece but the last was
    ended by a line feed, and the last is a line only if it holds something. -/
def linesOfPieces : List (List Char) → List (List Char)
  | [] => []
  | [last] => if last.isEmpty then [] else [last]
  | piece :: rest => dropReturn piece :: linesOfPieces rest

/-- The lines of a text, without their ends. -/
def lines (text : String) : List String :=
  (linesOfPieces (splitChars (· = '\n') text.toList)).map String.ofList

end Text

end Typings
