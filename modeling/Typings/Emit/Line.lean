/-!
# Lines and Blocks

A declaration file is a list of lines, each with the depth of the blocks it
stands in. A block is a head, a body one level deeper and a tail, so heads
and tails cannot fall out of step with the depth of what is between them.

Lines are written into a buffer, which drops the spaces in front of a line
end: an empty line has no indentation, and a documentation line without text
ends at its star.

## Main definitions

* `Writer`: A text buffer.
* `Line`: A line with its depth.
* `block`: A head, a body one level deeper, and a tail.
* `renderLines`: The text of a list of lines.
-/

namespace Typings

namespace Emit

/-- A text buffer, which holds its characters newest first. -/
structure Writer where
  reversed : List Char := []
  deriving DecidableEq, Repr, Inhabited

namespace Writer

/-- Write a text. -/
def write (w : Writer) (text : String) : Writer :=
  ⟨text.toList.reverse ++ w.reversed⟩

/-- End the line, dropping the spaces in front of the line end. -/
def endLine (w : Writer) : Writer :=
  ⟨'\n' :: w.reversed.dropWhile (· = ' ')⟩

/-- The text that was written. -/
def output (w : Writer) : String :=
  String.ofList w.reversed.reverse

end Writer

/-- A line, with the number of blocks it stands in. -/
structure Line where
  level : Nat
  text : String
  deriving DecidableEq, Repr, Inhabited

/-- The indentation of one level. -/
def indentWidth : Nat := 4

namespace Line

/-- A line outside all blocks. -/
def flat (text : String) : Line := ⟨0, text⟩

/-- A line without text. -/
def blank : Line := flat ""

/-- A line moved into a block. -/
def deeper (l : Line) : Line :=
  { l with level := l.level + 1 }

/-- The indentation of a line. -/
def indent (l : Line) : String :=
  String.ofList (List.replicate (l.level * indentWidth) ' ')

end Line

/-- A head, a body one level deeper, and a tail. -/
def block (head : String) (body : List Line) (tail : String) : List Line :=
  Line.flat head :: body.map Line.deeper ++ [Line.flat tail]

/-- Write a line with its indentation, and end it. -/
def Writer.writeLine (w : Writer) (l : Line) : Writer :=
  ((w.write l.indent).write l.text).endLine

/-- The text of a list of lines. -/
def renderLines (lines : List Line) : String :=
  (lines.foldl Writer.writeLine {}).output

end Emit

end Typings
