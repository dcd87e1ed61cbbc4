import Typings.Run.Report
import Typings.Text.Replace

/-!
# Showing a Report

The text of a report for a terminal: what failed and what was not found, a
line each, and then the counters. Colors are put around parts of the text and
change nothing about the text itself. A text that ends colors of its own goes
on in the color around it.

Which parts stand out is up to the report, and how they do to a painter. The
one that is used writes the escape sequences of a terminal.

## Main definitions

* `Style`: How a part of the text stands out.
* `Painter`: What puts a text in a style.
* `Style.paint`: The painter for terminals.
* `Report.displayBy`: The text of a report, with the parts that a painter paints.
* `Report.display`: The text of a report.
-/

namespace Typings

/-- How a part of the text stands out. -/
inductive Style where
  | failure
  | warning
  | name
  | count
  deriving DecidableEq, Repr, Inhabited

namespace Style

/-- What begins a style: bold red, bold yellow, cyan or bold green. -/
def start : Style → String
  | .failure => "\x1b[1;31m"
  | .warning => "\x1b[1;33m"
  | .name => "\x1b[36m"
  | .count => "\x1b[1;32m"

/-- What ends every style. -/
def reset : String := "\x1b[0m"

/-- A text in a style, as terminals show it. -/
def paint (style : Style) (text : String) : String :=
  style.start ++ Text.replace reset (reset ++ style.start) text ++ reset

end Style

/-- What puts a text in a style. -/
def Painter : Type := Style → String → String

/-- A text in a style, if there are colors. -/
def Painter.apply (painter : Painter) (isColored : Bool) (style : Style) (text : String) : String :=
  if isColored then painter style text else text

namespace Report

section Lines

variable (painter : Painter) (isColored : Bool)

/-- The line of an item that could not be rendered. -/
def failureLine (f : RenderFailure) : String :=
  painter.apply isColored .failure "error" ++ ": " ++ f.kind.name ++ " " ++
    painter.apply isColored .name f.name ++ ": " ++ f.message ++ "\n"

/-- The line of a base that was not found. -/
def unresolvedLine (b : UnresolvedBase) : String :=
  painter.apply isColored .warning "warning" ++ ": base class " ++
    painter.apply isColored .name b.base ++ " of " ++ painter.apply isColored .name b.className ++
    " was not found\n"

/-- The line of all types that were not found, if there are some. -/
def unresolvedTypesLine (r : Report) : String :=
  if r.unresolvedTypes = 0 then ""
  else painter.apply isColored .warning "warning" ++ ": " ++ toString r.unresolvedTypes ++
    " type reference(s) rendered as any\n"

/-- The line that says how many files were written, and where. -/
def writtenLine (outputDir : String) (r : Report) : String :=
  "Generated " ++ painter.apply isColored .count (toString r.rendered) ++
    " declaration file(s) into " ++ outputDir ++ "\n"

/-- The line that says how much of everything was declared. -/
def declaredLine (r : Report) : String :=
  "  " ++ toString r.sources ++ " source(s), " ++ toString r.enums ++ " enum(s), " ++
    toString r.namespaces ++ " namespace(s), " ++ toString r.interfaces ++ " interface(s), " ++
    toString r.classes ++ " class(es)\n"

/-- The line that says how many classes have a base, and what they took over. -/
def linkedLine (r : Report) : String :=
  "  " ++ toString r.linkedBaseClasses ++ " base class(es) linked, " ++
    toString r.inheritedOverloads ++ " inherited overload(s)\n"

/-- The line that says how many items could not be rendered, if there are
    some. -/
def failureCountLine (r : Report) : String :=
  if r.failureCount = 0 then ""
  else
    painter.apply isColored .failure
      (toString r.failureCount ++ " declaration(s) failed to render") ++ "\n"

/-- The text of a report on declarations in a directory. -/
def displayBy (outputDir : String) (r : Report) : String :=
  Text.join "" (r.renderFailures.map (failureLine painter isColored)) ++
    Text.join "" (r.unresolvedBaseClasses.map (unresolvedLine painter isColored)) ++
    unresolvedTypesLine painter isColored r ++
    writtenLine painter isColored outputDir r ++ declaredLine r ++ linkedLine r ++
    failureCountLine painter isColored r

end Lines

/-- The text of a report for a terminal. -/
def display (isColored : Bool) (outputDir : String) (r : Report) : String :=
  r.displayBy Style.paint isColored outputDir

end Report

end Typings
