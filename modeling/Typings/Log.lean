import Typings.Text.Case

/-!
# Logging Settings

How much of a run is logged, and in which form. Both are words from outside: a
form that is not known counts as plain text, and a filter that says nothing
turns logging off.

## Main definitions

* `LogFormat`: The forms of a log.
* `LogFormat.ofText`: A form from its name.
* `logFilter`: The filter that counts among those given.
-/

namespace Typings

/-- The forms of a log. -/
inductive LogFormat where
  | text
  | tree
  | json
  deriving DecidableEq, Repr, Inhabited

/-- A form from its name, in any spelling and with blanks around it. -/
def LogFormat.ofText (name : String) : LogFormat :=
  match Text.settingWord name with
  | "tree" => .tree
  | "json" => .json
  | _ => .text

/-- The filter that counts: the program's own, or else the common one, or else
    the configured one. A blank filter hides those behind it and is none. -/
def logFilter (own common configured : Option String) : Option String :=
  ((own.or common).or configured).filter (!Text.isBlankText ·)

end Typings
