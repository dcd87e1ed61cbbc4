/-!
# Replacing Text

Every occurrence of a text replaced by another. Occurrences are found from
left to right and do not overlap: the search goes on behind an occurrence, and
what took its place is not searched again.

## Main definitions

* `replaceFrom`: Replacement in a list of characters.
* `replace`: Replacement in a string.
-/

namespace Typings

namespace Text

/-- Replace every occurrence of a text that is not empty, leaving out so many
    characters in front that belong to an occurrence already replaced. -/
def replaceFrom (search replacement : List Char) : Nat → List Char → List Char
  | _, [] => []
  | skipped + 1, _ :: rest => replaceFrom search replacement skipped rest
  | 0, c :: rest =>
    if search.isPrefixOf (c :: rest) then
      replacement ++ replaceFrom search replacement (search.length - 1) rest
    else c :: replaceFrom search replacement 0 rest

/-- Replace every occurrence of a text. The empty text occurs nowhere. -/
def replace (search replacement text : String) : String :=
  if search.isEmpty then text
  else String.ofList (replaceFrom search.toList replacement.toList 0 text.toList)

end Text

end Typings
