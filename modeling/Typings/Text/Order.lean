/-!
# The Order of Texts

Texts are sorted by their code points, which is also the order of their bytes
in UTF-8. Sorting is stable: an item is inserted in front of the items that
stood behind it and have the same key.

## Main definitions

* `le`: The order.
* `insertBy`: An item inserted into sorted items.
* `sortBy`: Items in the order of their keys.
-/

namespace Typings

namespace Text

/-- Whether a text comes before another, or is the same. -/
def le (a b : String) : Bool :=
  !decide (b < a)

/-- Insert an item in front of the first item that does not come before it. -/
def insertBy {α : Type} (key : α → String) (a : α) : List α → List α
  | [] => [a]
  | b :: rest => if le (key a) (key b) then a :: b :: rest else b :: insertBy key a rest

/-- Items in the order of their keys; items with one key keep their order. -/
def sortBy {α : Type} (key : α → String) (items : List α) : List α :=
  items.foldr (insertBy key) []

/-- Texts in order. -/
def sort (texts : List String) : List String :=
  sortBy id texts

end Text

end Typings
