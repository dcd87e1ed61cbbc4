/-!
# Tables

A finite map from names to values that remembers the order in which its names
first came. Configuration maps, import lists and the members of a data object
all show that order again when they are written, and all answer a repeated
name the same way: the name keeps its first place and takes its last value.

## Main definitions

* `Table`: Entries in the order of their names' first appearance.
* `Table.get?`: The value of a name.
* `Table.put`: A name given a value.
* `Table.erase`: A name taken out.
* `Table.ofList`: Entries put one after the other.
-/

namespace Typings

/-- Entries in the order of their names' first appearance. -/
structure Table (α : Type) where
  entries : List (String × α) := []
  deriving Repr, DecidableEq

namespace Table

variable {α : Type}

/-- The table without entries. -/
def empty : Table α := ⟨[]⟩

instance : Inhabited (Table α) := ⟨empty⟩

/-- The value of a name. -/
def get? (t : Table α) (name : String) : Option α :=
  t.entries.lookup name

/-- Whether a name has a value. -/
def contains (t : Table α) (name : String) : Bool :=
  t.entries.any fun entry => entry.1 = name

/-- Give a name a value. A name that has one keeps its place; a new name goes
    to the end. -/
def put (t : Table α) (name : String) (value : α) : Table α :=
  if t.contains name then
    ⟨t.entries.map fun entry => if entry.1 = name then (name, value) else entry⟩
  else ⟨t.entries ++ [(name, value)]⟩

/-- Take a name out, with its value. -/
def erase (t : Table α) (name : String) : Table α :=
  ⟨t.entries.filter (·.1 ≠ name)⟩

/-- Put entries one after the other. -/
def ofList (entries : List (String × α)) : Table α :=
  entries.foldl (fun t entry => t.put entry.1 entry.2) empty

/-- The number of names. -/
def size (t : Table α) : Nat :=
  t.entries.length

/-- Whether the table has no entries. -/
def isEmpty (t : Table α) : Bool :=
  t.entries.isEmpty

/-- The names in order. -/
def keys (t : Table α) : List String :=
  t.entries.map Prod.fst

end Table

end Typings
