import Typings.Hierarchy.Basic

/-!
# Linking Bases

The declared base of a class is a qualified name, and it is linked to the
class whose module path is that name spelled with slashes. Where several
classes have one path, the last counts. A base that no class provides stays
unlinked and is reported.

## Main definitions

* `Hierarchy.provider?`: The place of the class with a module path.
* `Hierarchy.link`: Every class linked to its declared base.
* `LinkSummary`: How many links were made, and which could not be.
-/

namespace Typings

/-- A class whose declared base no class provides. -/
structure UnresolvedBase where
  className : String
  base : String
  deriving DecidableEq, Repr, Inhabited

/-- How many links were made, and which could not be. -/
structure LinkSummary where
  linked : Nat := 0
  unresolved : List UnresolvedBase := []
  deriving DecidableEq, Repr, Inhabited

namespace Hierarchy

/-- The place of the last class with a module path. -/
def provider? (h : Hierarchy) (path : String) : Option Nat :=
  (h.classes.toList.reverse.find? (·.fullName = path)).map (·.id)

/-- Link one class to its declared base. -/
def linkOne (state : Hierarchy × LinkSummary) (c : ClassModel) : Hierarchy × LinkSummary :=
  let (h, summary) := state
  match c.base with
  | none => (h, summary)
  | some base =>
    match h.provider? (TypePath.toModulePath base) with
    | some id => (h.setBase c.id id, { summary with linked := summary.linked + 1 })
    | none =>
      (h, { summary with unresolved := summary.unresolved ++ [⟨c.qualifiedName, base⟩] })

/-- Link every class to its declared base, in order. -/
def link (h : Hierarchy) : Hierarchy × LinkSummary :=
  h.classes.toList.foldl linkOne (h, {})

end Hierarchy

end Typings
