import Typings.Proofs.Hierarchy.Finishing
import Typings.Proofs.Run.Cycles

/-!
# The Finished Classes of a Run

Between its symbol and its declaration a class is built, linked and finished. Linking
gives it a base and children, finishing changes its methods and what it depends on,
and all else stays as it was built. In a run that succeeds there is no cycle among
the classes, so every class is finished from its base as that one is in the end, and
each is declared at the place of its symbol.

## Theorems

* `Hierarchy.getElem?_declarations`: Every class is declared at its place.
* `exists_symbol_of_finished`: What finished classes have of their symbols.
* `finished_of_get?`: Every class comes from its base.
* `exists_class_of_output`: A class that is declared is finished.
* `exists_output_of_acyclic`: A run without a cycle has an output.
-/

namespace Typings

open Api (Source)

/-- Every class of a consistent hierarchy is declared at its place. -/
theorem Hierarchy.getElem?_declarations (h : Hierarchy) (hc : h.Consistent) (i : Nat) :
    h.declarations[i]? = (h.get? i).map fun c => c.declaration (h.baseOf i) := by
  have hget : h.classes.toList[i]? = h.get? i := Array.getElem?_toList
  rw [declarations, List.getElem?_map, hget]
  exact Option.map_congr fun c hc' => by rw [hc.id_eq i c hc']

/-- What linking and finishing leave alone of a class. -/
def ClassModel.core (c : ClassModel) : ClassModel :=
  c.skeleton.unlinked

section Run

variable (config : Config) (sources : List Source)

theorem consistent_synthesize : (synthesize config sources).classes.Consistent :=
  (Hierarchy.isBuilt_ofSources _ .class .class sources).consistent.link

theorem consistent_finished : (synthesize config sources).finished.1.Consistent :=
  (consistent_synthesize config sources).propagate _

/-- A finished class is built from the symbol at its place, apart from its links, its
    methods and what it depends on. -/
theorem exists_symbol_of_finished (i : Nat) (f : ClassModel)
    (hget : (synthesize config sources).finished.1.get? i = some f) :
    ∃ p, (symbolsOf .class sources)[i]? = some p ∧
      f.core = (ClassModel.build (synthesize config sources).resolver i .class p.1 p.2).core := by
  have hsame := Hierarchy.sameSkeleton_propagate (synthesize config sources).resolver
    (synthesize config sources).classes i
  have hget' : ((synthesize config sources).classes.propagate
      (synthesize config sources).resolver).1.get? i = some f := hget
  rw [hget', Option.map_some] at hsame
  rcases Option.map_eq_some_iff.mp hsame.symm with ⟨c, hc, hskeleton⟩
  rcases Hierarchy.get?_link_ofSources _ .class .class sources i c hc with ⟨p, hp, hbuilt⟩
  have hlinked : c.core = (ClassModel.build _ i .class p.1 p.2).core :=
    congrArg ClassModel.skeleton hbuilt
  have hfinished : f.core = c.core := congrArg ClassModel.unlinked hskeleton.symm
  exact ⟨p, hp, hfinished.trans hlinked⟩

theorem kind_of_finished (i : Nat) (f : ClassModel)
    (hget : (synthesize config sources).finished.1.get? i = some f) : f.kind = .class := by
  rcases exists_symbol_of_finished config sources i f hget with ⟨p, _, hcore⟩
  have hkind := congrArg ClassModel.kind hcore
  exact hkind

variable (hacyclic : (synthesize config sources).classes.cycle? = none)

include hacyclic

/-- Where there is no cycle, every class comes from its base. -/
theorem finished_of_get? (i : Nat) (f : ClassModel)
    (hget : (synthesize config sources).finished.1.get? i = some f) :
    (synthesize config sources).classes.Finished (synthesize config sources).resolver i f := by
  have hc := consistent_synthesize config sources
  have hsize := Hierarchy.size_of_skeleton _ _ (Hierarchy.sameSkeleton_propagate
    (synthesize config sources).resolver (synthesize config sources).classes)
  have hi : i < (synthesize config sources).classes.size := by
    rw [← hsize]
    exact Hierarchy.lt_size_of_get? _ i f hget
  exact Hierarchy.finished_of_get?_propagate _ _ hc i
    ((Hierarchy.cycle?_eq_none_iff _ hc).mp hacyclic i hi) f hget

end Run

/-- A class that is declared in the output of a run is finished, and declared below its
    base as that one is in the end. -/
theorem exists_class_of_output {σ : Type} (config : Config) (sources : List Source)
    (renderer : Renderer σ) (state : σ) (output : Output)
    (hresult : (generate config sources renderer state).result = .ok output) (i : Nat)
    (d : ClassDeclaration) (hd : output.classes[i]? = some d) :
    ∃ c, (synthesize config sources).finished.1.get? i = some c ∧
      d = c.declaration ((synthesize config sources).finished.1.baseOf i) := by
  rcases output_of_generate renderer config sources state output hresult with
    ⟨_, _, _, hclasses, _⟩
  rw [hclasses, Hierarchy.getElem?_declarations _ (consistent_finished config sources)] at hd
  rcases Option.map_eq_some_iff.mp hd with ⟨c, hc, hdeclared⟩
  exact ⟨c, hc, hdeclared.symm⟩

/-- Where there is no cycle, a run succeeds, and declares the finished classes. -/
theorem exists_output_of_acyclic {σ : Type} (config : Config) (sources : List Source)
    (renderer : Renderer σ) (state : σ)
    (hacyclic : (synthesize config sources).classes.cycle? = none) :
    ∃ output, (generate config sources renderer state).result = .ok output ∧
      output.classes = (synthesize config sources).finished.1.declarations := by
  cases hresult : (generate config sources renderer state).result with
  | error cycle =>
      rw [result_generate_eq_error_iff, hacyclic] at hresult
      contradiction
  | ok output =>
      exact ⟨output, rfl, (output_of_generate renderer config sources state output hresult).2.2.2.1⟩

end Typings
