import Typings.Proofs.Hierarchy.Links
import Typings.Proofs.Method.Subscribing
import Typings.Proofs.Method.Tokens

/-!
# Hierarchies of Built Classes

A run begins with classes that are built from symbols and know nothing of each
other. Such a hierarchy is consistent, for want of links, and linking keeps it
so. Of every class it holds that its methods require what their tokens need,
and that the class has taken in what its methods require.

## Main definitions

* `Hierarchy.IsBuilt`: Every class is built from a symbol, for its place.

## Theorems

* `ClassModel.requiresParameters_of_mem_build`,
  `ClassModel.requiresReturn_of_mem_build`: The methods of a built class.
* `ClassModel.covers_build`: A built class imports what its methods require.
* `ClassModel.exists_callbackType_of_mem_build`: The callbacks of a built class.
* `ClassModel.tidyWithout_build`: Its imports are in order.
* `Hierarchy.IsBuilt.consistent`: Built classes have no links.
* `Hierarchy.IsBuilt.get?_link`: Linked classes are built apart from their
  links.
-/

namespace Typings

namespace ClassModel

variable (r : Resolver) (id : Nat) (kind : ClassKind) (library : String) (s : Api.Symbol)

theorem mem_methods_build (m : Method) (hm : m ∈ (build r id kind library s).methods) :
    ∃ (owner : Owner) (raw : Api.Method),
      owner.resolver = r ∧ owner.events = (build r id kind library s).events ∧
        m = Method.build owner raw {} := by
  simp only [build, List.mem_flatMap, Method.variants, List.mem_map] at hm
  rcases hm with ⟨raw, _, parameters, _, rfl⟩
  exact ⟨_, _, rfl, rfl, rfl⟩

theorem requiresParameters_of_mem_build (m : Method)
    (hm : m ∈ (build r id kind library s).methods) : m.RequiresParameters r := by
  rcases mem_methods_build r id kind library s m hm with ⟨owner, raw, rfl, _, rfl⟩
  exact Method.requiresParameters_build owner raw {}

theorem requiresReturn_of_mem_build (m : Method)
    (hm : m ∈ (build r id kind library s).methods) : m.RequiresReturn r := by
  rcases mem_methods_build r id kind library s m hm with ⟨owner, raw, rfl, _, rfl⟩
  exact Method.requiresReturn_build owner raw {}

/-- A built class imports what its methods require. -/
theorem covers_build (m : Method) (hm : m ∈ (build r id kind library s).methods) (i : TypeImport)
    (hi : i ∈ m.requirements.imports) :
    (build r id kind library s).dependencies.imports.Covers i := by
  refine Dependencies.covers_of_mem_absorbAll _ _ m.requirements ?_ i hi
  -- The needs of methods are taken in between those of other members.
  simp only [List.mem_append]
  exact Or.inl (Or.inl (Or.inr (List.mem_map.mpr ⟨m, hm, rfl⟩)))

/-- A callback for an event of a built class has the type that was made up for the event. -/
theorem exists_callbackType_of_mem_build (m : Method)
    (hm : m ∈ (build r id kind library s).methods) (e : Event) (p : Parameter)
    (h : m.TakesCallback (build r id kind library s).events e p) :
    ∃ hasListener hasCustomData, p.type = callbackType e hasListener hasCustomData ∧
      p.rawType = "" := by
  rcases mem_methods_build r id kind library s m hm with ⟨owner, raw, _, hevents, rfl⟩
  rw [← hevents] at h
  exact Method.exists_callbackType owner raw {} e p h

/-- The imports of a built class are in order, and its own names are not among
    them. -/
theorem tidyWithout_build :
    (build r id kind library s).dependencies.TidyWithout
      [settingsInterfaceName s.shortName, s.shortName] :=
  Dependencies.absorbAll_induction
    (motive := fun d => d.TidyWithout [settingsInterfaceName s.shortName, s.shortName])
    (fun _ q hd => hd.absorb q) _ _ (Dependencies.tidyWithout_suppressing _)

end ClassModel

namespace Hierarchy

/-- Every class is built from a symbol, for its place. -/
def IsBuilt (r : Resolver) (h : Hierarchy) : Prop :=
  ∀ i c, h.get? i = some c → ∃ kind library s, c = ClassModel.build r i kind library s

variable {r : Resolver} {h : Hierarchy}

theorem IsBuilt.baseId? (hb : h.IsBuilt r) (i : Nat) : h.baseId? i = none := by
  rw [Hierarchy.baseId?]
  rcases hget : h.get? i with _ | c
  · rfl
  · rcases hb i c hget with ⟨kind, library, s, rfl⟩
    rfl

/-- Built classes have no links, so their links agree. -/
theorem IsBuilt.consistent (hb : h.IsBuilt r) : h.Consistent := by
  refine ⟨?_, ?_, ?_, ?_⟩
  · intro i c hget
    rcases hb i c hget with ⟨kind, library, s, rfl⟩
    rfl
  · intro i c hget d
    rcases hb i c hget with ⟨kind, library, s, rfl⟩
    rw [hb.baseId? d]
    exact ⟨fun hd => absurd hd List.not_mem_nil, nofun⟩
  · intro i c hget
    rcases hb i c hget with ⟨kind, library, s, rfl⟩
    exact List.nodup_nil
  · intro i b hbase
    rw [hb.baseId? i] at hbase
    contradiction

/-- Linked classes are built, apart from their links. -/
theorem IsBuilt.get?_link (hb : h.IsBuilt r) (i : Nat) (c : ClassModel)
    (hget : h.link.1.get? i = some c) :
    ∃ kind library s, c.unlinked = ClassModel.build r i kind library s := by
  -- Linking leaves the contents as they were, and these were built.
  have hcontents := congrArg (fun cs => cs[i]?) (contents_link h)
  simp only [getElem?_contents, hget, Option.map_some] at hcontents
  rw [eq_comm, Option.map_eq_some_iff] at hcontents
  rcases hcontents with ⟨d, hd, heq⟩
  rcases hb i d hd with ⟨kind, library, s, rfl⟩
  exact ⟨kind, library, s, heq.symm⟩

end Hierarchy

end Typings
