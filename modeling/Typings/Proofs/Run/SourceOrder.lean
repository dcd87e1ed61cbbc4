import Typings.Proofs.Hierarchy.Sources
import Typings.Run.Generate

/-!
# The Order of Sources

A run goes through its sources in order, and the order shows: in the order of
the declarations, in the places of classes, in the order in which classes are
finished, and in which of two types of one name is looked up. But a declaration
itself does not depend on it, as long as no two types share a name. Rearranged
sources make a run fail if they made it fail before, and otherwise lead to the
same declarations in another order, with the same counts.

The declarations of a pass follow from the symbols of that pass, in their order,
so rearranging symbols rearranges declarations. Of classes this is not so
plain, since a finished class depends on the classes above it. What saves it
is that it depends on nothing else, and that places do not matter.

## Main definitions

* `Output.SameUpToOrder`: The same declarations in any order, and the same
  counts.
* `SameResult`: Two runs that both fail, or succeed alike.

## Theorems

* `perm_of_places`: Lists that agree where their keys do are rearrangements.
* `isSome_cycle?_of_rearranged`: Rearranged sources have a cycle or none.
* `perm_finished_of_rearranged`, `perm_declarations_of_rearranged`,
  `inherited_of_rearranged`: Finished classes are the same.
* `generate_of_rearranged`: A run does not depend on the order of its sources.
-/

namespace Typings

/-- Two outputs with the same declarations, in any order, and the same counts of
    everything that does not depend on how declarations are rendered. -/
structure Output.SameUpToOrder (o o' : Output) : Prop where
  enums : o.enums.Perm o'.enums
  interfaces : o.interfaces.Perm o'.interfaces
  classes : o.classes.Perm o'.classes
  namespaces : o.namespaces.Perm o'.namespaces
  ambientTypes : o.report.ambientTypes = o'.report.ambientTypes
  enumCount : o.report.enums = o'.report.enums
  namespaceCount : o.report.namespaces = o'.report.namespaces
  interfaceCount : o.report.interfaces = o'.report.interfaces
  classCount : o.report.classes = o'.report.classes
  skippedSymbols : o.report.skippedSymbols = o'.report.skippedSymbols
  linkedBaseClasses : o.report.linkedBaseClasses = o'.report.linkedBaseClasses
  inheritedOverloads : o.report.inheritedOverloads = o'.report.inheritedOverloads
  unresolvedTypes : o.report.unresolvedTypes = o'.report.unresolvedTypes

/-- Two runs that both fail, or that both succeed with the same declarations in
    any order. -/
def SameResult : Except InheritanceCycle Output → Except InheritanceCycle Output → Prop
  | .ok o, .ok o' => o.SameUpToOrder o'
  | .error _, .error _ => True
  | .ok _, .error _ => False
  | .error _, .ok _ => False

/-- A list whose members follow from the keys beside them is a list of keys,
    mapped. -/
theorem map_some_of_places {α β : Type} (keys : List α) (values : List β) (at? : α → Option β)
    (hlength : values.length = keys.length)
    (hplace : ∀ (i : Nat) (p : α), keys[i]? = some p → at? p = values[i]?) :
    values.map some = keys.map at? := by
  refine List.ext_getElem? fun i => ?_
  rw [List.getElem?_map, List.getElem?_map]
  rcases hi : keys[i]? with _ | p
  · rw [List.getElem?_eq_none (hlength ▸ List.getElem?_eq_none_iff.mp hi)]
    rfl
  · have hlt : i < values.length := hlength ▸ (List.getElem?_eq_some_iff.mp hi).1
    rw [Option.map_some, hplace i p hi, List.getElem?_eq_getElem hlt, Option.map_some]

/-- Two lists are rearrangements of each other if they agree wherever the keys
    beside them do, and the keys are rearranged. -/
theorem perm_of_places {α β : Type} (keys keys' : List α) (values values' : List β)
    (hperm : keys.Perm keys') (hlength : values.length = keys.length)
    (hlength' : values'.length = keys'.length)
    (hsame : ∀ i j : Nat, (∃ p, keys[i]? = some p ∧ keys'[j]? = some p) →
      values[i]? = values'[j]?) :
    values.Perm values' := by
  classical
  -- Every key leads to the value beside its first place.
  let at? : α → Option β := fun p => values[keys.findIdx fun q => decide (q = p)]?
  have hfirst : ∀ p ∈ keys, keys[keys.findIdx fun q => decide (q = p)]? = some p := by
    intro p hp
    have hlt : keys.findIdx (fun q => decide (q = p)) < keys.length :=
      List.findIdx_lt_length_of_exists ⟨p, hp, decide_eq_true rfl⟩
    rw [List.getElem?_eq_getElem hlt, of_decide_eq_true (List.findIdx_getElem (w := hlt))]
  have hplace : ∀ (j : Nat) (p : α), keys'[j]? = some p → at? p = values'[j]? := by
    intro j p hj
    exact hsame _ j ⟨p, hfirst p (hperm.mem_iff.mpr (List.mem_of_getElem? hj)), hj⟩
  have hvalues : values.map some = keys.map at? := by
    refine map_some_of_places keys values at? hlength fun i p hi => ?_
    rcases List.mem_iff_getElem?.mp (hperm.mem_iff.mp (List.mem_of_getElem? hi)) with ⟨j, hj⟩
    rw [hplace j p hj, ← hsame i j ⟨p, hi, hj⟩]
  have hvalues' : values'.map some = keys'.map at? :=
    map_some_of_places keys' values' at? hlength' hplace
  -- So both lists are the keys, mapped by one function.
  have hsome : (values.map some).Perm (values'.map some) := by
    rw [hvalues, hvalues']
    exact hperm.map at?
  exact (List.map_perm_map_iff fun _ _ => Option.some.inj).mp hsome

namespace Hierarchy

theorem unresolvedInClasses_eq (h : Hierarchy) :
    unresolvedInClasses h = (h.classes.toList.map ClassModel.unplaced).flatMap fun c =>
      unresolvedEvents c.qualifiedName c.dependencies := by
  rw [unresolvedInClasses, List.flatMap_map]
  rfl

/-- Without their places, the same classes leave as many tokens unresolved. -/
theorem length_unresolvedInClasses (g g' : Hierarchy)
    (hperm : (g.classes.toList.map ClassModel.unplaced).Perm
      (g'.classes.toList.map ClassModel.unplaced)) :
    (unresolvedInClasses g).length = (unresolvedInClasses g').length := by
  rw [unresolvedInClasses_eq, unresolvedInClasses_eq]
  exact (hperm.flatMap_right _).length_eq

/-- Without their places, the same classes have as many methods. -/
theorem methodCount_eq_of_perm (g g' : Hierarchy)
    (hperm : (g.classes.toList.map ClassModel.unplaced).Perm
      (g'.classes.toList.map ClassModel.unplaced)) : g.methodCount = g'.methodCount := by
  have hcount : ∀ h : Hierarchy, h.methodCount =
      ((h.classes.toList.map ClassModel.unplaced).flatMap (·.methods)).length := by
    intro h
    rw [methodCount, List.flatMap_map, List.length_flatMap, List.length_flatMap]
    congr 1
    exact List.map_congr_left fun c _ => (List.length_map _).symm
  rw [hcount, hcount]
  exact (hperm.flatMap_right _).length_eq

theorem map_unplaced_link (h : Hierarchy) :
    h.link.1.classes.toList.map ClassModel.unplaced =
      h.classes.toList.map ClassModel.unplaced := by
  have hcontents := congrArg (List.map ClassModel.unplaced) (contents_link h)
  rw [contents, contents, List.map_map, List.map_map] at hcontents
  exact hcontents

section Classes

variable {first second : List Api.Source} {r r' : Resolver}

theorem size_link_ofSources (q : Resolver) (sources : List Api.Source) :
    (ofSources q .class .class sources).link.1.size = (symbolsOf .class sources).length := by
  have hlength := congrArg List.length (map_unplaced_link (ofSources q .class .class sources))
  rw [map_unplaced_ofSources, List.length_map, List.length_map] at hlength
  exact hlength

theorem size_link_of_rearranged (h : Rearranged first second) (q q' : Resolver) :
    (ofSources q .class .class first).link.1.size =
      (ofSources q' .class .class second).link.1.size := by
  rw [size_link_ofSources, size_link_ofSources, (perm_symbolsOf h .class).length_eq]

theorem linked_of_rearranged (h : Rearranged first second) (q q' : Resolver) :
    (ofSources q .class .class first).link.2.linked =
      (ofSources q' .class .class second).link.2.linked := by
  rw [linked_ofSources, linked_ofSources, providesBase_of_rearranged h,
    (perm_symbolsOf h .class).countP_eq]

theorem consistent_link_ofSources (q : Resolver) (sources : List Api.Source) :
    (ofSources q .class .class sources).link.1.Consistent :=
  (isBuilt_ofSources q .class .class sources).consistent.link

variable (hr : r.resolve = r'.resolve) (h : Rearranged first second)

include hr h

/-- Without their places, the models of rearranged symbols are rearranged. -/
theorem perm_unplaced_of_rearranged (symbolKind : Api.SymbolKind) (kind : ClassKind) :
    ((ofSources r symbolKind kind first).classes.toList.map ClassModel.unplaced).Perm
      ((ofSources r' symbolKind kind second).classes.toList.map ClassModel.unplaced) := by
  rw [map_unplaced_ofSources, map_unplaced_ofSources, ClassModel.build_of_resolve hr]
  exact (perm_symbolsOf h symbolKind).map _

variable (hpaths : (classPaths first).Nodup)

include hpaths

/-- Rearranged sources have a cycle or none. -/
theorem isSome_cycle?_of_rearranged :
    (ofSources r .class .class first).link.1.cycle? = none ↔
      (ofSources r' .class .class second).link.1.cycle? = none := by
  have hcorresponding := corresponding_link r r' hr .class h hpaths
  rw [cycle?_eq_none_iff _ (consistent_link_ofSources r first),
    cycle?_eq_none_iff _ (consistent_link_ofSources r' second), size_link_ofSources,
    size_link_ofSources]
  -- Every class of either hierarchy corresponds to one of the other.
  constructor
  · intro hrooted j hj
    have hp := List.getElem?_eq_getElem hj
    rcases List.mem_iff_getElem?.mp ((perm_symbolsOf h .class).mem_iff.mpr
      (List.mem_of_getElem? hp)) with ⟨i, hi⟩
    exact hcorresponding.rooted i j ⟨_, hi, hp⟩ (hrooted i (List.getElem?_eq_some_iff.mp hi).1)
  · intro hrooted i hi
    have hp := List.getElem?_eq_getElem hi
    rcases exists_samePlace h .class _ (List.mem_of_getElem? hp) with ⟨j, hj⟩
    exact hcorresponding.symm.rooted j i ⟨_, hp, hj⟩
      (hrooted j (List.getElem?_eq_some_iff.mp hj).1)

variable (hacyclic : (ofSources r .class .class first).link.1.cycle? = none)

include hacyclic

theorem corresponding_propagate :
    Corresponding (SamePlace .class first second)
      ((ofSources r .class .class first).link.1.propagate r).1
      ((ofSources r' .class .class second).link.1.propagate r').1 :=
  (corresponding_link r r' hr .class h hpaths).propagate hr (consistent_link_ofSources r first)
    (consistent_link_ofSources r' second)
    ((cycle?_eq_none_iff _ (consistent_link_ofSources r first)).mp hacyclic)

/-- Finished classes are the same, but for their places and their order. -/
theorem perm_finished_of_rearranged :
    (((ofSources r .class .class first).link.1.propagate r).1.classes.toList.map
        ClassModel.unplaced).Perm
      (((ofSources r' .class .class second).link.1.propagate r').1.classes.toList.map
        ClassModel.unplaced) := by
  have hlength : ∀ (q : Resolver) (sources : List Api.Source),
      (((ofSources q .class .class sources).link.1.propagate q).1.classes.toList.map
        ClassModel.unplaced).length = (symbolsOf .class sources).length := by
    intro q sources
    rw [List.length_map, ← size_link_ofSources q sources]
    exact size_of_skeleton _ _ (sameSkeleton_propagate q _)
  refine perm_of_places _ _ _ _ (perm_symbolsOf h .class) (hlength r first)
    (hlength r' second) fun i j hij => ?_
  rcases (corresponding_propagate hr h hpaths hacyclic).classes i j hij with
    ⟨c, c', hc, hc', heq⟩
  rw [get?] at hc hc'
  rw [List.getElem?_map, List.getElem?_map, Array.getElem?_toList, Array.getElem?_toList, hc, hc',
    Option.map_some, Option.map_some, heq]

/-- Finished classes are declared the same. -/
theorem perm_declarations_of_rearranged :
    ((ofSources r .class .class first).link.1.propagate r).1.declarations.Perm
      ((ofSources r' .class .class second).link.1.propagate r').1.declarations := by
  have hlength : ∀ (q : Resolver) (sources : List Api.Source),
      ((ofSources q .class .class sources).link.1.propagate q).1.declarations.length =
        (symbolsOf .class sources).length := by
    intro q sources
    rw [declarations, List.length_map, ← size_link_ofSources q sources]
    exact size_of_skeleton _ _ (sameSkeleton_propagate q _)
  refine perm_of_places _ _ _ _ (perm_symbolsOf h .class) (hlength r first)
    (hlength r' second) fun i j hij => ?_
  exact (corresponding_propagate hr h hpaths hacyclic).declarations
    ((consistent_link_ofSources r first).propagate r)
    ((consistent_link_ofSources r' second).propagate r') i j hij

/-- As many methods are carried. -/
theorem inherited_of_rearranged :
    ((ofSources r .class .class first).link.1.propagate r).2.length =
      ((ofSources r' .class .class second).link.1.propagate r').2.length := by
  -- Both hierarchies have as many methods before and as many in the end, and the
  -- methods they gained are those that are reported.
  have hcount := methodCount_propagate r (ofSources r .class .class first).link.1
  have hcount' := methodCount_propagate r' (ofSources r' .class .class second).link.1
  have hfinished := methodCount_eq_of_perm _ _ (perm_finished_of_rearranged hr h hpaths hacyclic)
  have hbuilt := perm_unplaced_of_rearranged hr h .class .class
  rw [← map_unplaced_link (ofSources r .class .class first),
    ← map_unplaced_link (ofSources r' .class .class second)] at hbuilt
  rw [hcount, hcount', methodCount_eq_of_perm _ _ hbuilt] at hfinished
  exact Nat.add_left_cancel hfinished

end Classes

end Hierarchy

section Run

variable (config : Config) {first second : List Api.Source} (h : Rearranged first second)
  (hambient : (ambientNames first).Nodup) (hclasses : (classNames first).Nodup)

include h hambient hclasses

theorem resolve_of_rearranged :
    (synthesize config first).resolver.resolve = (synthesize config second).resolver.resolve :=
  Resolver.resolve_of_lookup _ _ rfl (Registry.lookup_of_rearranged h hambient hclasses)

theorem perm_namespaces_of_rearranged :
    (synthesize config first).namespaces.Perm (synthesize config second).namespaces := by
  rw [namespaces_synthesize, namespaces_synthesize,
    NamespaceModel.build_of_resolve (resolve_of_rearranged config h hambient hclasses)]
  exact ((perm_declaredSymbols h).filter _).map _

theorem perm_interfaces_of_rearranged :
    ((synthesize config first).interfaces.classes.toList.map ClassModel.unplaced).Perm
      ((synthesize config second).interfaces.classes.toList.map ClassModel.unplaced) :=
  Hierarchy.perm_unplaced_of_rearranged (resolve_of_rearranged config h hambient hclasses) h
    .interface .interface

omit hambient hclasses in
theorem perm_allEnums_of_rearranged :
    (synthesize config first).allEnums.Perm (synthesize config second).allEnums := by
  rw [allEnums_synthesize, allEnums_synthesize]
  exact ((perm_declaredSymbols h).filter _).map _

omit h hambient hclasses in
theorem interfaceDeclarations_eq (s : Synthesis) :
    s.interfaceDeclarations =
      (s.interfaces.classes.toList.map ClassModel.unplaced).map (·.declaration none) := by
  rw [Synthesis.interfaceDeclarations, List.map_map]
  exact List.map_congr_left fun c _ => (ClassModel.declaration_unplaced c none).symm

omit h hambient hclasses in
theorem interfaces_size_eq (s : Synthesis) :
    s.interfaces.size = (s.interfaces.classes.toList.map ClassModel.unplaced).length :=
  (List.length_map _).symm

/-- A run does not depend on the order of its sources, nor on the order of the
    symbols inside them, as long as no two enums, namespaces or interfaces share
    a name, no two classes share a name, and no two classes share a module
    path. -/
theorem generate_of_rearranged (hpaths : (classPaths first).Nodup) {σ σ' : Type}
    (renderer : Renderer σ) (state : σ) (renderer' : Renderer σ') (state' : σ') :
    SameResult (generate config first renderer state).result
      (generate config second renderer' state').result := by
  have hresolve := resolve_of_rearranged config h hambient hclasses
  have hcycle := Hierarchy.isSome_cycle?_of_rearranged hresolve h hpaths
  rcases hfirst : (synthesize config first).classes.cycle? with _ | cycle
  · have hsecond : (synthesize config second).classes.cycle? = none := hcycle.mp hfirst
    have hfinished := Hierarchy.perm_finished_of_rearranged hresolve h hpaths hfirst
    have hdeclared := Hierarchy.perm_declarations_of_rearranged hresolve h hpaths hfirst
    have hnamespaces := perm_namespaces_of_rearranged config h hambient hclasses
    have hinterfaces := perm_interfaces_of_rearranged config h hambient hclasses
    have henums := perm_allEnums_of_rearranged config h
    simp only [generate, hfirst, hsecond]
    exact
      { enums := henums
        interfaces := by
          rw [interfaceDeclarations_eq, interfaceDeclarations_eq]
          exact hinterfaces.map _
        classes := hdeclared
        namespaces := hnamespaces.map _
        ambientTypes := Registry.ambientCount_of_rearranged h hambient
        enumCount := henums.length_eq
        namespaceCount := hnamespaces.length_eq
        interfaceCount := by
          rw [interfaces_size_eq, interfaces_size_eq, hinterfaces.length_eq]
        classCount := Hierarchy.size_link_of_rearranged h _ _
        skippedSymbols := by
          rw [skipped_synthesize, skipped_synthesize, (perm_symbolsOf h .other).length_eq]
        linkedBaseClasses := Hierarchy.linked_of_rearranged h _ _
        inheritedOverloads := Hierarchy.inherited_of_rearranged hresolve h hpaths hfirst
        unresolvedTypes := congrArg₂ (· + ·)
          (congrArg₂ (· + ·) (hnamespaces.flatMap_right _).length_eq
            (Hierarchy.length_unresolvedInClasses _ _ hinterfaces))
          (Hierarchy.length_unresolvedInClasses _ _ hfinished) }
  · rcases hsecond : (synthesize config second).classes.cycle? with _ | cycle'
    · have hnone : (synthesize config first).classes.cycle? = none := hcycle.mpr hsecond
      rw [hfirst] at hnone
      contradiction
    · simp only [generate, hfirst, hsecond]
      trivial

end Run

/-- Two libraries, the second of which extends a class of the first. -/
def twoLibraries : List Api.Source :=
  [{ library := "base"
     symbols :=
       [{ kind := .enum, name := "base.Color" },
        { kind := .class, name := "base.Control",
          methods := [{ name := "paint", returnValue := some { type := "base.Color" } }] }] },
   { library := "more"
     symbols :=
       [{ kind := .class, name := "more.Button", base := some "base.Control",
          methods := [{ name := "paint", returnValue := some { type := "string" } }] }] }]

/-- The same libraries, with everything in the opposite order. -/
def twoLibrariesReversed : List Api.Source :=
  twoLibraries.reverse.map fun source => { source with symbols := source.symbols.reverse }

/-- Reversing everything changes nothing but the order. -/
theorem generate_twoLibraries :
    Rearranged twoLibraries twoLibrariesReversed ∧ (ambientNames twoLibraries).Nodup ∧
      (classNames twoLibraries).Nodup ∧ (classPaths twoLibraries).Nodup ∧
      SameResult (generate {} twoLibraries (fun s _ => (s, none)) ()).result
        (generate {} twoLibrariesReversed (fun s _ => (s, none)) ()).result := by
  have hrearranged : Rearranged twoLibraries twoLibrariesReversed := by
    refine ⟨twoLibraries.reverse, (List.reverse_perm _).symm, ?_⟩
    rw [twoLibrariesReversed, List.forall₂_map_right_iff, List.forall₂_same]
    exact fun source _ => ⟨rfl, (List.reverse_perm _).symm⟩
  have hambient : (ambientNames twoLibraries).Nodup := by decide +kernel
  have hclasses : (classNames twoLibraries).Nodup := by decide +kernel
  have hpaths : (classPaths twoLibraries).Nodup := by decide +kernel
  exact ⟨hrearranged, hambient, hclasses, hpaths,
    generate_of_rearranged {} hrearranged hambient hclasses hpaths _ () _ ()⟩

end Typings
