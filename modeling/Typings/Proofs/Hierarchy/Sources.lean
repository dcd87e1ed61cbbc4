import Typings.Proofs.Hierarchy.Built
import Typings.Proofs.Hierarchy.Places
import Typings.Proofs.Run.Declared

/-!
# Hierarchies of Sources

The classes of a run stand in the order of their symbols, each at the place of
its symbol. Where no module path occurs twice, the class that provides a base is
the one whose symbol has that path, and there is no question of which is the
last.

So rearranged sources lead to corresponding hierarchies: a class is the same
wherever its symbol stands, and the symbol of its base is the same.

## Main definitions

* `Hierarchy.SamePlace`: The places of one symbol in two lists of sources.
* `providesBase`: Whether some class provides the declared base of a symbol.

## Theorems

* `Hierarchy.classes_ofSources`: The classes of a list of sources.
* `Hierarchy.isBuilt_ofSources`: They are built.
* `Hierarchy.get?_link_ofSources`: And they are so when they are linked.
* `Hierarchy.provider?_ofSources_iff`: Which class provides a path.
* `Hierarchy.corresponding_link`: Rearranged sources lead to corresponding
  hierarchies.
* `Hierarchy.linked_ofSources`: How many links are made.
-/

namespace Typings

/-- Whether some class of a list of sources provides the declared base of a
    symbol. -/
def providesBase (sources : List Api.Source) (s : Api.Symbol) : Bool :=
  (ClassModel.declaredBase s).any fun base =>
    decide (TypePath.toModulePath base ∈ classPaths sources)

namespace Hierarchy

/-- The places of one symbol among those of a kind, in two lists of sources. -/
def SamePlace (kind : Api.SymbolKind) (first second : List Api.Source) (i j : Nat) : Prop :=
  ∃ p, (symbolsOf kind first)[i]? = some p ∧ (symbolsOf kind second)[j]? = some p

section Classes

variable (r : Resolver) (symbolKind : Api.SymbolKind) (kind : ClassKind)

theorem classes_foldl_pushSymbol (symbols : List (String × Api.Symbol)) (h : Hierarchy) :
    (symbols.foldl (fun h p => h.pushSymbol r kind p.1 p.2) h).classes.toList =
      h.classes.toList ++
        symbols.mapIdx fun i p => ClassModel.build r (h.size + i) kind p.1 p.2 := by
  induction symbols generalizing h with
  | nil => exact (List.append_nil _).symm
  | cons p rest ih =>
      -- Every class is built for the place behind those that are there already.
      have hclasses : (h.pushSymbol r kind p.1 p.2).classes.toList =
          h.classes.toList ++ [ClassModel.build r h.size kind p.1 p.2] := Array.toList_push
      have hsize : (h.pushSymbol r kind p.1 p.2).size = h.size + 1 := size_push h _
      have hplace : ∀ i, h.size + 1 + i = h.size + (i + 1) := by
        intro i
        omega
      rw [List.foldl_cons, ih, hclasses, hsize, List.append_assoc, List.mapIdx_cons]
      simp only [hplace]
      rfl

/-- The classes of a list of sources stand in the order of their symbols. -/
theorem classes_ofSources (sources : List Api.Source) :
    (ofSources r symbolKind kind sources).classes.toList =
      (symbolsOf symbolKind sources).mapIdx fun i p => ClassModel.build r i kind p.1 p.2 := by
  have hfold : ofSources r symbolKind kind sources =
      (symbolsOf symbolKind sources).foldl (fun h p => h.pushSymbol r kind p.1 p.2) empty := by
    rw [symbolsOf, declaredSymbols, List.filter_flatMap, List.foldl_flatMap, ofSources]
    congr 1
    funext h source
    rw [List.filter_map, List.foldl_map]
    rfl
  rw [hfold, classes_foldl_pushSymbol]
  show [] ++ _ = _
  rw [List.nil_append]
  congr 1
  funext i p
  show ClassModel.build r (0 + i) kind p.1 p.2 = _
  rw [Nat.zero_add]

theorem get?_ofSources (sources : List Api.Source) (i : Nat) :
    (ofSources r symbolKind kind sources).get? i =
      ((symbolsOf symbolKind sources)[i]?).map fun p => ClassModel.build r i kind p.1 p.2 := by
  rw [get?, ← Array.getElem?_toList, classes_ofSources, List.getElem?_mapIdx]

theorem mem_classes_ofSources (sources : List Api.Source) (c : ClassModel) :
    c ∈ (ofSources r symbolKind kind sources).classes.toList ↔
      ∃ i p, (symbolsOf symbolKind sources)[i]? = some p ∧
        c = ClassModel.build r i kind p.1 p.2 := by
  rw [List.mem_iff_getElem?]
  refine exists_congr fun i => ?_
  rw [Array.getElem?_toList]
  show (ofSources r symbolKind kind sources).get? i = some c ↔ _
  rw [get?_ofSources, Option.map_eq_some_iff]
  exact exists_congr fun p => and_congr_right fun _ => eq_comm

/-- The classes of sources are built. -/
theorem isBuilt_ofSources (sources : List Api.Source) :
    (ofSources r symbolKind kind sources).IsBuilt r := by
  intro i c hget
  rw [get?_ofSources, Option.map_eq_some_iff] at hget
  rcases hget with ⟨p, _, rfl⟩
  exact ⟨kind, p.1, p.2, rfl⟩

/-- A linked class is built from the symbol at its place, apart from its links. -/
theorem get?_link_ofSources (sources : List Api.Source) (i : Nat) (c : ClassModel)
    (hget : (ofSources r symbolKind kind sources).link.1.get? i = some c) :
    ∃ p, (symbolsOf symbolKind sources)[i]? = some p ∧
      c.unlinked = ClassModel.build r i kind p.1 p.2 := by
  have hcontents := congrArg (fun cs => cs[i]?)
    (contents_link (ofSources r symbolKind kind sources))
  simp only [getElem?_contents, get?_ofSources, hget, Option.map_some, Option.map_map] at hcontents
  rcases Option.map_eq_some_iff.mp hcontents.symm with ⟨p, hp, hbuilt⟩
  exact ⟨p, hp, hbuilt.symm⟩

/-- Without their places, the classes follow from their symbols alone. -/
theorem map_unplaced_ofSources (sources : List Api.Source) :
    (ofSources r symbolKind kind sources).classes.toList.map ClassModel.unplaced =
      (symbolsOf symbolKind sources).map fun p =>
        (ClassModel.build r 0 kind p.1 p.2).unplaced := by
  refine List.ext_getElem? fun i => ?_
  rw [classes_ofSources, List.getElem?_map, List.getElem?_mapIdx, List.getElem?_map,
    Option.map_map]
  rfl

end Classes

section Links

variable (r : Resolver) (kind : ClassKind) (sources : List Api.Source)

theorem isSome_provider?_iff (path : String) :
    ((ofSources r .class kind sources).provider? path).isSome = true ↔
      path ∈ classPaths sources := by
  rw [provider?, Option.isSome_map, List.find?_isSome, classPaths, List.mem_map]
  constructor
  · rintro ⟨c, hc, hpath⟩
    rw [List.mem_reverse, mem_classes_ofSources] at hc
    rcases hc with ⟨i, p, hp, rfl⟩
    exact ⟨p, List.mem_of_getElem? hp, of_decide_eq_true hpath⟩
  · rintro ⟨p, hmem, hpath⟩
    rcases List.mem_iff_getElem?.mp hmem with ⟨i, hp⟩
    refine ⟨ClassModel.build r i kind p.1 p.2, ?_, decide_eq_true hpath⟩
    rw [List.mem_reverse, mem_classes_ofSources]
    exact ⟨i, p, hp, rfl⟩

/-- Where no module path occurs twice, a path is provided by the class whose
    symbol has it. -/
theorem provider?_ofSources_iff (hpaths : (classPaths sources).Nodup) (path : String) (i : Nat) :
    (ofSources r .class kind sources).provider? path = some i ↔
      ∃ p, (symbolsOf .class sources)[i]? = some p ∧ p.2.modulePath = path := by
  -- The search finds a class of that path, and no second class has it.
  have hsound : ∀ j, (ofSources r .class kind sources).provider? path = some j →
      ∃ p, (symbolsOf .class sources)[j]? = some p ∧ p.2.modulePath = path := by
    intro j hj
    have hc := (isBuilt_ofSources r .class kind sources).consistent
    rcases (hc.path_of_provider? path j hj).1 with ⟨c, hget, hpath⟩
    rw [get?_ofSources, Option.map_eq_some_iff] at hget
    rcases hget with ⟨p, hp, rfl⟩
    exact ⟨p, hp, hpath⟩
  refine ⟨hsound i, ?_⟩
  rintro ⟨p, hp, hpath⟩
  have hsome : ((ofSources r .class kind sources).provider? path).isSome = true := by
    rw [isSome_provider?_iff, classPaths, List.mem_map]
    exact ⟨p, List.mem_of_getElem? hp, hpath⟩
  rcases Option.isSome_iff_exists.mp hsome with ⟨j, hj⟩
  rcases hsound j hj with ⟨q, hq, hqpath⟩
  have hi : (classPaths sources)[i]? = some path := by
    rw [classPaths, List.getElem?_map, hp, Option.map_some, hpath]
  have hj' : (classPaths sources)[j]? = some path := by
    rw [classPaths, List.getElem?_map, hq, Option.map_some, hqpath]
  have hlt : i < (classPaths sources).length := (List.getElem?_eq_some_iff.mp hi).1
  rw [hj, (List.getElem?_inj hlt hpaths).mp (hi.trans hj'.symm)]

/-- The base that a linked class has is the class whose symbol has the path that
    its own symbol declares. -/
theorem baseId?_link_ofSources (i : Nat) :
    (ofSources r .class kind sources).link.1.baseId? i =
      ((symbolsOf .class sources)[i]?).bind fun p =>
        (ClassModel.declaredBase p.2).bind fun base =>
          (ofSources r .class kind sources).provider? (TypePath.toModulePath base) := by
  have hbuilt := isBuilt_ofSources r .class kind sources
  rw [hbuilt.consistent.baseId?_link, hbuilt.baseId?, Option.or_none, get?_ofSources,
    Option.bind_map]
  rfl

theorem linked_ofSources :
    (ofSources r .class kind sources).link.2.linked =
      (symbolsOf .class sources).countP fun p => providesBase sources p.2 := by
  have hunplaced : ∀ c : ClassModel,
      (declaredBaseId? (ofSources r .class kind sources) c.unplaced).isSome =
        (declaredBaseId? (ofSources r .class kind sources) c).isSome := fun _ => rfl
  have hprovides : ∀ p : String × Api.Symbol,
      (declaredBaseId? (ofSources r .class kind sources)
        (ClassModel.build r 0 kind p.1 p.2).unplaced).isSome = providesBase sources p.2 := by
    intro p
    rw [providesBase, declaredBaseId?]
    show ((ClassModel.declaredBase p.2).bind _).isSome = _
    rcases ClassModel.declaredBase p.2 with _ | base
    · rfl
    · rw [Option.bind_some, Option.any_some, Bool.eq_iff_iff, isSome_provider?_iff,
        decide_eq_true_eq]
  -- Whether a base is provided does not depend on the place of the class, so the
  -- classes can be counted without their places.
  have hcount := List.countP_map
    (p := fun c => (declaredBaseId? (ofSources r .class kind sources) c).isSome)
    (f := ClassModel.unplaced) (l := (ofSources r .class kind sources).classes.toList)
  rw [map_unplaced_ofSources, List.countP_map] at hcount
  rw [linked_link]
  refine (hcount.symm.trans ?_)
  exact List.countP_congr fun p _ => by rw [Function.comp_apply, hprovides]

end Links

section Order

variable {first second : List Api.Source}

theorem exists_samePlace (h : Rearranged first second) (kind : Api.SymbolKind)
    (p : String × Api.Symbol) (hp : p ∈ symbolsOf kind first) :
    ∃ j : Nat, (symbolsOf kind second)[j]? = some p :=
  List.mem_iff_getElem?.mp ((perm_symbolsOf h kind).mem_iff.mp hp)

/-- Rearranged sources provide the same bases. -/
theorem providesBase_of_rearranged (h : Rearranged first second) :
    providesBase first = providesBase second := by
  have hperm : (classPaths first).Perm (classPaths second) := (perm_symbolsOf h .class).map _
  funext s
  rw [providesBase, providesBase]
  congr 1
  funext base
  rw [decide_eq_decide]
  exact hperm.mem_iff

theorem samePlace_provider? (r r' : Resolver) (kind : ClassKind) (h : Rearranged first second)
    (hpaths : (classPaths first).Nodup) (path : String) :
    ((ofSources r .class kind first).provider? path = none ∧
        (ofSources r' .class kind second).provider? path = none) ∨
      ∃ b b', (ofSources r .class kind first).provider? path = some b ∧
        (ofSources r' .class kind second).provider? path = some b' ∧
        SamePlace .class first second b b' := by
  have hperm : (classPaths first).Perm (classPaths second) := (perm_symbolsOf h .class).map _
  rcases hprovider : (ofSources r .class kind first).provider? path with _ | b
  · refine Or.inl ⟨rfl, ?_⟩
    rw [← Option.isNone_iff_eq_none, ← Option.not_isSome, Bool.not_eq_true', Bool.eq_false_iff,
      Ne, isSome_provider?_iff, ← hperm.mem_iff, ← isSome_provider?_iff r kind, hprovider]
    exact Bool.false_ne_true
  · rcases (provider?_ofSources_iff r kind first hpaths path b).mp hprovider with ⟨p, hp, hpath⟩
    rcases exists_samePlace h .class p (List.mem_of_getElem? hp) with ⟨b', hp'⟩
    refine Or.inr ⟨b, b', rfl, ?_, p, hp, hp'⟩
    exact (provider?_ofSources_iff r' kind second (hperm.nodup_iff.mp hpaths) path b').mpr
      ⟨p, hp', hpath⟩

/-- Rearranged sources lead to corresponding hierarchies. -/
theorem corresponding_link (r r' : Resolver) (hr : r.resolve = r'.resolve) (kind : ClassKind)
    (h : Rearranged first second) (hpaths : (classPaths first).Nodup) :
    Corresponding (SamePlace .class first second) (ofSources r .class kind first).link.1
      (ofSources r' .class kind second).link.1 := by
  -- A linked class is built from its symbol, apart from its links and its place.
  have hlinked : ∀ (q : Resolver) (sources : List Api.Source) (i : Nat) (p : String × Api.Symbol),
      (symbolsOf .class sources)[i]? = some p →
      ∃ c, (ofSources q .class kind sources).link.1.get? i = some c ∧
        c.unplaced = (ClassModel.build q 0 kind p.1 p.2).unplaced := by
    intro q sources i p hp
    have hcontents := congrArg (fun cs => cs[i]?) (contents_link (ofSources q .class kind sources))
    simp only [getElem?_contents, get?_ofSources, hp, Option.map_some] at hcontents
    rcases Option.map_eq_some_iff.mp hcontents with ⟨c, hc, heq⟩
    have hunplaced : c.unlinked.unplaced = _ := congrArg ClassModel.unplaced heq
    exact ⟨c, hc, hunplaced⟩
  refine ⟨?_, ?_⟩
  · rintro i j ⟨p, hp, hp'⟩
    rcases hlinked r first i p hp with ⟨c, hc, heq⟩
    rcases hlinked r' second j p hp' with ⟨c', hc', heq'⟩
    exact ⟨c, c', hc, hc', by rw [heq, heq', ClassModel.build_of_resolve hr]⟩
  · rintro i j ⟨p, hp, hp'⟩
    rw [baseId?_link_ofSources, baseId?_link_ofSources, hp, hp', Option.bind_some,
      Option.bind_some]
    rcases ClassModel.declaredBase p.2 with _ | base
    · exact Or.inl ⟨rfl, rfl⟩
    · exact samePlace_provider? r r' kind h hpaths (TypePath.toModulePath base)

end Order

end Hierarchy

end Typings
