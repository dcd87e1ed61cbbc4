import Typings.Proofs.Hierarchy.ClosedChains
import Typings.Proofs.Hierarchy.Sources
import Typings.Run.Generate

/-!
# Cycles End a Run

A class is followed by the class that provides its declared base. This can be
read off the sources, without building or linking anything: the declared base
spelled as a module path, and the last class with that path. A run fails exactly
if some class comes after itself this way, and what it fails with are the names
of such classes, once round.

By then nothing but enums and interfaces has been rendered. What a renderer did
is seen in its state, and a failed run leaves the state that these items lead to,
whatever the renderer makes of them.

## Main definitions

* `LastWithPath`: The last class with a module path.
* `NextClass`: The class that provides the declared base of a class.
* `InheritanceCycle.NamesCycle`: The names are those of classes that come after
  one another and after themselves.
* `Synthesis.earlyItems`: What is rendered before the search for cycles.

## Theorems

* `Hierarchy.extends_link_ofSources`: Links lead to the next class.
* `NextClass.unique`: There is at most one next class.
* `namesCycle_of_cycle?`: What the search reports about sources.
* `Rendering.state_all`: The state after rendering items.
* `output_of_generate`: What a run that succeeds declares.
* `generate_error_iff`: When a run fails, with what, and what was rendered.
-/

namespace Typings

open Api (Source)
open Emit (Item)

/-- The place of the last class with a module path. -/
def LastWithPath (sources : List Source) (path : String) (j : Nat) : Prop :=
  (classPaths sources)[j]? = some path ∧ ∀ k, j < k → (classPaths sources)[k]? ≠ some path

/-- The class that provides the declared base of a class, which is not empty and
    is spelled with slashes to be a module path. -/
def NextClass (sources : List Source) (i j : Nat) : Prop :=
  ∃ p base, (symbolsOf .class sources)[i]? = some p ∧ p.2.base = some base ∧ base ≠ "" ∧
    LastWithPath sources (TypePath.toModulePath base) j

/-- The names are those of different classes, each of which is followed by the
    next, and of the first of them once more. -/
def InheritanceCycle.NamesCycle (sources : List Source) (cycle : InheritanceCycle) : Prop :=
  ∃ ids, ClosedChain (NextClass sources) ids ∧
    cycle.classes.map some = ids.map fun i => (classNames sources)[i]?

/-- What is rendered before the search for cycles: enums, library by library, and
    interfaces. -/
def Synthesis.earlyItems (s : Synthesis) : List Item :=
  s.enums.map (fun (library, ds) => .enums library ds) ++ s.interfaceDeclarations.map .interface

theorem ClassModel.declaredBase_eq_some_iff (s : Api.Symbol) (base : String) :
    declaredBase s = some base ↔ s.base = some base ∧ base ≠ "" := by
  rw [declaredBase, Option.filter_eq_some_iff, Bool.not_eq_true', Bool.eq_false_iff, ne_eq,
    String.isEmpty_iff]

section Links

variable (r : Resolver) (sources : List Source)

namespace Hierarchy

theorem get?_ofSources_path (kind : ClassKind) (i : Nat) :
    ((ofSources r .class kind sources).get? i).map (·.fullName) = (classPaths sources)[i]? := by
  rw [get?_ofSources, classPaths, List.getElem?_map, Option.map_map]
  rfl

/-- A path is provided by the last class with it. -/
theorem provider?_ofSources (path : String) (j : Nat) :
    (ofSources r .class .class sources).provider? path = some j ↔ LastWithPath sources path j := by
  have hc := (isBuilt_ofSources r .class .class sources).consistent
  -- Both sides speak of paths, the one by classes and the other by symbols.
  rw [hc.provider?_eq_some_iff, LastWithPath, ← Option.map_eq_some_iff, get?_ofSources_path]
  refine and_congr_right fun _ => forall_congr' fun k => ?_
  rw [← get?_ofSources_path r sources .class k, Ne, Option.map_eq_some_iff]
  constructor
  · rintro hlast hk ⟨d, hd, hpath⟩
    exact hlast d hk hd hpath
  · intro hlast d hk hd hpath
    exact hlast hk ⟨d, hd, hpath⟩

/-- Links lead to the next class. -/
theorem extends_link_ofSources :
    (ofSources r .class .class sources).link.1.Extends = NextClass sources := by
  funext i j
  rw [Extends, baseId?_link_ofSources, Option.bind_eq_some_iff, eq_iff_iff]
  constructor
  · rintro ⟨p, hp, hbase⟩
    rcases Option.bind_eq_some_iff.mp hbase with ⟨base, hdeclared, hprovider⟩
    rcases (ClassModel.declaredBase_eq_some_iff p.2 base).mp hdeclared with ⟨hsome, hne⟩
    exact ⟨p, base, hp, hsome, hne, (provider?_ofSources r sources _ j).mp hprovider⟩
  · rintro ⟨p, base, hp, hsome, hne, hlast⟩
    refine ⟨p, hp, Option.bind_eq_some_iff.mpr ⟨base, ?_, ?_⟩⟩
    · exact (ClassModel.declaredBase_eq_some_iff p.2 base).mpr ⟨hsome, hne⟩
    · exact (provider?_ofSources r sources _ j).mpr hlast

/-- Linking leaves names as the symbols have them. -/
theorem qualifiedName_link_ofSources (i : Nat) :
    ((ofSources r .class .class sources).link.1.get? i).map (·.qualifiedName) =
      (classNames sources)[i]? := by
  -- Linking changes links, and leaves the contents of all classes.
  have hcontents := congrArg (fun cs => (cs[i]?).map (·.qualifiedName))
    (contents_link (ofSources r .class .class sources))
  simp only [getElem?_contents, get?_ofSources, Option.map_map] at hcontents
  rw [classNames, List.getElem?_map]
  exact hcontents

theorem nameAt_link_ofSources (i : Nat) (hi : i < (symbolsOf .class sources).length) :
    some ((ofSources r .class .class sources).link.1.nameAt i) = (classNames sources)[i]? := by
  have hname := qualifiedName_link_ofSources r sources i
  rw [classNames, List.getElem?_map, List.getElem?_eq_getElem hi, Option.map_some] at hname ⊢
  rcases Option.map_eq_some_iff.mp hname with ⟨c, hget, hc⟩
  rw [nameAt, hget]
  exact congrArg some hc

end Hierarchy

/-- There is at most one next class. -/
theorem NextClass.unique {i j k : Nat} (hj : NextClass sources i j) (hk : NextClass sources i k) :
    j = k := by
  rcases hj with ⟨p, base, hp, hbase, _, hj, hlastj⟩
  rcases hk with ⟨p', base', hp', hbase', _, hk, hlastk⟩
  rw [hp, Option.some_inj] at hp'
  subst hp'
  rw [hbase, Option.some_inj] at hbase'
  subst hbase'
  -- Both are the last class with the path, so neither comes behind the other.
  rcases Nat.lt_trichotomy j k with hlt | heq | hlt
  · exact absurd hk (hlastj k hlt)
  · exact heq
  · exact absurd hj (hlastk j hlt)

theorem NextClass.lt_length {i j : Nat} (hnext : NextClass sources i j) :
    i < (symbolsOf .class sources).length := by
  rcases hnext with ⟨p, _, hp, _⟩
  exact (List.getElem?_eq_some_iff.mp hp).1

/-- What the search reports about sources are the names of a cycle. -/
theorem namesCycle_of_cycle? (cycle : InheritanceCycle)
    (hcycle : (Hierarchy.ofSources r .class .class sources).link.1.cycle? = some cycle) :
    cycle.NamesCycle sources := by
  rcases Hierarchy.closedChain_of_cycle? _ cycle hcycle with ⟨ids, hclosed, hnames⟩
  rw [Hierarchy.extends_link_ofSources] at hclosed
  refine ⟨ids, hclosed, ?_⟩
  rw [hnames, List.map_map]
  refine List.map_congr_left fun i hi => ?_
  -- Every class of the cycle is followed by another, so there is a symbol for it.
  rcases hclosed.exists_next i hi with ⟨j, hnext⟩
  exact Hierarchy.nameAt_link_ofSources r sources i (hnext.lt_length sources)

/-- There is a report exactly if some class comes after itself. -/
theorem exists_cycle?_ofSources_iff :
    (∃ cycle, (Hierarchy.ofSources r .class .class sources).link.1.cycle? = some cycle) ↔
      ∃ i, Relation.TransGen (NextClass sources) i i := by
  have hc := (Hierarchy.isBuilt_ofSources r .class .class sources).consistent.link
  rw [Hierarchy.exists_cycle?_iff _ hc, Hierarchy.extends_link_ofSources]

end Links

section Run

variable {σ : Type} (renderer : Renderer σ)

/-- The state after rendering items, one after the other. -/
theorem Rendering.state_all (state : σ) (items : List Item) :
    (Rendering.all renderer state items).state =
      items.foldl (fun s item => (renderer s item).1) state := by
  -- What was rendered so far has to be free; the state does not depend on it.
  have hfold : ∀ (items : List Item) (rendering : Rendering σ),
      (items.foldl (render renderer) rendering).state =
        items.foldl (fun s item => (renderer s item).1) rendering.state := by
    intro items
    induction items with
    | nil => exact fun _ => rfl
    | cons item rest ih => exact fun rendering => ih _
  exact hfold items ⟨state, []⟩

variable (config : Config) (sources : List Source) (state : σ)

/-- What is rendered early are enums and interfaces. -/
theorem kind_of_mem_earlyItems (s : Synthesis) (item : Item) (hitem : item ∈ s.earlyItems) :
    item.kind = .enums ∨ item.kind = .interface := by
  rcases List.mem_append.mp hitem with hmem | hmem
  · rcases List.mem_map.mp hmem with ⟨group, _, rfl⟩
    exact Or.inl rfl
  · rcases List.mem_map.mp hmem with ⟨declaration, _, rfl⟩
    exact Or.inr rfl

/-- A run fails with what the search for cycles reports. -/
theorem result_generate_eq_error_iff (cycle : InheritanceCycle) :
    (generate config sources renderer state).result = .error cycle ↔
      (synthesize config sources).classes.cycle? = some cycle := by
  rw [generate]
  cases hcycle : (synthesize config sources).classes.cycle? with
  | none => exact ⟨nofun, nofun⟩
  | some found =>
      simp only [Except.error.injEq, Option.some_inj]

/-- The output of a run that succeeds: there is no cycle, and everything is
    declared. -/
theorem output_of_generate (output : Output)
    (hresult : (generate config sources renderer state).result = .ok output) :
    (synthesize config sources).classes.cycle? = none ∧
      output.enums = (synthesize config sources).allEnums ∧
      output.interfaces = (synthesize config sources).interfaceDeclarations ∧
      output.classes = (synthesize config sources).finished.1.declarations ∧
      output.namespaces = (synthesize config sources).namespaceDeclarations := by
  rw [generate] at hresult
  cases hcycle : (synthesize config sources).classes.cycle? with
  | some cycle =>
      simp only [hcycle] at hresult
      contradiction
  | none =>
      simp only [hcycle, Except.ok.injEq] at hresult
      rw [← hresult]
      exact ⟨rfl, rfl, rfl, rfl, rfl⟩

/-- A run that fails leaves the state that rendering enums and interfaces leads
    to. -/
theorem state_generate_of_cycle (cycle : InheritanceCycle)
    (hcycle : (synthesize config sources).classes.cycle? = some cycle) :
    (generate config sources renderer state).state =
      (synthesize config sources).earlyItems.foldl (fun s item => (renderer s item).1) state := by
  rw [generate]
  simp only [hcycle]
  rw [Rendering.state_all, Rendering.state_all, ← List.foldl_append]
  rfl

/-- A run fails exactly if some class comes after itself. It fails with the names
    of such classes, and until then it has rendered enums and interfaces and
    nothing else. -/
theorem generate_error_iff :
    ((∃ cycle, (generate config sources renderer state).result = .error cycle) ↔
        ∃ i, Relation.TransGen (NextClass sources) i i) ∧
      ∀ cycle, (generate config sources renderer state).result = .error cycle →
        cycle.NamesCycle sources ∧
          (generate config sources renderer state).state =
            (synthesize config sources).earlyItems.foldl (fun s item => (renderer s item).1) state ∧
          ∀ item ∈ (synthesize config sources).earlyItems,
            item.kind = .enums ∨ item.kind = .interface := by
  constructor
  · rw [← exists_cycle?_ofSources_iff (synthesize config sources).resolver]
    exact exists_congr fun cycle => result_generate_eq_error_iff renderer config sources state cycle
  · intro cycle hresult
    have hcycle := (result_generate_eq_error_iff renderer config sources state cycle).mp hresult
    exact ⟨namesCycle_of_cycle? (synthesize config sources).resolver sources cycle hcycle,
      state_generate_of_cycle renderer config sources state cycle hcycle,
      kind_of_mem_earlyItems _⟩

end Run

section Example

/-- Classes of which two extend each other and a third one extends one of them,
    with an enum, an interface and a namespace. -/
def entangledSources : List Source :=
  [{ library := "lib"
     symbols :=
       [{ kind := .class, name := "lib.Tail", base := some "lib.First" },
        { kind := .enum, name := "lib.Color" },
        { kind := .class, name := "lib.First", base := some "lib.Second" },
        { kind := .class, name := "lib.Second", base := some "lib.First" },
        { kind := .namespace, name := "lib.util" },
        { kind := .interface, name := "lib.Shape" }] }]

/-- A renderer that notes what it is called for. -/
def noteKind : Renderer (List Emit.RenderKind) :=
  fun calls item => (calls ++ [item.kind], none)

/-- The two classes are reported, and not the one that extends them. -/
theorem generate_entangledSources :
    (generate {} entangledSources noteKind []).result =
        .error ⟨["lib.First", "lib.Second", "lib.First"]⟩ ∧
      (generate {} entangledSources noteKind []).state = [.enums, .interface] ∧
      InheritanceCycle.NamesCycle entangledSources ⟨["lib.First", "lib.Second", "lib.First"]⟩ := by
  have hresult : (generate {} entangledSources noteKind []).result =
      .error ⟨["lib.First", "lib.Second", "lib.First"]⟩ := by
    decide +kernel
  have hstate : (generate {} entangledSources noteKind []).state = [.enums, .interface] := by
    decide +kernel
  exact ⟨hresult, hstate, ((generate_error_iff noteKind {} entangledSources []).2 _ hresult).1⟩

end Example

end Typings
