import Typings.Proofs.Naming
import Typings.Proofs.Run.Cycles

/-!
# Declared Bases and Their Two Meanings

A declared base is looked up twice. The declaration extends and imports what the
registry has for it, and the registry goes by names. The class whose methods it
has to take over is the one that it is linked to, and links go by module paths,
of which the last class with one counts.

A class that leaves out its module path has the one that is its name spelled with
slashes. So both lookups lead to one class as long as it leaves its path out, and
no other class has the same. A class that gives a path of its own is found by its
name and not by its path, and one behind it can take the path away.

## Main definitions

* `LinksFollowRegistry`: Every class is linked to what its declared base is in the
  registry.
* `Hierarchy.missingBase?`: What is reported of a class whose base no class
  provides.

## Theorems

* `Hierarchy.unresolved_link`, `Hierarchy.mem_unresolved_link_ofSources`: What is
  reported when classes are linked.
* `not_forall_linksFollowRegistry`: A class can extend and import one that it is not
  linked to.
* `baseOf_synthesize_iff`: When the registry and the links agree.
-/

namespace Typings

open Api (Source)

namespace Hierarchy

/-- What is reported of a class whose declared base no class provides. -/
def missingBase? (h : Hierarchy) (c : ClassModel) : Option UnresolvedBase :=
  c.base.bind fun base =>
    if h.provider? (TypePath.toModulePath base) = none then some ⟨c.qualifiedName, base⟩ else none

section Reports

variable (h : Hierarchy)

theorem unresolved_linkOne (g : Hierarchy) (hcontents : g.contents = h.contents) (s : LinkSummary)
    (c : ClassModel) :
    (linkOne (g, s) c).2.unresolved = s.unresolved ++ (h.missingBase? c).toList := by
  rw [linkOne, missingBase?]
  rcases c.base with _ | base
  · exact (List.append_nil _).symm
  · rw [Option.bind_some, ← provider?_congr h g hcontents]
    rcases hprovider : g.provider? (TypePath.toModulePath base) with _ | b
    · simp only [hprovider, if_true, Option.toList_some]
    · simp only [hprovider, reduceCtorEq, if_false, Option.toList_none, List.append_nil]

theorem unresolved_foldl_linkOne (cs : List ClassModel) (g : Hierarchy)
    (hcontents : g.contents = h.contents) (s : LinkSummary) :
    (cs.foldl linkOne (g, s)).2.unresolved = s.unresolved ++ cs.filterMap h.missingBase? := by
  induction cs generalizing g s with
  | nil => exact (List.append_nil _).symm
  | cons c rest ih =>
      have hnext := contents_linkOne h g hcontents s c
      have hrest := ih (linkOne (g, s) c).1 hnext (linkOne (g, s) c).2
      rw [List.foldl_cons, hrest, unresolved_linkOne h g hcontents, List.append_assoc]
      congr 1
      rw [List.filterMap_cons]
      cases h.missingBase? c <;> rfl

/-- The reports are those of the classes whose declared base is not provided. -/
theorem unresolved_link : h.link.2.unresolved = h.classes.toList.filterMap h.missingBase? := by
  have hreports := unresolved_foldl_linkOne h h.classes.toList h rfl {}
  rwa [List.nil_append] at hreports

end Reports

section Links

variable (r : Resolver) (sources : List Source)

/-- A class is reported if no class has the path that is its declared base. -/
theorem mem_unresolved_link_ofSources (i : Nat) (p : String × Api.Symbol) (base : String)
    (hp : (symbolsOf .class sources)[i]? = some p)
    (hbase : ClassModel.declaredBase p.2 = some base) :
    ⟨p.2.name, base⟩ ∈ (ofSources r .class .class sources).link.2.unresolved ↔
      TypePath.toModulePath base ∉ classPaths sources := by
  have hmissing : (ofSources r .class .class sources).provider? (TypePath.toModulePath base) = none
      ↔ TypePath.toModulePath base ∉ classPaths sources := by
    rw [← isSome_provider?_iff r .class, Bool.not_eq_true, Option.isSome_eq_false_iff,
      Option.isNone_iff_eq_none]
  rw [unresolved_link, List.mem_filterMap, ← hmissing]
  constructor
  · -- Whichever class the report is about, it has the same declared base.
    rintro ⟨c, _, hreport⟩
    rcases Option.bind_eq_some_iff.mp hreport with ⟨base', _, hreport⟩
    rw [Option.ite_none_right_eq_some, Option.some_inj, UnresolvedBase.mk.injEq] at hreport
    rcases hreport with ⟨hnone, _, rfl⟩
    exact hnone
  · intro hnone
    refine ⟨ClassModel.build r i .class p.1 p.2,
      (mem_classes_ofSources r .class .class sources _).mpr ⟨i, p, hp, rfl⟩, ?_⟩
    have hdeclared : (ClassModel.build r i .class p.1 p.2).base = some base := hbase
    rw [missingBase?, hdeclared, Option.bind_some, if_pos hnone]
    rfl

/-- Where no name occurs twice, a class is linked to the one with a name exactly if
    that one is the last with the path that is the declared base. -/
theorem qualifiedName_baseOf_iff (hnames : (classNames sources).Nodup) (i j : Nat)
    (p : String × Api.Symbol) (base name : String) (hp : (symbolsOf .class sources)[i]? = some p)
    (hbase : ClassModel.declaredBase p.2 = some base)
    (hname : (classNames sources)[j]? = some name) :
    ((ofSources r .class .class sources).link.1.baseOf i).map (·.qualifiedName) = some name ↔
      LastWithPath sources (TypePath.toModulePath base) j := by
  rw [baseOf, baseId?_link_ofSources, hp, Option.bind_some, hbase, Option.bind_some,
    Option.map_bind]
  simp only [Function.comp_def, qualifiedName_link_ofSources]
  rw [Option.bind_eq_some_iff, ← provider?_ofSources r]
  constructor
  · rintro ⟨b, hb, hname'⟩
    have hlt : b < (classNames sources).length := (List.getElem?_eq_some_iff.mp hname').1
    rwa [← (List.getElem?_inj hlt hnames).mp (hname'.trans hname.symm)]
  · exact fun hj => ⟨j, hj, hname⟩

end Links

end Hierarchy

/-- Every class is linked to what its declared base is in the registry, if that is a
    class and the base is not exchanged for another type. -/
def LinksFollowRegistry (config : Config) (sources : List Source) : Prop :=
  ∀ (i : Nat) (p : String × Api.Symbol) (base : String) (entry : RegistryEntry),
    (symbolsOf .class sources)[i]? = some p → ClassModel.declaredBase p.2 = some base →
    config.substitutions.get? base = none →
    (Registry.ofSources sources).lookup base = some entry → entry.kind = .class →
    ((synthesize config sources).classes.baseOf i).map (·.qualifiedName) = some entry.name

/-- A class whose module path is not its name, and one that extends it. Two other
    classes leave their module paths out, and the last one extends the other by its
    name with slashes. -/
def relocatedSource : Source where
  library := "lib"
  symbols :=
    [{ kind := .class, name := "lib.Base", module := "lib/base/Base" },
     { kind := .class, name := "lib.Derived", base := some "lib.Base" },
     { kind := .class, name := "lib.Shape" },
     { kind := .class, name := "lib.Circle", base := some "lib/Shape" }]

/-- A class can extend and import one that it is not linked to. -/
theorem not_forall_linksFollowRegistry :
    ¬ ∀ config sources, (classNames sources).Nodup → LinksFollowRegistry config sources := by
  intro hall
  have hlinked := hall {} [relocatedSource] (by decide +kernel) 1
    ("lib", { kind := .class, name := "lib.Derived", base := some "lib.Base" }) "lib.Base"
    ⟨.class, "lib.Base", "Base", "lib/base", "lib"⟩ rfl rfl rfl (by decide +kernel) rfl
  have hunlinked : (synthesize {} [relocatedSource]).classes.baseOf 1 = none := by decide +kernel
  rw [hunlinked] at hlinked
  contradiction

section Agreement

variable (config : Config) (sources : List Source)

/-- Where no class name occurs twice, a declared base that is a class in the registry
    is one class of the sources, and the link leads to it exactly if it is the last
    class with the path that is the declared base. For that it is enough that it
    leaves out its module path and no path occurs twice. A base is reported as
    missing exactly if no class has that path. In any case, the class that declares
    the base imports it from the module of the class in the registry. -/
theorem baseOf_synthesize_iff (hnames : (classNames sources).Nodup) (i : Nat)
    (p : String × Api.Symbol) (base : String) (entry : RegistryEntry)
    (hp : (symbolsOf .class sources)[i]? = some p)
    (hbase : ClassModel.declaredBase p.2 = some base)
    (hsubstitutions : config.substitutions.get? base = none)
    (hentry : (Registry.ofSources sources).lookup base = some entry)
    (hkind : entry.kind = .class) :
    ∃ j q, (symbolsOf .class sources)[j]? = some q ∧ q.2.name = entry.name ∧
      entry.module = TypePath.moduleOf q.2.modulePath ∧
      (((synthesize config sources).classes.baseOf i).map (·.qualifiedName) = some entry.name ↔
        LastWithPath sources (TypePath.toModulePath base) j) ∧
      (q.2.module = "" → (classPaths sources).Nodup →
        ((synthesize config sources).classes.baseOf i).map (·.qualifiedName) =
          some entry.name) ∧
      (⟨p.2.name, base⟩ ∈ (synthesize config sources).links.unresolved ↔
        TypePath.toModulePath base ∉ classPaths sources) ∧
      (IsPlainName base → ((synthesize config sources).resolver.resolve base).requirements =
        { imports := [⟨TypePath.lastSegment base, entry.module⟩] }) := by
  rcases Registry.exists_of_lookup sources base entry hentry with ⟨q, hq, hname, rfl⟩
  have hclass : q ∈ symbolsOf .class sources :=
    List.mem_filter.mpr ⟨hq, decide_eq_true hkind⟩
  rcases List.mem_iff_getElem?.mp hclass with ⟨j, hj⟩
  have hname' : (classNames sources)[j]? = some q.2.name := by
    rw [classNames, List.getElem?_map, hj, Option.map_some]
  have hiff := Hierarchy.qualifiedName_baseOf_iff (synthesize config sources).resolver sources
    hnames i j p base q.2.name hp hbase hname'
  refine ⟨j, q, hj, rfl, rfl, hiff, ?_, ?_, ?_⟩
  · intro hmodule hpaths
    -- The path that the class has by default is the declared base with slashes.
    have hpath : (classPaths sources)[j]? = some (TypePath.toModulePath base) := by
      rw [classPaths, List.getElem?_map, hj, Option.map_some,
        q.2.modulePath_of_module_empty hmodule, hname, TypePath.toModulePath_toDotted]
    have hlt : j < (classPaths sources).length := (List.getElem?_eq_some_iff.mp hpath).1
    refine hiff.mpr ⟨hpath, fun k hjk hk => ?_⟩
    exact absurd ((List.getElem?_inj hlt hpaths).mp (hpath.trans hk.symm)) (Nat.ne_of_lt hjk)
  · exact Hierarchy.mem_unresolved_link_ofSources _ sources i p base hp hbase
  · intro hplain
    exact ((synthesize config sources).resolver.resolve_of_isPlainName base hplain hsubstitutions
      _ hentry).2

end Agreement

/-- The class that is extended by its name with slashes is linked, and not reported.
    The one that has moved is not linked, although its registered module is the one
    it moved to. -/
theorem baseOf_relocatedSource :
    (classNames [relocatedSource]).Nodup ∧
      (Registry.ofSources [relocatedSource]).lookup "lib/Shape" =
        some ⟨.class, "lib.Shape", "Shape", "lib", "lib"⟩ ∧
      ((synthesize {} [relocatedSource]).classes.baseOf 3).map (·.qualifiedName) =
        some "lib.Shape" ∧
      ⟨"lib.Circle", "lib/Shape"⟩ ∉ (synthesize {} [relocatedSource]).links.unresolved ∧
      ((synthesize {} [relocatedSource]).resolver.resolve "lib/Shape").requirements =
        { imports := [⟨"Shape", "lib"⟩] } := by
  have hnames : (classNames [relocatedSource]).Nodup := by decide +kernel
  have hentry : (Registry.ofSources [relocatedSource]).lookup "lib/Shape" =
      some ⟨.class, "lib.Shape", "Shape", "lib", "lib"⟩ := by
    decide +kernel
  have hplain : IsPlainName "lib/Shape" := by decide +kernel
  rcases baseOf_synthesize_iff {} [relocatedSource] hnames 3
    ("lib", { kind := .class, name := "lib.Circle", base := some "lib/Shape" }) "lib/Shape" _ rfl rfl
    rfl hentry rfl with ⟨j, q, hj, hname, _, _, hlinked, hmissing, hresolve⟩
  -- No other class is called so, and this one has no module path of its own.
  have hplace : j = 2 := by
    have hshape : (classNames [relocatedSource])[2]? = some "lib.Shape" := by decide +kernel
    refine ((List.getElem?_inj (by decide +kernel) hnames).mp (hshape.trans ?_)).symm
    rw [classNames, List.getElem?_map, hj, Option.map_some, hname]
  have hmodule : q.2.module = "" := by
    subst hplace
    rw [← Option.some.inj hj]
  refine ⟨hnames, hentry, hlinked hmodule (by decide +kernel), ?_, hresolve hplain⟩
  rw [hmissing]
  decide +kernel

end Typings
