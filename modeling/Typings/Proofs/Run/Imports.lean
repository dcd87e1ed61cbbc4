import Typings.Proofs.Emit.Exports
import Typings.Proofs.Hierarchy.Sources
import Typings.Proofs.Hierarchy.Finishing
import Typings.Proofs.Naming
import Typings.Proofs.Run.Cycles

/-!
# Imports Meet Exports

One declaration names a type of another in two words: the name that it imports, and
the module that it imports from. Both are taken from the token that stands for the
type, and from what the registry has for it. The other declaration is written from
its own model, and what its file exports was decided there.

A run renders every symbol that declares something, as one of the exports of one
item, and nothing that carrying and linking do to a class changes its names. So what
is exported can be read off the symbol. The module is the same on both sides, since
the registry and the models take it from the same path. The name is not: a symbol can
give a short name of its own, and is then exported under that, while a token is
imported under its last segment.

## Main definitions

* `Emit.Export.ofSymbol`: What is exported for a symbol.
* `Synthesis.items`: What is rendered in a run without cycles.
* `ImportsArePublished`: Every type is imported as it is exported.

## Theorems

* `state_generate_of_acyclic`: A run without cycles renders all items.
* `flatMap_exports_items`, `exists_export_iff`: What the items of a run export.
* `not_importsArePublished`: A type can be imported in vain.
* `publishes_of_resolve`: The module of an import exports the type, and whether under
  the name that is imported.
-/

namespace Typings

open Api (Source)
open Emit (Item Export Publishes)

/-- What is exported for a symbol. A namespace that is listed as an enum is exported as
    one. -/
def Emit.Export.ofSymbol (config : Config) (s : Api.Symbol) : Export where
  keyword := if isEnumSymbol config s then "enum" else s.kind.name
  name := s.shortName
  qualifiedName := s.name
  module := TypePath.moduleOf s.modulePath

/-- The short name, qualified name and module path of a class. -/
def ClassModel.names (c : ClassModel) : String × String × String :=
  (c.name, c.qualifiedName, c.fullName)

/-- The short name, qualified name and module path of a symbol. -/
def Api.Symbol.names (s : Api.Symbol) : String × String × String :=
  (s.shortName, s.name, s.modulePath)

/-- What is rendered in a run without cycles: enums and interfaces, finished classes,
    and namespaces. -/
def Synthesis.items (s : Synthesis) : List Item :=
  s.earlyItems ++ s.finished.1.declarations.map .class ++ s.namespaceDeclarations.map .namespace

section Exports

variable (config : Config) (sources : List Source)

/-- A run without cycles renders all items. -/
theorem state_generate_of_acyclic {σ : Type} (renderer : Renderer σ) (state : σ)
    (hacyclic : (synthesize config sources).classes.cycle? = none) :
    (generate config sources renderer state).state =
      (synthesize config sources).items.foldl (fun s item => (renderer s item).1) state := by
  rw [generate]
  simp only [hacyclic]
  simp only [Rendering.state_all, ← List.foldl_append]
  rfl

/-- Linking classes and carrying methods leave their names alone. -/
theorem names_finished_synthesize :
    (synthesize config sources).finished.1.classes.toList.map ClassModel.names =
      (symbolsOf .class sources).map fun p => p.2.names := by
  refine List.ext_getElem? fun i => ?_
  have hcarried := congrArg (Option.map ClassModel.names)
    (Hierarchy.sameSkeleton_propagate (synthesize config sources).resolver
      (synthesize config sources).classes i)
  have hlinked := congrArg (fun cs => (cs[i]?).map ClassModel.names)
    (Hierarchy.contents_link (Hierarchy.ofSources (synthesize config sources).resolver .class .class
      sources))
  simp only [Hierarchy.getElem?_contents, Hierarchy.get?_ofSources, Option.map_map]
    at hcarried hlinked
  rw [List.getElem?_map, List.getElem?_map, Array.getElem?_toList]
  exact hcarried.trans hlinked

theorem names_interfaces_synthesize :
    (synthesize config sources).interfaces.classes.toList.map ClassModel.names =
      (symbolsOf .interface sources).map fun p => p.2.names := by
  refine List.ext_getElem? fun i => ?_
  have hget := congrArg (Option.map ClassModel.names)
    (Hierarchy.get?_ofSources (synthesize config sources).resolver .interface .interface sources i)
  rw [Option.map_map] at hget
  rw [List.getElem?_map, List.getElem?_map, Array.getElem?_toList]
  exact hget

/-- What is exported of classes and interfaces follows from their names. -/
theorem exports_of_names (kind : ClassKind) (symbolKind : Api.SymbolKind)
    (hkind : symbolKind = .class ∧ kind = .class ∨ symbolKind = .interface ∧ kind = .interface)
    (classes : List ClassModel)
    (hnames : classes.map ClassModel.names =
      (symbolsOf symbolKind sources).map fun p => p.2.names)
    (base : ClassModel → Option ClassModel) :
    (classes.map fun c => Export.ofClass kind (c.declaration (base c))) =
      (symbolsOf symbolKind sources).map fun p => Export.ofSymbol config p.2 := by
  have hexports := congrArg (List.map fun names : String × String × String =>
    Export.mk kind.name names.1 names.2.1 (TypePath.moduleOf names.2.2)) hnames
  rw [List.map_map, List.map_map] at hexports
  refine hexports.trans (List.map_congr_left fun p hp => ?_)
  have hsymbol : p.2.kind = symbolKind := of_decide_eq_true (List.mem_filter.mp hp).2
  -- Neither a class nor an interface can be listed as an enum.
  have hkeyword : (if isEnumSymbol config p.2 then "enum" else p.2.kind.name) = kind.name := by
    rw [isEnumSymbol, hsymbol]
    rcases hkind with ⟨rfl, rfl⟩ | ⟨rfl, rfl⟩ <;> rfl
  rw [Export.ofSymbol, hkeyword]
  rfl

/-- Items of one declaration each have one export each, and one of whatever else an item
    has for every declaration. -/
theorem flatMap_map_singleton {α β : Type} (declarations : List α) (item : α → Item)
    (parts : Item → List β) (part : α → β) (hitem : ∀ d, parts (item d) = [part d]) :
    (declarations.map item).flatMap parts = declarations.map part := by
  rw [List.flatMap_map, List.map_eq_flatMap]
  exact congrArg (declarations.flatMap ·) (funext hitem)

/-- The enums of all libraries, and the namespaces that are listed as enums. -/
theorem flatMap_exports_enums :
    ((synthesize config sources).enums.map
        fun (library, ds) => Item.enums library ds).flatMap Item.exports =
      ((declaredSymbols sources).filter (isEnumSymbol config ·.2)).map
        fun p => Export.ofSymbol config p.2 := by
  have hall := congrArg (List.map Export.ofEnum) (allEnums_synthesize config sources)
  rw [Synthesis.allEnums, List.map_flatMap, List.map_map] at hall
  rw [List.flatMap_map]
  refine hall.trans (List.map_congr_left fun p hp => ?_)
  rw [Export.ofSymbol, if_pos (List.mem_filter.mp hp).2]
  rfl

theorem flatMap_exports_interfaces :
    ((synthesize config sources).interfaceDeclarations.map Item.interface).flatMap Item.exports =
      (symbolsOf .interface sources).map fun p => Export.ofSymbol config p.2 := by
  rw [flatMap_map_singleton _ Item.interface Item.exports (Export.ofClass .interface) fun _ => rfl,
    Synthesis.interfaceDeclarations, List.map_map]
  exact exports_of_names config sources .interface .interface (Or.inr ⟨rfl, rfl⟩) _
    (names_interfaces_synthesize config sources) fun _ => none

theorem flatMap_exports_classes :
    ((synthesize config sources).finished.1.declarations.map Item.class).flatMap Item.exports =
      (symbolsOf .class sources).map fun p => Export.ofSymbol config p.2 := by
  rw [flatMap_map_singleton _ Item.class Item.exports (Export.ofClass .class) fun _ => rfl,
    Hierarchy.declarations, List.map_map]
  exact exports_of_names config sources .class .class (Or.inl ⟨rfl, rfl⟩) _
    (names_finished_synthesize config sources)
    fun c => (synthesize config sources).finished.1.baseOf c.id

theorem flatMap_exports_namespaces :
    ((synthesize config sources).namespaceDeclarations.map Item.namespace).flatMap Item.exports =
      ((declaredSymbols sources).filter (isNamespaceSymbol config ·.2)).map
        fun p => Export.ofSymbol config p.2 := by
  rw [flatMap_map_singleton _ Item.namespace Item.exports Export.ofNamespace fun _ => rfl,
    Synthesis.namespaceDeclarations, namespaces_synthesize, List.map_map, List.map_map]
  refine List.map_congr_left fun p hp => ?_
  -- What is listed as an enum is no namespace.
  have hkind := (List.mem_filter.mp hp).2
  rw [isNamespaceSymbol, Bool.and_eq_true, decide_eq_true_eq, Bool.not_eq_true'] at hkind
  have hkeyword : (if isEnumSymbol config p.2 then "enum" else p.2.kind.name) = "namespace" := by
    rw [isEnumSymbol, hkind.1, hkind.2]
    rfl
  rw [Export.ofSymbol, hkeyword]
  rfl

/-- What the items of a run export is what its symbols say. -/
theorem flatMap_exports_items :
    (synthesize config sources).items.flatMap Item.exports =
      ((declaredSymbols sources).filter (isEnumSymbol config ·.2) ++
        symbolsOf .interface sources ++ symbolsOf .class sources ++
        (declaredSymbols sources).filter (isNamespaceSymbol config ·.2)).map
          fun p => Export.ofSymbol config p.2 := by
  rw [Synthesis.items, Synthesis.earlyItems]
  simp only [List.flatMap_append, List.map_append, flatMap_exports_enums,
    flatMap_exports_interfaces, flatMap_exports_classes, flatMap_exports_namespaces]

/-- Every symbol that declares something is exported, and nothing else is. -/
theorem exists_export_iff (e : Export) :
    (∃ item ∈ (synthesize config sources).items, e ∈ item.exports) ↔
      ∃ p ∈ declaredSymbols sources, p.2.kind ≠ .other ∧ e = Export.ofSymbol config p.2 := by
  rw [← List.mem_flatMap, flatMap_exports_items, List.mem_map]
  refine exists_congr fun p => ?_
  rw [eq_comm (a := e), ← and_assoc]
  refine and_congr_left fun _ => ?_
  simp only [List.mem_append, symbolsOf, List.mem_filter, ← and_or_left]
  refine and_congr_right fun _ => ?_
  -- Each kind but the last is picked up by one of the passes, namespaces by two.
  rw [isNamespaceSymbol, isEnumSymbol]
  cases p.2.kind <;> cases config.isEnumNamespace p.2.name <;> decide

end Exports

/-- The name of every declared type resolves to one import, and that names what is
    exported for the type, in the module that exports it. -/
def ImportsArePublished (config : Config) (sources : List Source) : Prop :=
  ∀ p ∈ declaredSymbols sources, p.2.kind ≠ .other → TypePath.isQualified p.2.name = true →
    '/' ∉ p.2.name.toList → config.substitutions.get? p.2.name = none →
    ∃ i, ((synthesize config sources).resolver.resolve p.2.name).requirements.imports = [i] ∧
      ∃ item ∈ (synthesize config sources).items, ∃ e ∈ item.exports,
        e.qualifiedName = p.2.name ∧ Publishes item.text e.keyword i.name i.module

section Agreement

variable (config : Config) (sources : List Source)

/-- What is published can be found in a text. -/
theorem ImportsArePublished.exists_infix (h : ImportsArePublished config sources)
    (p : String × Api.Symbol) (hp : p ∈ declaredSymbols sources) (hkind : p.2.kind ≠ .other)
    (hqualified : TypePath.isQualified p.2.name = true) (hslash : '/' ∉ p.2.name.toList)
    (hsubstitutions : config.substitutions.get? p.2.name = none) :
    ∃ i ∈ ((synthesize config sources).resolver.resolve p.2.name).requirements.imports,
      ∃ item ∈ (synthesize config sources).items, ∃ e ∈ item.exports,
        ("export " ++ e.keyword ++ " " ++ i.name).toList <:+: item.text.toList ∧
          ("declare module \"" ++ i.module ++ "\"").toList <:+: item.text.toList := by
  rcases h p hp hkind hqualified hslash hsubstitutions with
    ⟨i, himports, item, hitem, e, he, _, hpublishes⟩
  rw [himports]
  exact ⟨i, List.mem_singleton_self i, item, hitem, e, he, hpublishes.infix_export,
    hpublishes.infix_module⟩

/-- The sources of one library with one class. -/
def loneClass (name basename module : String) : List Source :=
  [{ library := "lib"
     symbols := [{ kind := .class, name := name, basename := basename, module := module }] }]

/-- The import of a type can miss its export: if that has another name than the last
    segment of the type's, if it has no module, and if the name of the type is that of
    an array or a union, or has blanks around it. -/
theorem not_importsArePublished :
    ¬ ImportsArePublished {} (loneClass "lib.Foo" "Bar" "") ∧
      ¬ ImportsArePublished {} (loneClass "lib.Foo" "" "Foo") ∧
      ¬ ImportsArePublished {} (loneClass "lib.Foo[]" "" "") ∧
      ¬ ImportsArePublished {} (loneClass "lib.Foo|lib.Bar" "" "") ∧
      ¬ ImportsArePublished {} (loneClass " lib.Foo" "" "") := by
  -- What would have to be found in the text of the class is not there.
  refine ⟨?_, ?_, ?_, ?_, ?_⟩ <;> intro hpublished <;>
    exact absurd (hpublished.exists_infix {} _ ("lib", _) (List.mem_singleton_self _) nofun
      (by decide +kernel) (by decide +kernel) rfl) (by decide +kernel)

/-- Where no name occurs twice, the name of a declared type resolves to one import,
    and if the type has a module, that is the one the import is from. The type is
    exported under its short name, so the import has the name of the export exactly if
    the short name is the last segment of the name of the type. Import lists that do
    not suppress the name, and have no other import for it, take an import from a
    module. -/
theorem publishes_of_resolve (hnames : ((declaredSymbols sources).map (·.2.name)).Nodup)
    (p : String × Api.Symbol) (hp : p ∈ declaredSymbols sources) (hkind : p.2.kind ≠ .other)
    (hslash : '/' ∉ p.2.name.toList) (hplain : IsPlainName p.2.name)
    (hsubstitutions : config.substitutions.get? p.2.name = none) :
    ∃ i, ((synthesize config sources).resolver.resolve p.2.name).requirements.imports = [i] ∧
      i.name = TypePath.lastSegment p.2.name ∧
      (∃ item ∈ (synthesize config sources).items, ∃ e ∈ item.exports,
        e.qualifiedName = p.2.name) ∧
      (∀ item ∈ (synthesize config sources).items, ∀ e ∈ item.exports,
        e.qualifiedName = p.2.name → e = Export.ofSymbol config p.2 ∧
          (TypePath.moduleOf p.2.modulePath ≠ "" →
            Publishes item.text e.keyword e.name i.module)) ∧
      (i.name = p.2.shortName ↔
        p.2.basename = "" ∨ p.2.basename = TypePath.lastSegment p.2.name) ∧
      (TypePath.moduleOf p.2.modulePath ≠ "" →
        ∀ set : ImportSet, i.name ∉ set.suppressed → set.contains i.name = false →
          (set.add i).toList = set.toList ++ [i]) := by
  have hentry := Registry.lookup_of_mem sources hnames p hp hkind p.2.name
    (TypePath.toDotted_of_not_mem p.2.name hslash)
  have hresolve := (synthesize config sources).resolver.resolve_of_isPlainName p.2.name hplain
    hsubstitutions _ hentry
  refine ⟨_, congrArg Requirements.imports hresolve.2, rfl, ?_, ?_,
    p.2.lastSegment_eq_shortName_iff, ?_⟩
  · rcases (exists_export_iff config sources _).mpr ⟨p, hp, hkind, rfl⟩ with ⟨item, hitem, he⟩
    exact ⟨item, hitem, _, he, rfl⟩
  · intro item hitem e he hname
    rcases (exists_export_iff config sources e).mp ⟨item, hitem, he⟩ with ⟨q, hq, _, rfl⟩
    -- What is exported under the qualified name is exported for this symbol.
    have hpq : q = p := List.inj_on_of_nodup_map hnames hq hp hname
    subst hpq
    refine ⟨rfl, fun hmodule => ?_⟩
    have hpublishes := Emit.publishes_of_mem_exports item _ he
    have hinside : Emit.moduleOrName (TypePath.moduleOf q.2.modulePath) q.2.name =
        TypePath.moduleOf q.2.modulePath := by
      rw [Emit.moduleOrName, if_neg]
      rwa [String.isEmpty_iff]
    rwa [Export.ofSymbol, hinside] at hpublishes
  · exact fun hmodule set hsuppressed hnew => set.toList_add _ hmodule hsuppressed hnew

end Agreement

section Example

/-- An enum, a namespace that is listed as an enum, and a class with another short
    name than its name says. -/
def publishedSource : Source where
  library := "lib"
  symbols :=
    [{ kind := .enum, name := "lib.Color" }, { kind := .namespace, name := "lib.core.Mode" },
     { kind := .class, name := "lib.Shape", basename := "Figure" }]

/-- A configuration that lists the namespace as an enum. -/
def publishingConfig : Config where
  enums := Table.ofList [("lib.core.Mode", .null)]

/-- The namespace is imported as it is exported, as an enum and in a file with the
    other one. -/
theorem publishes_publishedSource :
    ((synthesize publishingConfig [publishedSource]).resolver.resolve
      "lib.core.Mode").requirements.imports = [⟨"Mode", "lib/core"⟩] ∧
      ∃ item ∈ (synthesize publishingConfig [publishedSource]).items,
        ⟨"enum", "Mode", "lib.core.Mode", "lib/core"⟩ ∈ item.exports ∧
          Publishes item.text "enum" "Mode" "lib/core" := by
  have hplain : IsPlainName "lib.core.Mode" := by decide +kernel
  have himports : ((synthesize publishingConfig [publishedSource]).resolver.resolve
      "lib.core.Mode").requirements.imports = [⟨"Mode", "lib/core"⟩] := by
    decide +kernel
  rcases publishes_of_resolve publishingConfig [publishedSource] (by decide +kernel)
    ("lib", { kind := .namespace, name := "lib.core.Mode" })
    (List.mem_cons_of_mem _ List.mem_cons_self) nofun (by decide +kernel) hplain rfl with
    ⟨i, hi, _, ⟨item, hitem, e, he, hname⟩, hexports, _, _⟩
  rcases hexports item hitem e he hname with ⟨hsymbol, hpublished⟩
  have hpublishes := hpublished (by decide +kernel)
  have himport : i = ⟨"Mode", "lib/core"⟩ := (List.cons.inj (hi.symm.trans himports)).1
  have hexport : e = ⟨"enum", "Mode", "lib.core.Mode", "lib/core"⟩ :=
    hsymbol.trans (by decide +kernel)
  subst hexport
  rw [himport] at hpublishes
  exact ⟨himports, item, hitem, he, hpublishes⟩

end Example

end Typings
