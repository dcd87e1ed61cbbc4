import Mathlib.Data.List.Nodup
import Mathlib.Data.List.Perm.Basic
import Typings.Proofs.Resolve
import Typings.Proofs.Table
import Typings.Run.Synthesis

/-!
# The Symbols of a Run

A run takes its sources apart in several passes, one for each kind of symbol,
and each pass goes through all sources. Since a symbol is only ever used
together with the library it comes from, every pass is one over a single list:
the symbols of all sources, each with its library.

Sources are rearranged if they come in another order, and their symbols inside
each. That list then has the same members in another order, and what a run knows
about its types is the same, as long as no two of them share a name.

## Main definitions

* `declaredSymbols`: The symbols of all sources, each with its library.
* `Rearranged`: Sources that differ in nothing but order.
* `ambientNames`, `classNames`, `classPaths`: The names that have to differ.
* `ambientEntries`, `classEntries`: What is registered for symbols.
* `declarationOf?`: The symbol that declares the type of a name.

## Theorems

* `perm_declaredSymbols`: Rearranged sources have the same symbols.
* `exists_declarationOf?`: Every declared type has a symbol that declares it.
* `Registry.ofSources_eq`: The registry in one pass.
* `Registry.lookup_ofSources`: What a token leads to.
* `Registry.exists_of_lookup`: Every entry is that of a symbol with the name looked
  up.
* `Registry.lookup_of_mem`: Without repeated names, every declared type is found
  under its name.
* `Registry.lookup_of_rearranged`: Rearranged sources declare the same types.
* `Resolver.resolve_of_lookup`: What the text of a token depends on.
* `allEnums_synthesize`, `namespaces_synthesize`, `skipped_synthesize`: The
  other passes.
-/

namespace Typings

/-- The symbols of all sources, each with its library. -/
def declaredSymbols (sources : List Api.Source) : List (String × Api.Symbol) :=
  sources.flatMap fun source => source.symbols.map fun s => (source.library, s)

/-- Sources that come in another order, with their symbols in another order
    inside each. -/
def Rearranged (first second : List Api.Source) : Prop :=
  ∃ between, first.Perm between ∧
    List.Forall₂ (fun a b => a.library = b.library ∧ a.symbols.Perm b.symbols) between second

/-- Whether a symbol declares an enum, a namespace or an interface. -/
def isAmbient (s : Api.Symbol) : Bool :=
  s.kind = .enum || s.kind = .namespace || s.kind = .interface

/-- The names of all enums, namespaces and interfaces. -/
def ambientNames (sources : List Api.Source) : List String :=
  ((declaredSymbols sources).filter (isAmbient ·.2)).map (·.2.name)

/-- The symbols of all sources that are of a kind. -/
def symbolsOf (kind : Api.SymbolKind) (sources : List Api.Source) : List (String × Api.Symbol) :=
  (declaredSymbols sources).filter fun p => p.2.kind = kind

/-- The names of all classes. -/
def classNames (sources : List Api.Source) : List String :=
  (symbolsOf .class sources).map (·.2.name)

/-- The module paths of all classes. -/
def classPaths (sources : List Api.Source) : List String :=
  (symbolsOf .class sources).map (·.2.modulePath)

/-- What is registered for a symbol. -/
def registered (p : String × Api.Symbol) : String × RegistryEntry :=
  (p.2.name, RegistryEntry.ofSymbol p.1 p.2)

/-- What is registered for enums, namespaces and interfaces. -/
def ambientEntries (sources : List Api.Source) : List (String × RegistryEntry) :=
  ((declaredSymbols sources).filter (isAmbient ·.2)).map registered

/-- What is registered for classes. -/
def classEntries (sources : List Api.Source) : List (String × RegistryEntry) :=
  (symbolsOf .class sources).map registered

/-- The last symbol of a name among the symbols of a kind. -/
def lastNamed? (q : Api.Symbol → Bool) (sources : List Api.Source) (name : String) :
    Option (String × Api.Symbol) :=
  ((declaredSymbols sources).filter fun p => decide (p.2.name = name) && q p.2).getLast?

/-- The symbol that declares the type of a name: the last enum, namespace or interface of
    that name if there is one, and else the last class. -/
def declarationOf? (sources : List Api.Source) (name : String) : Option (String × Api.Symbol) :=
  (lastNamed? isAmbient sources name).or (lastNamed? (·.kind = .class) sources name)

section Order

variable {first second : List Api.Source}

/-- Rearranged sources have the same symbols. -/
theorem perm_declaredSymbols (h : Rearranged first second) :
    (declaredSymbols first).Perm (declaredSymbols second) := by
  rcases h with ⟨between, hperm, hinside⟩
  -- First the sources are exchanged, then the symbols inside each of them.
  refine (hperm.flatMap_right _).trans ?_
  clear hperm
  induction hinside with
  | nil => exact List.Perm.refl _
  | cons hsource _ ih =>
      rw [declaredSymbols, List.flatMap_cons, List.flatMap_cons, hsource.1]
      exact (hsource.2.map _).append ih

theorem perm_symbolsOf (h : Rearranged first second) (kind : Api.SymbolKind) :
    (symbolsOf kind first).Perm (symbolsOf kind second) :=
  (perm_declaredSymbols h).filter _

theorem perm_ambientEntries (h : Rearranged first second) :
    (ambientEntries first).Perm (ambientEntries second) :=
  ((perm_declaredSymbols h).filter _).map _

theorem perm_classEntries (h : Rearranged first second) :
    (classEntries first).Perm (classEntries second) :=
  (perm_symbolsOf h .class).map _

theorem map_fst_ambientEntries (sources : List Api.Source) :
    (ambientEntries sources).map Prod.fst = ambientNames sources := by
  rw [ambientEntries, ambientNames, List.map_map]
  rfl

theorem map_fst_classEntries (sources : List Api.Source) :
    (classEntries sources).map Prod.fst = classNames sources := by
  rw [classEntries, classNames, List.map_map]
  rfl

end Order

section Naming

variable (sources : List Api.Source) (q : Api.Symbol → Bool)

theorem mem_of_lastNamed? (name : String) (p : String × Api.Symbol)
    (hp : lastNamed? q sources name = some p) :
    p ∈ declaredSymbols sources ∧ p.2.name = name ∧ q p.2 = true := by
  rcases List.mem_filter.mp (List.mem_of_getLast? hp) with ⟨hmem, hboth⟩
  rw [Bool.and_eq_true, decide_eq_true_eq] at hboth
  exact ⟨hmem, hboth⟩

/-- A symbol is not the last of its name and kind only if there is another. -/
theorem exists_lastNamed? (p : String × Api.Symbol) (hp : p ∈ declaredSymbols sources)
    (hq : q p.2 = true) : ∃ last, lastNamed? q sources p.2.name = some last := by
  have hmem : p ∈ (declaredSymbols sources).filter
      fun other => decide (other.2.name = p.2.name) && q other.2 :=
    List.mem_filter.mpr ⟨hp, by rw [decide_eq_true rfl, hq, Bool.and_self]⟩
  exact ⟨_, List.getLast?_eq_some_getLast (List.ne_nil_of_mem hmem)⟩

/-- What is registered last under a name is the entry of the last symbol of that name. -/
theorem lastOf?_map_registered (symbols : List (String × Api.Symbol)) (name : String) :
    lastOf? (symbols.map registered) name =
      ((symbols.filter fun p => p.2.name = name).getLast?).map fun p =>
        RegistryEntry.ofSymbol p.1 p.2 := by
  induction symbols with
  | nil => rfl
  | cons p rest ih =>
      rw [List.map_cons, lastOf?_cons, ih, List.filter_cons]
      by_cases hname : p.2.name = name
      · rw [if_pos (decide_eq_true hname), List.getLast?_cons, registered, if_pos hname.symm]
        cases (rest.filter fun p => p.2.name = name).getLast? with
        | some later => rfl
        | none => rfl
      · have hother : name ≠ (registered p).1 := Ne.symm hname
        rw [if_neg hother, if_neg (by rwa [decide_eq_true_eq]), Option.or_none]

theorem lastOf?_filter_registered (name : String) :
    lastOf? (((declaredSymbols sources).filter (q ·.2)).map registered) name =
      (lastNamed? q sources name).map fun p => RegistryEntry.ofSymbol p.1 p.2 := by
  rw [lastOf?_map_registered, List.filter_filter, lastNamed?]

/-- The symbol that declares the type of a name has the name. -/
theorem mem_of_declarationOf? (name : String) (p : String × Api.Symbol)
    (hp : declarationOf? sources name = some p) :
    p ∈ declaredSymbols sources ∧ p.2.name = name := by
  rcases Option.or_eq_some_iff.mp hp with hambient | ⟨_, hclass⟩
  · rcases mem_of_lastNamed? sources isAmbient name p hambient with ⟨hmem, hname, _⟩
    exact ⟨hmem, hname⟩
  · rcases mem_of_lastNamed? sources _ name p hclass with ⟨hmem, hname, _⟩
    exact ⟨hmem, hname⟩

/-- Only enums, namespaces, interfaces and classes declare types. -/
theorem kind_of_declarationOf? (name : String) (p : String × Api.Symbol)
    (hp : declarationOf? sources name = some p) : p.2.kind ≠ .other := by
  intro hother
  rcases Option.or_eq_some_iff.mp hp with hambient | ⟨_, hclass⟩
  · rcases mem_of_lastNamed? sources isAmbient name p hambient with ⟨_, _, hkind⟩
    rw [isAmbient, hother] at hkind
    exact absurd hkind (by decide)
  · rcases mem_of_lastNamed? sources _ name p hclass with ⟨_, _, hkind⟩
    rw [hother] at hkind
    exact absurd hkind (by decide)

/-- Every enum, namespace, interface and class has a name for which a type is declared. -/
theorem exists_declarationOf? (p : String × Api.Symbol) (hp : p ∈ declaredSymbols sources)
    (hkind : p.2.kind ≠ .other) : ∃ last, declarationOf? sources p.2.name = some last := by
  rw [declarationOf?]
  cases hambient : lastNamed? isAmbient sources p.2.name with
  | some last => exact ⟨last, rfl⟩
  | none =>
      -- Then it is no enum, namespace or interface itself.
      have hclass : p.2.kind = .class := by
        have hnot : isAmbient p.2 ≠ true := by
          intro hq
          rcases exists_lastNamed? sources isAmbient p hp hq with ⟨last, hlast⟩
          rw [hambient] at hlast
          contradiction
        revert hnot hkind
        rw [isAmbient]
        cases p.2.kind <;> decide
      exact exists_lastNamed? sources (·.kind = .class) p hp (decide_eq_true hclass)

end Naming

namespace Registry

/-- Registering symbols puts an entry into one of the two tables, or into
    none. -/
theorem foldl_register (symbols : List (String × Api.Symbol)) (r : Registry) :
    symbols.foldl (fun r p => register p.1 r p.2) r =
      { ambient := ((symbols.filter (isAmbient ·.2)).map registered).foldl
          (fun t e => t.put e.1 e.2) r.ambient
        classes := ((symbols.filter fun p => p.2.kind = .class).map registered).foldl
          (fun t e => t.put e.1 e.2) r.classes } := by
  induction symbols generalizing r with
  | nil => rfl
  | cons p rest ih =>
      -- The kind of a symbol says which table it goes into.
      rw [List.foldl_cons, ih, List.filter_cons, List.filter_cons, register, isAmbient]
      cases hkind : p.2.kind <;> rfl

/-- The registry in one pass over all symbols. -/
theorem ofSources_eq (sources : List Api.Source) :
    ofSources sources =
      { ambient := Table.ofList (ambientEntries sources)
        classes := Table.ofList (classEntries sources) } := by
  have hfold : ofSources sources =
      (declaredSymbols sources).foldl (fun r p => register p.1 r p.2) empty := by
    rw [declaredSymbols, List.foldl_flatMap, ofSources]
    congr 1
    funext r source
    rw [registerSource, List.foldl_map]
  rw [hfold, foldl_register]
  rfl

/-- A token leads to the symbol that declares the type of its name, spelled with dots. -/
theorem lookup_ofSources (sources : List Api.Source) (token : String) :
    (ofSources sources).lookup token =
      (declarationOf? sources (TypePath.toDotted token)).map fun p =>
        RegistryEntry.ofSymbol p.1 p.2 := by
  rw [lookup, ofSources_eq, declarationOf?, Option.map_or, ← lastOf?_filter_registered,
    ← lastOf?_filter_registered]
  simp only [Table.get?_ofList]
  -- The two tables are asked one after the other.
  cases hambient : lastOf? (ambientEntries sources) (TypePath.toDotted token) with
  | some entry =>
      rw [ambientEntries] at hambient
      rw [hambient, Option.some_or]
  | none =>
      rw [ambientEntries] at hambient
      rw [hambient, Option.none_or]
      rfl

/-- Every entry is that of a symbol with the name looked up. -/
theorem exists_of_lookup (sources : List Api.Source) (token : String) (entry : RegistryEntry)
    (hentry : (ofSources sources).lookup token = some entry) :
    ∃ p ∈ declaredSymbols sources,
      p.2.name = TypePath.toDotted token ∧ entry = RegistryEntry.ofSymbol p.1 p.2 := by
  rw [lookup_ofSources, Option.map_eq_some_iff] at hentry
  rcases hentry with ⟨p, hp, rfl⟩
  rcases mem_of_declarationOf? sources _ p hp with ⟨hmem, hname⟩
  exact ⟨p, hmem, hname, rfl⟩

/-- Without repeated names, every declared type is found under its name. -/
theorem lookup_of_mem (sources : List Api.Source)
    (hnames : ((declaredSymbols sources).map (·.2.name)).Nodup) (p : String × Api.Symbol)
    (hp : p ∈ declaredSymbols sources) (hkind : p.2.kind ≠ .other) (token : String)
    (htoken : TypePath.toDotted token = p.2.name) :
    (ofSources sources).lookup token = some (RegistryEntry.ofSymbol p.1 p.2) := by
  rcases exists_declarationOf? sources p hp hkind with ⟨q, hdeclaration⟩
  rcases mem_of_declarationOf? sources _ q hdeclaration with ⟨hq, hname⟩
  rw [lookup_ofSources, htoken, hdeclaration, List.inj_on_of_nodup_map hnames hq hp hname,
    Option.map_some]

variable {first second : List Api.Source}

/-- Rearranged sources declare the same types. -/
theorem lookup_of_rearranged (h : Rearranged first second) (hambient : (ambientNames first).Nodup)
    (hclasses : (classNames first).Nodup) :
    (ofSources first).lookup = (ofSources second).lookup := by
  rw [← map_fst_ambientEntries] at hambient
  rw [← map_fst_classEntries] at hclasses
  funext token
  -- A name that is in both tables is looked up in the same order.
  rw [lookup, lookup, ofSources_eq, ofSources_eq,
    Table.get?_ofList_of_perm _ _ (perm_ambientEntries h) hambient,
    Table.get?_ofList_of_perm _ _ (perm_classEntries h) hclasses]

theorem ambientCount_ofSources (sources : List Api.Source)
    (hambient : (ambientNames sources).Nodup) :
    (ofSources sources).ambientCount = (ambientEntries sources).length := by
  rw [← map_fst_ambientEntries] at hambient
  rw [ambientCount, ofSources_eq]
  exact Table.size_ofList _ hambient

theorem ambientCount_of_rearranged (h : Rearranged first second)
    (hambient : (ambientNames first).Nodup) :
    (ofSources first).ambientCount = (ofSources second).ambientCount := by
  have hnames : (ambientNames first).Perm (ambientNames second) :=
    ((perm_declaredSymbols h).filter _).map _
  rw [ambientCount_ofSources first hambient,
    ambientCount_ofSources second (hnames.nodup_iff.mp hambient), (perm_ambientEntries h).length_eq]

end Registry

namespace Resolver

/-- The text of a token, and what it needs, are a matter of the substitutions
    and of the types that can be looked up. -/
theorem resolve_of_lookup (r r' : Resolver) (hsubstitutions : r.substitutions = r'.substitutions)
    (hlookup : r.registry.lookup = r'.registry.lookup) : r.resolve = r'.resolve := by
  have hsubstitute : r.substitute = r'.substitute := by
    funext token
    rw [substitute, substitute, hsubstitutions]
  have hname : r.resolveName = r'.resolveName := by
    funext name
    rw [resolveName, resolveName, hlookup]
  have halternative : r.resolveAlternative = r'.resolveAlternative := by
    funext alternative
    rw [resolveAlternative, resolveAlternative, hsubstitute, hname]
  funext token
  rw [resolve, resolve, halternative]

end Resolver

section Passes

variable (config : Config) (sources : List Api.Source)

theorem filter_map_declaredSymbols {α : Type} (p : Api.Symbol → Bool)
    (f : String → Api.Symbol → α) :
    ((declaredSymbols sources).filter (p ·.2)).map (fun q => f q.1 q.2) =
      sources.flatMap fun source => (source.symbols.filter p).map (f source.library) := by
  rw [declaredSymbols, List.filter_flatMap, List.map_flatMap]
  congr 1
  funext source
  rw [List.filter_map, List.map_map]
  rfl

/-- A library without enums adds none. -/
theorem flatMap_filter_nonempty {α : Type} (groups : List (String × List α)) :
    (groups.filter (!·.2.isEmpty)).flatMap Prod.snd = groups.flatMap Prod.snd := by
  induction groups with
  | nil => rfl
  | cons group rest ih =>
      rcases group with ⟨library, members⟩
      cases members with
      | nil => exact ih
      | cons a members =>
          have hcons : ((library, a :: members) :: rest).filter (!·.2.isEmpty) =
              (library, a :: members) :: rest.filter (!·.2.isEmpty) := rfl
          rw [hcons, List.flatMap_cons, List.flatMap_cons, ih]

theorem allEnums_synthesize :
    (synthesize config sources).allEnums =
      ((declaredSymbols sources).filter (isEnumSymbol config ·.2)).map fun p =>
        EnumDeclaration.ofSymbol p.1 p.2 := by
  rw [filter_map_declaredSymbols, Synthesis.allEnums]
  simp only [synthesize]
  rw [flatMap_filter_nonempty, List.flatMap_map]
  rfl

theorem namespaces_synthesize :
    (synthesize config sources).namespaces =
      ((declaredSymbols sources).filter (isNamespaceSymbol config ·.2)).map fun p =>
        NamespaceModel.build (synthesize config sources).resolver p.1 p.2 := by
  rw [filter_map_declaredSymbols]
  rfl

theorem skipped_synthesize : (synthesize config sources).skipped = symbolsOf .other sources := by
  rw [symbolsOf, ← List.map_id' (List.filter _ _)]
  rw [filter_map_declaredSymbols sources (fun s => decide (s.kind = .other)) Prod.mk]
  rfl

end Passes

end Typings
