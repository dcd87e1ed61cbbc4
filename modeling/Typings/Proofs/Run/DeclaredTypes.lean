import Typings.Proofs.Naming
import Typings.Proofs.ResolvedNames
import Typings.Proofs.Run.Declared

/-!
# Declared Types Under Their Own Names

A type is referred to by its name, spelled with dots or with slashes. The registry takes
both spellings for one, because it spells every token with dots before it looks it up. What
it finds does not depend on the order in which types and references come, and neither does
whether it finds anything: a name leads to the last enum, namespace or interface of that
name in all sources, and where there is none to the last class.

But the registry keeps a type under its name as the symbol spells it. A symbol that spells
its own name with slashes is kept where no token leads, and so its type is never found, not
even by exactly that name. Every other symbol leads to a type of its name.

## Main definitions

* `Registry.Finds`: A symbol is found under a name, in both spellings.

## Theorems

* `Registry.lookup_toModulePath`: Both spellings of a token are one.
* `Registry.finds_of_declarationOf?`: What is found under a name without slashes.
* `Registry.exists_finds_iff`: Which symbols lead to a type of their name.
* `Registry.not_forall_exists_finds`: Not all of them do.
-/

namespace Typings

namespace Registry

/-- A symbol is found under a name in both spellings of the name, its entry has that name,
    and nothing is reported by a resolver that comes to the name. -/
structure Finds (registry : Registry) (name : String) (p : String × Api.Symbol) : Prop where
  entry_name : (RegistryEntry.ofSymbol p.1 p.2).name = name
  lookup_name : registry.lookup name = some (RegistryEntry.ofSymbol p.1 p.2)
  lookup_path :
    registry.lookup (TypePath.toModulePath name) = some (RegistryEntry.ofSymbol p.1 p.2)
  resolved : ∀ substitutions, ∀ token ∈ [name, TypePath.toModulePath name],
    ((Resolver.mk substitutions registry).resolveName token).2.unresolved = []

/-- Both spellings of a token lead to the same type. -/
theorem lookup_toModulePath (registry : Registry) (token : String) :
    registry.lookup (TypePath.toModulePath token) = registry.lookup token := by
  rw [lookup, lookup, TypePath.toDotted_toModulePath]

variable (sources : List Api.Source)

/-- Under a name without slashes the symbol is found that declares the type of the name. -/
theorem finds_of_declarationOf? (name : String) (hslash : '/' ∉ name.toList)
    (p : String × Api.Symbol) (hp : declarationOf? sources name = some p) :
    (ofSources sources).Finds name p := by
  have hlookup : (ofSources sources).lookup name = some (RegistryEntry.ofSymbol p.1 p.2) := by
    rw [lookup_ofSources, TypePath.toDotted_of_not_mem name hslash, hp, Option.map_some]
  have hpath := ((ofSources sources).lookup_toModulePath name).trans hlookup
  refine ⟨(mem_of_declarationOf? sources name p hp).2, hlookup, hpath, ?_⟩
  intro substitutions token htoken
  have hfound : (ofSources sources).lookup token = some (RegistryEntry.ofSymbol p.1 p.2) := by
    rcases List.mem_cons.mp htoken with rfl | htoken
    · exact hlookup
    · rwa [List.mem_singleton.mp htoken]
  rw [Resolver.needs_resolveName, Resolver.missing?, if_neg]
  · rfl
  · rintro ⟨_, hnone⟩
    rw [hfound] at hnone
    contradiction

/-- A name that something is found under has no slashes. The entry that is found has the
    name that was looked up, spelled with dots. -/
theorem not_mem_of_finds (name : String) (p : String × Api.Symbol)
    (h : (ofSources sources).Finds name p) : '/' ∉ name.toList := by
  rcases exists_of_lookup sources name _ h.lookup_name with ⟨q, _, hname, hentry⟩
  have hdotted : name = TypePath.toDotted name :=
    h.entry_name.symm.trans ((congrArg RegistryEntry.name hentry).trans hname)
  rw [hdotted]
  exact TypePath.not_mem_toDotted name

/-- An enum, a namespace, an interface or a class leads to the type that is declared under
    its name last, enums, namespaces and interfaces before classes, exactly if its name is
    not spelled with slashes. -/
theorem exists_finds_iff (p : String × Api.Symbol) (hp : p ∈ declaredSymbols sources)
    (hkind : p.2.kind ≠ .other) :
    (∃ q, declarationOf? sources p.2.name = some q ∧ (ofSources sources).Finds p.2.name q) ↔
      '/' ∉ p.2.name.toList := by
  constructor
  · rintro ⟨q, _, hfinds⟩
    exact not_mem_of_finds sources p.2.name q hfinds
  · intro hslash
    rcases exists_declarationOf? sources p hp hkind with ⟨q, hq⟩
    exact ⟨q, hq, finds_of_declarationOf? sources p.2.name hslash q hq⟩

section Example

/-- Two libraries declare one name, the first of them twice. -/
def namesakeSources : List Api.Source :=
  [{ library := "lib",
     symbols := [{ kind := .enum, name := "lib.Size" }, { kind := .interface, name := "lib.Size" }] },
    { library := "app", symbols := [{ kind := .class, name := "lib.Size" }] }]

/-- The class comes last, and what its name leads to is the interface. -/
theorem exists_finds_namesake :
    ("app", { kind := .class, name := "lib.Size" }) ∈ declaredSymbols namesakeSources ∧
      ¬Api.SymbolKind.class = .other ∧
      (∃ q, declarationOf? namesakeSources "lib.Size" = some q ∧
        (ofSources namesakeSources).Finds "lib.Size" q) ∧
      (declarationOf? namesakeSources "lib.Size").map (fun q => (q.1, q.2.kind)) =
        some ("lib", .interface) := by
  have hmem : ("app", { kind := .class, name := "lib.Size" }) ∈ declaredSymbols namesakeSources :=
    List.mem_append_right _ List.mem_cons_self
  have hkind : ¬Api.SymbolKind.class = .other := by decide
  exact ⟨hmem, hkind, (exists_finds_iff namesakeSources _ hmem hkind).mpr (by decide), by decide⟩

/-- An enum that spells its name with slashes is not found under that name. -/
theorem not_forall_exists_finds :
    ¬∀ (sources : List Api.Source) (p : String × Api.Symbol), p ∈ declaredSymbols sources →
      p.2.kind ≠ .other →
      ∃ q, declarationOf? sources p.2.name = some q ∧ (ofSources sources).Finds p.2.name q := by
  intro h
  rcases h [{ library := "lib", symbols := [{ kind := .enum, name := "lib/Size" }] }]
      ("lib", { kind := .enum, name := "lib/Size" }) List.mem_cons_self (by decide) with
    ⟨q, _, hfinds⟩
  exact not_mem_of_finds _ _ q hfinds (by decide)

end Example

end Registry

end Typings
