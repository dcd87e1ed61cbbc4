import Mathlib.Data.List.Basic
import Typings.Proofs.Naming
import Typings.Proofs.Resolve

/-!
# The Names in a Resolved Type

Tokens name types by paths, and declarations name them by what they import. So the text
of a token must have no path left in it, and for every path that was taken out there has
to be an import, or a complaint that there is no type to import.

It is not the alternative as it is written that counts, but the name that it stands for,
behind its array suffix and behind the substitutions. What a substitution leads to is
taken as one name, even where it looks like a union or has an array suffix of its own. If
that name is a path it is looked up as a whole, and its last segment has no separator
left. If it is none there is nothing to look up, and nothing to take out.

Whatever a token needs is needed by one of its alternatives, which needs one thing at
most. Needs are gathered in the order of the alternatives, each once, so they can be read
off the token: one goes through its alternatives and leaves out what was there before.

## Main definitions

* `Registry.HasEntry`: What a name is declared as.
* `Resolver.standsFor`, `suffixOf`: The two parts of an alternative.
* `Resolver.importOf?`, `Resolver.missing?`: What a name needs.
* `Resolver.IsExact`: A resolved type has no paths and needs what its names need.

## Theorems

* `Resolver.resolveAlternative_eq`: An alternative is resolved as the name it stands for.
* `Resolver.needs_resolveName`: What a name needs.
* `Resolver.not_isSeparator_of_mem_resolveName`: The text of a name has no separator.
* `Resolver.isExact_resolve`: Resolved types are exact.
-/

namespace Typings

/-- The array suffix that is set aside of an alternative. -/
def suffixOf (a : String) : String :=
  if (Text.withoutEnd? arraySuffix a).isSome then arraySuffix else ""

/-- A registry has an entry for a name. In the name's spelling with dots it is that of an enum,
    a namespace or an interface, or, where there is none of these, that of a class. -/
def Registry.HasEntry (registry : Registry) (name : String) (entry : RegistryEntry) : Prop :=
  ∃ dotted : String, dotted.toList = name.toList.map (fun c => if c = '/' then '.' else c) ∧
    (registry.ambient.entries.lookup dotted = some entry ∨
      registry.ambient.entries.lookup dotted = none ∧
        registry.classes.entries.lookup dotted = some entry)

/-- What is looked up for a name is the entry for it. -/
theorem Registry.lookup_eq_some_iff_hasEntry (registry : Registry) (name : String)
    (entry : RegistryEntry) :
    registry.lookup name = some entry ↔ registry.HasEntry name entry := by
  have hdotted : ∀ dotted : String,
      dotted.toList = name.toList.map (fun c => if c = '/' then '.' else c) ↔
        dotted = TypePath.toDotted name := by
    intro dotted
    rw [TypePath.toDotted, Text.replaceChar, ← String.toList_inj, String.toList_ofList]
  simp only [HasEntry, hdotted, exists_eq_left, lookup, Table.get?]
  cases registry.ambient.entries.lookup (TypePath.toDotted name) with
  | none => simp only [reduceCtorEq, true_and, false_or]
  | some found => simp only [reduceCtorEq, false_and, or_false]

/-- The alternatives that have a say in the type of a token. A blank token has none. -/
def tokensOf (token : String) : List String :=
  if Text.isBlankText token then [] else alternatives token

namespace Resolver

variable (r : Resolver)

/-- The name that an alternative stands for: one array suffix is set aside, and what is
    left is exchanged for its substitute, if it has one. -/
def standsFor (a : String) : String :=
  r.substitute ((Text.withoutEnd? arraySuffix a).getD a)

/-- The import of a qualified name that is declared. -/
def importOf? (name : String) : Option TypeImport :=
  if TypePath.isQualified name then
    (r.registry.lookup name).map fun entry => ⟨TypePath.lastSegment name, entry.module⟩
  else none

/-- A qualified name that is not declared. -/
def missing? (name : String) : Option String :=
  if TypePath.isQualified name ∧ r.registry.lookup name = none then some name else none

/-- A resolved type has no path left in it, its members are what the alternatives of its
    token stand for, and it needs what these need and nothing else. -/
structure IsExact (token : String) (t : ResolvedType) : Prop where
  /-- No path is left in the text. -/
  closed : ∀ c ∈ t.rendered.toList, c ≠ '.' ∧ c ≠ '/'
  /-- The text is that of the members. -/
  rendered : t.rendered = if Text.isBlankText token then anyType else union (t.rawTypes.map Prod.fst)
  /-- There is a member for every alternative. -/
  tokens : t.rawTypes.map Prod.snd = tokensOf token
  /-- A type is declared if the registry has an entry for it. -/
  entries : ∀ name entry, r.registry.lookup name = some entry ↔ r.registry.HasEntry name entry
  /-- A path to a declared type becomes its last segment, and that is imported. -/
  declared : ∀ member a, (member, a) ∈ t.rawTypes →
    TypePath.isQualified (r.standsFor a) = true →
      ∀ entry, r.registry.lookup (r.standsFor a) = some entry →
        member = TypePath.lastSegment (r.standsFor a) ++ suffixOf a ∧
          ⟨TypePath.lastSegment (r.standsFor a), entry.module⟩ ∈ t.requirements.imports
  /-- A path to no declared type becomes `any`, and is reported. -/
  undeclared : ∀ member a, (member, a) ∈ t.rawTypes →
    TypePath.isQualified (r.standsFor a) = true → r.registry.lookup (r.standsFor a) = none →
      member = anyType ++ suffixOf a ∧ r.standsFor a ∈ t.requirements.unresolved
  /-- Any other name stays what it is. -/
  plain : ∀ member a, (member, a) ∈ t.rawTypes →
    TypePath.isQualified (r.standsFor a) = false →
      member = (if r.standsFor a = "" then anyType else r.standsFor a) ++ suffixOf a
  /-- The imports are those of declared paths, in the order in which they are needed. -/
  imports : t.requirements.imports =
    ((tokensOf token).filterMap fun a => r.importOf? (r.standsFor a)).eraseDups
  /-- What is reported are undeclared paths, in the order in which they are needed. -/
  unresolved : t.requirements.unresolved =
    ((tokensOf token).filterMap fun a => r.missing? (r.standsFor a)).eraseDups
  nodup_imports : t.requirements.imports.Nodup
  nodup_unresolved : t.requirements.unresolved.Nodup

/-- An alternative is resolved as the name it stands for, with the suffix behind it. -/
theorem resolveAlternative_eq (a : String) :
    r.resolveAlternative a =
      ((r.resolveName (r.standsFor a)).1 ++ suffixOf a, (r.resolveName (r.standsFor a)).2) := by
  rw [resolveAlternative, standsFor, suffixOf]
  cases Text.withoutEnd? arraySuffix a with
  | some element => rfl
  | none =>
      simp only [Option.getD_none, Option.isSome_none, Bool.false_eq_true, if_false,
        String.append_empty]

theorem resolveName_of_undeclared (name : String) (hqualified : TypePath.isQualified name = true)
    (hlookup : r.registry.lookup name = none) :
    r.resolveName name = (anyType, { unresolved := [name] }) := by
  rcases not_blank_of_isQualified name hqualified with ⟨_, hempty, hprimitive⟩
  simp only [resolveName, hempty, hprimitive, hqualified, hlookup, Bool.false_eq_true, if_false,
    decide_false, Bool.not_true, Bool.or_self]

theorem resolveName_of_plain (name : String) (hqualified : TypePath.isQualified name = false) :
    r.resolveName name = (if name = "" then anyType else name, {}) := by
  by_cases hempty : name = ""
  · rw [resolveName, hempty]
    rfl
  · have hisEmpty : name.isEmpty = false := by
      rwa [Bool.eq_false_iff, ne_eq, String.isEmpty_iff]
    simp only [resolveName, hisEmpty, hqualified, Bool.false_eq_true, if_false, Bool.not_false,
      Bool.or_true, if_true, if_neg hempty]

/-- A name needs an import, or a declaration, or nothing. -/
theorem needs_resolveName (name : String) :
    (r.resolveName name).2 =
      { imports := (r.importOf? name).toList, unresolved := (r.missing? name).toList } := by
  rw [importOf?, missing?]
  cases hqualified : TypePath.isQualified name with
  | false =>
      rw [resolveName_of_plain r name hqualified]
      rfl
  | true =>
      cases hlookup : r.registry.lookup name with
      | some entry =>
          rw [resolveName_of_declared r name hqualified entry hlookup]
          rfl
      | none =>
          rw [resolveName_of_undeclared r name hqualified hlookup]
          rfl

/-- The text of a name has no separator: a path is replaced, and other names have none. -/
theorem not_isSeparator_of_mem_resolveName (name : String) :
    ∀ c ∈ (r.resolveName name).1.toList, TypePath.isSeparator c = false := by
  have hany : ∀ c ∈ anyType.toList, TypePath.isSeparator c = false :=
    TypePath.not_isSeparator_of_not_isQualified anyType (by decide)
  cases hqualified : TypePath.isQualified name with
  | false =>
      rw [resolveName_of_plain r name hqualified]
      by_cases hempty : name = ""
      · simp only [if_pos hempty]
        exact hany
      · simp only [if_neg hempty]
        exact TypePath.not_isSeparator_of_not_isQualified name hqualified
  | true =>
      cases hlookup : r.registry.lookup name with
      | some entry =>
          rw [resolveName_of_declared r name hqualified entry hlookup, TypePath.lastSegment_eq]
          exact TypePath.not_isSeparator_of_mem_segments name _ (List.getLast_mem _)
      | none =>
          rw [resolveName_of_undeclared r name hqualified hlookup]
          exact hany

/-- The text of a token has no separator: neither bars nor array suffixes are any. -/
theorem not_isSeparator_of_mem_resolve (token : String) :
    ∀ c ∈ (r.resolve token).rendered.toList, TypePath.isSeparator c = false := by
  cases hblank : Text.isBlankText token with
  | true =>
      rw [resolve_of_blank r token hblank]
      exact TypePath.not_isSeparator_of_not_isQualified anyType (by decide)
  | false =>
      have hsuffix : ∀ a, ∀ c ∈ (suffixOf a).toList, TypePath.isSeparator c = false := by
        intro a
        refine TypePath.not_isSeparator_of_not_isQualified (suffixOf a) ?_
        rw [suffixOf]
        split
        · decide
        · decide
      rw [resolve_of_not_blank r token hblank]
      intro c hc
      -- A character of a union is a bar between members, or stands in one of them.
      rcases Text.mem_toList_join "|" _ c hc with hbar | ⟨member, hmember, hmem⟩
      · rw [List.mem_singleton.mp hbar]
        rfl
      · rcases List.mem_map.mp hmember with ⟨a, _, rfl⟩
        rw [resolveAlternative_eq, String.toList_append, List.mem_append] at hmem
        exact hmem.elim (r.not_isSeparator_of_mem_resolveName _ c) (hsuffix a c)

/-- What a token needs, read off its alternatives. -/
theorem requirements_resolve (token : String) :
    (r.resolve token).requirements =
      { imports := ((tokensOf token).filterMap fun a => r.importOf? (r.standsFor a)).eraseDups
        unresolved :=
          ((tokensOf token).filterMap fun a => r.missing? (r.standsFor a)).eraseDups } := by
  rw [tokensOf]
  cases hblank : Text.isBlankText token with
  | true =>
      rw [resolve_of_blank r token hblank]
      rfl
  | false =>
      rw [resolve_of_not_blank r token hblank, if_neg Bool.false_ne_true,
        Requirements.mergeAll_eq, List.flatMap_map, List.flatMap_map,
        List.filterMap_eq_flatMap_toList, List.filterMap_eq_flatMap_toList]
      simp only [resolveAlternative_eq, needs_resolveName]

/-- The members of a resolved type, each with its alternative. -/
theorem rawTypes_resolve (token : String) :
    (r.resolve token).rawTypes =
      (tokensOf token).map fun a => ((r.resolveName (r.standsFor a)).1 ++ suffixOf a, a) := by
  rw [tokensOf]
  cases hblank : Text.isBlankText token with
  | true =>
      rw [resolve_of_blank r token hblank]
      rfl
  | false =>
      rw [resolve_of_not_blank r token hblank, if_neg Bool.false_ne_true]
      simp only [resolveAlternative_eq]

theorem eq_of_mem_rawTypes (token member a : String)
    (hmem : (member, a) ∈ (r.resolve token).rawTypes) :
    a ∈ tokensOf token ∧ member = (r.resolveName (r.standsFor a)).1 ++ suffixOf a := by
  rw [rawTypes_resolve] at hmem
  rcases List.mem_map.mp hmem with ⟨b, hb, heq⟩
  rw [Prod.mk.injEq] at heq
  rcases heq with ⟨rfl, rfl⟩
  exact ⟨hb, rfl⟩

/-- Every token is resolved without leaving a path in its text, and needs exactly what the
    paths among its alternatives need. -/
theorem isExact_resolve (token : String) : r.IsExact token (r.resolve token) where
  closed c hc := by
    have hseparator := r.not_isSeparator_of_mem_resolve token c hc
    rwa [TypePath.isSeparator, Bool.or_eq_false_iff, decide_eq_false_iff_not,
      decide_eq_false_iff_not] at hseparator
  rendered := by
    cases hblank : Text.isBlankText token with
    | true =>
        rw [resolve_of_blank r token hblank]
        rfl
    | false =>
        rw [resolve_of_not_blank r token hblank, List.map_map]
        rfl
  tokens := by
    rw [rawTypes_resolve, List.map_map]
    exact List.map_id _
  entries := r.registry.lookup_eq_some_iff_hasEntry
  declared member a hmem hqualified entry hentry := by
    rcases r.eq_of_mem_rawTypes token member a hmem with ⟨ha, hmember⟩
    refine ⟨?_, ?_⟩
    · rw [hmember, resolveName_of_declared r _ hqualified entry hentry]
    · rw [requirements_resolve, List.mem_eraseDups, List.mem_filterMap]
      refine ⟨a, ha, ?_⟩
      rw [importOf?, if_pos hqualified, hentry, Option.map_some]
  undeclared member a hmem hqualified hlookup := by
    rcases r.eq_of_mem_rawTypes token member a hmem with ⟨ha, hmember⟩
    refine ⟨?_, ?_⟩
    · rw [hmember, resolveName_of_undeclared r _ hqualified hlookup]
    · rw [requirements_resolve, List.mem_eraseDups, List.mem_filterMap]
      exact ⟨a, ha, if_pos ⟨hqualified, hlookup⟩⟩
  plain member a hmem hqualified := by
    rw [(r.eq_of_mem_rawTypes token member a hmem).2, resolveName_of_plain r _ hqualified]
  imports := by rw [requirements_resolve]
  unresolved := by rw [requirements_resolve]
  nodup_imports := by
    rw [requirements_resolve]
    exact nodup_eraseDups _
  nodup_unresolved := by
    rw [requirements_resolve]
    exact nodup_eraseDups _

section Example

/-- The entry of a type of a library. -/
def libraryEntry (kind : Api.SymbolKind) (basename module : String) : RegistryEntry :=
  ⟨kind, "lib." ++ basename, basename, module, "lib"⟩

/-- A resolver that knows an enum and a class, and another class behind the enum's name. -/
def libraryResolver : Resolver where
  substitutions := Table.ofList [("int", "number")]
  registry :=
    { ambient := Table.ofList [("lib.Size", libraryEntry .enum "Size" "lib/library")]
      classes := Table.ofList
        [("lib.Size", libraryEntry .class "Size" "lib/Size"),
          ("lib.Panel", libraryEntry .class "Panel" "lib/Panel")] }

/-- The type of a union of four names. -/
def resolvedUnion : ResolvedType where
  rendered := "Size[]|Panel|any|number"
  requirements :=
    { imports := [⟨"Size", "lib/library"⟩, ⟨"Panel", "lib/Panel"⟩]
      unresolved := ["lib.Missing"] }
  rawTypes :=
    [("Size[]", "lib/Size[]"), ("Panel", "lib.Panel"), ("any", "lib.Missing"), ("number", "int")]

/-- A declared enum with an array suffix, a class, a path to nothing, and a name that is no
    path, of which only the first two are imported and only the third is reported. -/
theorem isExact_libraryResolver :
    libraryResolver.IsExact "lib/Size[]|lib.Panel|lib.Missing|int" resolvedUnion := by
  have hexact := libraryResolver.isExact_resolve "lib/Size[]|lib.Panel|lib.Missing|int"
  have hresolve : libraryResolver.resolve "lib/Size[]|lib.Panel|lib.Missing|int" =
      resolvedUnion := by
    decide +kernel
  rwa [hresolve] at hexact

/-- A substitute is one name, whatever it looks like. -/
example :
    ({ substitutions := Table.ofList [("Sizes", "lib.Size|int")] } : Resolver).resolve "Sizes[]" =
      { rendered := "any[]"
        requirements := { unresolved := ["lib.Size|int"] }
        rawTypes := [("any[]", "Sizes[]")] } := by
  decide +kernel

end Example

end Resolver

end Typings
