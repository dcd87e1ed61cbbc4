import Mathlib.Data.List.Flatten
import Typings.Proofs.ModelTokens
import Typings.Proofs.Run.Declared

/-!
# Added Libraries

More libraries declare more types, and maybe other types of the same names. What a token
resolves to can be another type then, from another module, but never less of a type: its
text is made of the names that its alternatives stand for, and a declared name has the
same text whatever declares it. So the only alternatives that have another text are those
that stand for a name that nothing declared before, and these had the text `any`.

Nothing is taken out of the registry when a source is added, wherever among the others
that is. A name that is still found nowhere had not been found before, and so what cannot
be resolved is part of what could not be resolved before, namely that part of it that is
still not found (`Resolver.notFound`). That is passed on to the models, since the tokens
that a model is built from are the same for all resolvers.

## Main definitions

* `Resolver.Extends`: A resolver finds every type that another finds.
* `Resolver.notFound`: Names that a resolver does not find.
* `Resolver.KeepsTypes`: What a resolver has found out is not lost with another.

## Theorems

* `Registry.lookup_eq_none_of_sublist`: A type that more sources do not declare is not
  declared by some of them.
* `Resolver.text_resolveName_of_extends`: A name that is not missing keeps its text.
* `Resolver.unresolved_resolve_of_extends`: What is left unresolved in a token.
* `Resolver.unresolved_of_extends`: The same of all tokens of a model.
* `Resolver.keepsTypes_of_sublist`: Adding libraries loses no type.
-/

namespace Typings

namespace Registry

variable {sources more : List Api.Source} (h : sources.Sublist more)

include h

/-- What is not found among more sources is not found among some of them. -/
theorem lookup_eq_none_of_sublist (token : String) (hnone : (ofSources more).lookup token = none) :
    (ofSources sources).lookup token = none := by
  have hdeclared : declaredSymbols sources ⊆ declaredSymbols more := (h.flatMap _).subset
  rw [Option.eq_none_iff_forall_ne_some]
  intro entry hentry
  rw [lookup_ofSources, Option.map_eq_some_iff] at hentry
  rcases hentry with ⟨p, hp, _⟩
  rcases mem_of_declarationOf? sources _ p hp with ⟨hmem, hname⟩
  -- The symbol that declares the type is among those of more sources too, where it may be
  -- that another one of the name counts.
  rcases exists_declarationOf? more p (hdeclared hmem) (kind_of_declarationOf? sources _ p hp) with
    ⟨last, hlast⟩
  rw [hname] at hlast
  rw [lookup_ofSources, hlast, Option.map_some] at hnone
  contradiction

end Registry

namespace Resolver

/-- The second resolver makes the same substitutions as the first, and finds every type that
    the first finds, if not always the same. -/
structure Extends (r r' : Resolver) : Prop where
  substitutions : r'.substitutions = r.substitutions
  lookup : ∀ name, r'.registry.lookup name = none → r.registry.lookup name = none

/-- Of some names those that a resolver does not find. -/
def notFound (r : Resolver) (names : List String) : List String :=
  names.filter fun name => (r.registry.lookup name).isNone

/-- What the first resolver has found out about tokens and records is not lost with the
    second. -/
structure KeepsTypes (r r' : Resolver) : Prop where
  /-- An alternative that is more than `any`, or an array of that, keeps its text and its
      place. -/
  members : ∀ (token : String) (i : Nat) (member a : String),
    (r.resolve token).rawTypes[i]? = some (member, a) →
      member ≠ anyType → member ≠ anyType ++ arraySuffix →
        (r'.resolve token).rawTypes[i]? = some (member, a)
  /-- A token that could be resolved keeps its text. -/
  rendered : ∀ token, (r.resolve token).requirements.unresolved = [] →
    (r'.resolve token).rendered = (r.resolve token).rendered
  /-- What is unresolved in a token was so before: it is what of that is still not found. -/
  unresolved : ∀ token, (r'.resolve token).requirements.unresolved =
    r'.notFound (r.resolve token).requirements.unresolved
  /-- What is unresolved in a class or an interface was so before, whatever its number is. -/
  classes : ∀ id id' kind library s,
    (ClassModel.build r' id' kind library s).dependencies.unresolved =
      r'.notFound (ClassModel.build r id kind library s).dependencies.unresolved
  /-- What is unresolved in a namespace was so before. -/
  namespaces : ∀ library s,
    (NamespaceModel.build r' library s).dependencies.unresolved =
      r'.notFound (NamespaceModel.build r library s).dependencies.unresolved

/-- A name that is missing has the text `any`. -/
theorem missing?_eq_none_of_text_ne (r : Resolver) (name : String)
    (htext : (r.resolveName name).1 ≠ anyType) : r.missing? name = none := by
  rw [missing?, if_neg]
  rintro ⟨hqualified, hlookup⟩
  rw [resolveName_of_undeclared r name hqualified hlookup] at htext
  exact htext rfl

variable {r r' : Resolver} (h : Extends r r')

include h

theorem standsFor_of_extends (a : String) : r'.standsFor a = r.standsFor a := by
  rw [standsFor, standsFor, substitute, substitute, h.substitutions]

/-- A name is missing if it was missing before and is still not found. -/
theorem missing?_of_extends (name : String) :
    r'.missing? name =
      (r.missing? name).filter fun missing => (r'.registry.lookup missing).isNone := by
  unfold missing?
  by_cases hqualified : TypePath.isQualified name = true
  · cases hlookup : r'.registry.lookup name with
    | none =>
        rw [if_pos ⟨hqualified, rfl⟩, if_pos ⟨hqualified, h.lookup name hlookup⟩,
          Option.filter_some, hlookup]
        rfl
    | some entry =>
        rw [if_neg fun hboth => Option.some_ne_none entry hboth.2]
        -- It may have been missing before, but it is found now.
        by_cases hmissing : TypePath.isQualified name = true ∧ r.registry.lookup name = none
        · rw [if_pos hmissing, Option.filter_some, hlookup]
          rfl
        · rw [if_neg hmissing]
          rfl
  · rw [if_neg fun hboth => hqualified hboth.1, if_neg fun hboth => hqualified hboth.1]
    rfl

/-- A name that is not missing keeps its text: either it is no path, or it is declared, and
    its text does not depend on the entry. -/
theorem text_resolveName_of_extends (name : String) (hfound : r.missing? name = none) :
    (r'.resolveName name).1 = (r.resolveName name).1 := by
  cases hqualified : TypePath.isQualified name with
  | false => rw [resolveName_of_plain r name hqualified, resolveName_of_plain r' name hqualified]
  | true =>
      cases hlookup : r.registry.lookup name with
      | none =>
          rw [missing?, if_pos ⟨hqualified, hlookup⟩] at hfound
          contradiction
      | some entry =>
          cases hlookup' : r'.registry.lookup name with
          | none =>
              rw [h.lookup name hlookup'] at hlookup
              contradiction
          | some entry' =>
              rw [resolveName_of_declared r name hqualified entry hlookup,
                resolveName_of_declared r' name hqualified entry' hlookup']

/-- An alternative keeps its text if the name that it stands for is not missing. -/
theorem text_resolveAlternative_of_extends (a : String)
    (hfound : r.missing? (r.standsFor a) = none) :
    (r'.resolveAlternative a).1 = (r.resolveAlternative a).1 := by
  rw [resolveAlternative_eq, resolveAlternative_eq, standsFor_of_extends h,
    text_resolveName_of_extends h _ hfound]

/-- An alternative that is more than `any`, or an array of that, keeps its text. -/
theorem members_of_extends (token : String) (i : Nat) (member a : String)
    (hmember : (r.resolve token).rawTypes[i]? = some (member, a)) (hany : member ≠ anyType)
    (harray : member ≠ anyType ++ arraySuffix) :
    (r'.resolve token).rawTypes[i]? = some (member, a) := by
  rw [rawTypes_resolve, List.getElem?_map, Option.map_eq_some_iff] at hmember ⊢
  rcases hmember with ⟨b, hb, heq⟩
  rw [Prod.mk.injEq] at heq
  rcases heq with ⟨rfl, rfl⟩
  -- If the name itself had the text `any`, the member would be one of the two.
  have htext : (r.resolveName (r.standsFor b)).1 ≠ anyType := by
    intro htext
    rw [htext] at hany harray
    by_cases hsuffix : (Text.withoutEnd? arraySuffix b).isSome = true
    · exact harray (by rw [suffixOf, if_pos hsuffix])
    · exact hany (by rw [suffixOf, if_neg hsuffix, String.append_empty])
  have hfound := r.missing?_eq_none_of_text_ne _ htext
  refine ⟨b, hb, ?_⟩
  rw [standsFor_of_extends h, text_resolveName_of_extends h _ hfound]

/-- A token that could be resolved keeps its text. -/
theorem rendered_of_extends (token : String)
    (hresolved : (r.resolve token).requirements.unresolved = []) :
    (r'.resolve token).rendered = (r.resolve token).rendered := by
  cases hblank : Text.isBlankText token with
  | true => rw [resolve_of_blank r token hblank, resolve_of_blank r' token hblank]
  | false =>
      rw [resolve_of_not_blank r token hblank, resolve_of_not_blank r' token hblank]
      refine congrArg union (List.map_congr_left fun a ha => ?_)
      refine text_resolveAlternative_of_extends h a ?_
      -- A name that is missing would be among what is unresolved.
      rw [Option.eq_none_iff_forall_ne_some]
      intro name hmissing
      have hmem : name ∈ (r.resolve token).requirements.unresolved := by
        rw [requirements_resolve, List.mem_eraseDups, List.mem_filterMap, tokensOf, hblank,
          if_neg Bool.false_ne_true]
        exact ⟨a, ha, hmissing⟩
      rw [hresolved] at hmem
      exact absurd hmem List.not_mem_nil

/-- What is unresolved in a token is what was so before and is still not found. -/
theorem unresolved_resolve_of_extends (token : String) :
    (r'.resolve token).requirements.unresolved =
      r'.notFound (r.resolve token).requirements.unresolved := by
  rw [requirements_resolve, requirements_resolve, notFound, filter_eraseDups,
    List.filter_filterMap]
  simp only [standsFor_of_extends h, missing?_of_extends h]

/-- What is unresolved in all tokens of a model is what was so before and is still not
    found. -/
theorem unresolved_of_extends {own own' tokens : List String} {d d' : Dependencies}
    (hd : d.Records r own tokens) (hd' : d'.Records r' own' tokens) :
    d'.unresolved = r'.notFound d.unresolved := by
  rw [hd.unresolved, hd'.unresolved, notFound, filter_eraseDups, List.filter_flatMap]
  simp only [unresolved_resolve_of_extends h]
  rfl

omit h

/-- Adding libraries, before, behind or between those that are there, loses no type: what
    was more than `any` keeps its text, and nothing is unresolved that was not so before. -/
theorem keepsTypes_of_sublist (substitutions : Table String) (sources more : List Api.Source)
    (hmore : sources.Sublist more) :
    KeepsTypes ⟨substitutions, Registry.ofSources sources⟩
      ⟨substitutions, Registry.ofSources more⟩ := by
  have h : Extends ⟨substitutions, Registry.ofSources sources⟩
      ⟨substitutions, Registry.ofSources more⟩ :=
    ⟨rfl, Registry.lookup_eq_none_of_sublist hmore⟩
  refine ⟨members_of_extends h, rendered_of_extends h, unresolved_resolve_of_extends h, ?_, ?_⟩
  · intro id id' kind library s
    exact unresolved_of_extends h (ClassModel.records_dependencies _ id kind library s)
      (ClassModel.records_dependencies _ id' kind library s)
  · intro library s
    exact unresolved_of_extends h (NamespaceModel.records_dependencies _ library s)
      (NamespaceModel.records_dependencies _ library s)

section Example

/-- Fields of declared types, and of types of another library. -/
def drawingSymbol : Api.Symbol :=
  { kind := .namespace
    name := "lib.Drawing"
    properties :=
      [{ name := "size", type := "lib.Size[]|app.Ink" }, { name := "sheet", type := "app.Paper" }] }

/-- A library that refers to types of another. -/
def drawingSource : Api.Source :=
  { library := "lib", symbols := [{ kind := .enum, name := "lib.Size" }, drawingSymbol] }

/-- A library that declares one of these types, and puts another type in the place of one
    that is declared already. -/
def inkSource : Api.Source :=
  { library := "app"
    symbols :=
      [{ kind := .class, name := "app.Ink" },
        { kind := .enum, name := "lib.Size", module := "app/Size" }] }

/-- A type that comes from another library keeps its text, and a type that was missing is
    found. -/
theorem keepsTypes_inkSource :
    let r : Resolver := ⟨Table.empty, Registry.ofSources [drawingSource]⟩
    let r' : Resolver := ⟨Table.empty, Registry.ofSources [drawingSource, inkSource]⟩
    [drawingSource].Sublist [drawingSource, inkSource] ∧
      (r.resolve "lib.Size[]|app.Ink").rawTypes =
        [("Size[]", "lib.Size[]"), ("any", "app.Ink")] ∧
      (r'.resolve "lib.Size[]|app.Ink").rawTypes[0]? = some ("Size[]", "lib.Size[]") ∧
      (r'.resolve "lib.Size[]|app.Ink").rendered = "Size[]|Ink" ∧
      (r.resolve "lib.Size[]").requirements.imports ≠
        (r'.resolve "lib.Size[]").requirements.imports ∧
      (NamespaceModel.build r "lib" drawingSymbol).dependencies.unresolved =
        ["app.Ink", "app.Paper"] ∧
      (NamespaceModel.build r' "lib" drawingSymbol).dependencies.unresolved = ["app.Paper"] := by
  intro r r'
  have hmore : [drawingSource].Sublist [drawingSource, inkSource] :=
    List.Sublist.cons_cons _ (List.nil_sublist _)
  have hkeeps : KeepsTypes r r' := keepsTypes_of_sublist Table.empty _ _ hmore
  have hmembers : (r.resolve "lib.Size[]|app.Ink").rawTypes =
      [("Size[]", "lib.Size[]"), ("any", "app.Ink")] := by
    decide +kernel
  have hunresolved : (NamespaceModel.build r "lib" drawingSymbol).dependencies.unresolved =
      ["app.Ink", "app.Paper"] := by
    decide +kernel
  refine ⟨hmore, hmembers, ?_, by decide +kernel, by decide +kernel, hunresolved, ?_⟩
  · refine hkeeps.members _ 0 _ _ ?_ (by decide) (by decide)
    rw [hmembers]
    rfl
  · rw [hkeeps.namespaces "lib" drawingSymbol, hunresolved]
    decide +kernel

end Example

end Resolver

end Typings
