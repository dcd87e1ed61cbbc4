import Typings.Proofs.Requirements
import Typings.Proofs.Text.Pieces
import Typings.Resolve

/-!
# What a Token Needs

A token needs what its alternatives need, and an alternative taken out of a
token is a token of its own with that one alternative. So a type that is
resolved again, alternative by alternative, from the tokens it came from never
needs anything that the whole type did not need already.

## Main definitions

* `IsAlternative`: A text that can be an alternative.
* `IsPlainName`: A qualified name and nothing around it.

## Theorems

* `alternatives_union`: Alternatives put together are the alternatives of the
  whole.
* `alternatives_of_mem`: An alternative is its own only alternative.
* `Resolver.resolve_of_not_blank`: Tokens are resolved alternative by alternative.
* `Resolver.mem_imports_resolve`: A token needs what its alternatives need.
* `Resolver.imports_of_mem_rawTypes`: The tokens of a resolved type need
  nothing that the type does not need.
* `Resolver.resolve_of_isPlainName`: What becomes of the name of a declared type.
-/

namespace Typings

/-- A text that can be an alternative: it has no bar in it and no blanks around
    it. -/
def IsAlternative (a : String) : Prop :=
  (∀ c ∈ a.toList, decide (c = '|') = false) ∧ Text.trim a = a

/-- A qualified name and nothing around it: neither other alternatives, nor an array
    suffix, nor blanks. -/
def IsPlainName (name : String) : Prop :=
  TypePath.isQualified name = true ∧ IsAlternative name ∧ Text.withoutEnd? arraySuffix name = none

instance (a : String) : Decidable (IsAlternative a) :=
  decidable_of_iff (a.toList.all (fun c => !decide (c = '|')) = true ∧ Text.trim a = a) <| by
    rw [IsAlternative, List.all_eq_true]
    simp only [Bool.not_eq_true']

instance (name : String) : Decidable (IsPlainName name) :=
  inferInstanceAs (Decidable (_ ∧ _ ∧ _))

theorem isAlternative_of_mem (type a : String) (ha : a ∈ alternatives type) :
    IsAlternative a := by
  rcases List.mem_map.mp ha with ⟨piece, hpiece, rfl⟩
  refine ⟨?_, ?_⟩
  · intro c hc
    rw [Text.trim, String.toList_ofList] at hc
    exact Text.not_isSeparator_of_mem_splitChars _ _ _ ((Text.mem_split _ _ _).mp hpiece) c
      (Text.mem_of_mem_trimChars _ c hc)
  · simp only [Text.trim, String.toList_ofList, Text.trimChars_trimChars]

/-- Alternatives put together as one type are the alternatives of that type. -/
theorem alternatives_union (members : List String) (hmembers : ∀ a ∈ members, IsAlternative a)
    (hne : members ≠ []) : alternatives (union members) = members := by
  have hsplit : Text.split (· = '|') (union members) = members :=
    Text.split_join (· = '|') '|' members (fun a ha => (hmembers a ha).1) rfl hne
  rw [alternatives, hsplit, List.map_congr_left (g := id) fun a ha => (hmembers a ha).2,
    List.map_id]

/-- An alternative is its own only alternative. -/
theorem alternatives_of_isAlternative (a : String) (ha : IsAlternative a) :
    alternatives a = [a] :=
  alternatives_union [a] (fun _ hb => List.mem_singleton.mp hb ▸ ha) (List.cons_ne_nil a [])

theorem alternatives_of_mem (type a : String) (ha : a ∈ alternatives type) :
    alternatives a = [a] :=
  alternatives_of_isAlternative a (isAlternative_of_mem type a ha)

theorem alternatives_ne_nil (type : String) : alternatives type ≠ [] := by
  simp only [alternatives, Text.split, Ne, List.map_eq_nil_iff]
  exact Text.splitChars_ne_nil _ _

namespace Resolver

variable (r : Resolver)

theorem resolve_of_blank (token : String) (hblank : Text.isBlankText token = true) :
    r.resolve token = { rendered := anyType } := by
  rw [resolve, if_pos hblank]

/-- A token that is not blank is resolved alternative by alternative. -/
theorem resolve_of_not_blank (token : String) (hblank : Text.isBlankText token = false) :
    r.resolve token =
      { rendered := union ((alternatives token).map fun a => (r.resolveAlternative a).1)
        requirements :=
          Requirements.mergeAll ((alternatives token).map fun a => (r.resolveAlternative a).2)
        rawTypes := (alternatives token).map fun a => ((r.resolveAlternative a).1, a) } := by
  have hzip : ((alternatives token).map fun a => (r.resolveAlternative a).1).zip
      ((alternatives token).map id) =
        (alternatives token).map fun a => ((r.resolveAlternative a).1, a) := List.zip_map'
  rw [List.map_id] at hzip
  rw [resolve, hblank, if_neg Bool.false_ne_true]
  simp only [List.map_map]
  exact congrArg _ hzip

/-- A token needs what its alternatives need; a blank token needs nothing. -/
theorem mem_imports_resolve (token : String) (i : TypeImport) :
    i ∈ (r.resolve token).requirements.imports ↔
      Text.isBlankText token = false ∧
        ∃ a ∈ alternatives token, i ∈ (r.resolveAlternative a).2.imports := by
  cases hblank : Text.isBlankText token with
  | true =>
      rw [resolve_of_blank r token hblank]
      simp only [List.not_mem_nil, Bool.true_eq_false, false_and]
  | false =>
      rw [resolve_of_not_blank r token hblank]
      simp only [Requirements.mem_mergeAll, List.mem_map, exists_exists_and_eq_and, true_and]

/-- The tokens of a resolved type need nothing that the type does not need. -/
theorem imports_of_mem_rawTypes (token a raw : String)
    (hraw : (a, raw) ∈ (r.resolve token).rawTypes) (i : TypeImport)
    (hi : i ∈ (r.resolve raw).requirements.imports) :
    i ∈ (r.resolve token).requirements.imports := by
  cases hblank : Text.isBlankText token with
  | true =>
      rw [resolve_of_blank r token hblank] at hraw
      exact absurd hraw List.not_mem_nil
  | false =>
      have hmem : raw ∈ alternatives token := by
        rw [resolve_of_not_blank r token hblank] at hraw
        rcases List.mem_map.mp hraw with ⟨b, hb, heq⟩
        rwa [← (Prod.mk.inj heq).2]
      -- The token of a member is one of the alternatives, and resolving it alone
      -- resolves no other.
      rcases (mem_imports_resolve r raw i).mp hi with ⟨_, b, hb, hib⟩
      rw [alternatives_of_mem token raw hmem, List.mem_singleton] at hb
      rw [hb] at hib
      exact (mem_imports_resolve r token i).mpr ⟨hblank, raw, hmem, hib⟩

/-- A separator is no blank, and primitive types have none. -/
theorem not_blank_of_isQualified (name : String) (hname : TypePath.isQualified name = true) :
    Text.isBlankText name = false ∧ name.isEmpty = false ∧ name ∉ primitiveTypes := by
  rcases List.any_eq_true.mp hname with ⟨c, hc, hseparator⟩
  refine ⟨?_, ?_, ?_⟩
  · rw [Text.isBlankText, List.all_eq_false]
    refine ⟨c, hc, ?_⟩
    rw [TypePath.isSeparator, Bool.or_eq_true, decide_eq_true_eq, decide_eq_true_eq] at hseparator
    rcases hseparator with rfl | rfl <;> decide
  · rw [Bool.eq_false_iff, ne_eq, String.isEmpty_iff]
    rintro rfl
    exact absurd hc List.not_mem_nil
  · intro hmem
    have hnone : primitiveTypes.all (fun type => !TypePath.isQualified type) = true := by decide
    have hnot := List.all_eq_true.mp hnone name hmem
    rw [hname] at hnot
    contradiction

/-- A qualified name that is declared becomes its last segment, and that is imported. -/
theorem resolveName_of_declared (name : String) (hqualified : TypePath.isQualified name = true)
    (entry : RegistryEntry) (hentry : r.registry.lookup name = some entry) :
    r.resolveName name = (TypePath.lastSegment name,
      { imports := [⟨TypePath.lastSegment name, entry.module⟩] }) := by
  rcases not_blank_of_isQualified name hqualified with ⟨_, hempty, hprimitive⟩
  simp only [resolveName, hempty, hprimitive, hqualified, hentry, Bool.false_eq_true, if_false,
    decide_false, Bool.not_true, Bool.or_self]

/-- A name that is not exchanged for another becomes its last segment, and that is
    imported from where the type of that name is declared. -/
theorem resolve_of_isPlainName (name : String) (hplain : IsPlainName name)
    (hsubstitutions : r.substitutions.get? name = none) (entry : RegistryEntry)
    (hentry : r.registry.lookup name = some entry) :
    (r.resolve name).rendered = TypePath.lastSegment name ∧
      (r.resolve name).requirements =
        { imports := [⟨TypePath.lastSegment name, entry.module⟩] } := by
  rcases hplain with ⟨hqualified, halternative, hsuffix⟩
  have hsubstitute : r.substitute name = name := by
    rw [substitute, hsubstitutions, Option.getD_none]
  have hresolved : r.resolveAlternative name = (TypePath.lastSegment name,
      { imports := [⟨TypePath.lastSegment name, entry.module⟩] }) := by
    simp only [resolveAlternative, hsuffix, hsubstitute,
      resolveName_of_declared r name hqualified entry hentry]
  rw [resolve_of_not_blank r name (not_blank_of_isQualified name hqualified).1,
    alternatives_of_isAlternative name halternative]
  simp only [List.map_cons, List.map_nil, hresolved]
  exact ⟨rfl, rfl⟩

end Resolver

end Typings
