import Typings.Proofs.ResolvedNames
import Typings.Proofs.Unions

/-!
# Array Types

The arrays of a type are written with a suffix behind it, and the arrays of those with
another. Of a token only the last suffix is set aside. What stands before it is a name
to be exchanged and looked up, and if that has a suffix itself it is another name than
that of the elements: nothing is exchanged for `int[]` where something is for `int`, and
no source declares `lib.Size[]` where one declares `lib.Size`.

So arrays have the type of their elements with a suffix behind it as long as the element
type is no array type. An array type is only honoured in the arrays of it if there is
nothing to be done about its elements: the text that the element type stands for is the
text that it resolves to, and that needs nothing.

The reason is that the name before the last suffix has to resolve to a text that ends in
a suffix. A path never does. It becomes `any`, or else its last segment, and then what it
imports has that for a name, while what the elements import has a name without the
suffix.

## Main definitions

* `arraysOf`: A type with some suffixes behind it.
* `Resolver.HonoursElements`: Arrays have the type of their elements.

## Theorems

* `Resolver.resolve_append_arraySuffix`: What becomes of the arrays of a type.
* `Resolver.resolveName_eq_arraysOf_iff`: When a name resolves to an array type.
* `Resolver.honoursElements_iff`: When arrays have the type of their elements.
* `Resolver.not_forall_honoursElements`: Not all of them do.
-/

namespace Typings

/-- A type with a suffix behind it for each dimension. -/
def arraysOf (type : String) : Nat → String
  | 0 => type
  | depth + 1 => arraysOf type depth ++ arraySuffix

theorem length_arraysOf (type : String) (depth : Nat) :
    (arraysOf type depth).toList.length = type.toList.length + 2 * depth := by
  induction depth with
  | zero => rfl
  | succ depth ih =>
      have hsuffix : arraySuffix.toList.length = 2 := rfl
      rw [arraysOf, String.toList_append, List.length_append, ih, hsuffix]
      omega

/-- Suffixes do not make a path of a name. -/
theorem isQualified_arraysOf (type : String) (depth : Nat) :
    TypePath.isQualified (arraysOf type depth) = TypePath.isQualified type := by
  induction depth with
  | zero => rfl
  | succ depth ih =>
      have hsuffix : arraySuffix.toList.any TypePath.isSeparator = false := by decide
      rw [arraysOf, ← ih, TypePath.isQualified, String.toList_append, List.any_append, hsuffix,
        Bool.or_false]
      rfl

/-- What nothing is known about is no array. -/
theorem anyType_ne_arraysOf (type : String) (depth : Nat) :
    anyType ≠ arraysOf type (depth + 1) := by
  intro h
  have hnone : Text.withoutEnd? arraySuffix anyType = none := by decide +kernel
  rw [(Text.withoutEnd?_eq_some_iff arraySuffix anyType (arraysOf type depth)).mpr h] at hnone
  contradiction

theorem IsAlternative.append {a b : String} (ha : IsAlternative a) (hb : IsAlternative b)
    (hane : a ≠ "") (hbne : b ≠ "") : IsAlternative (a ++ b) := by
  refine ⟨?_, Text.trim_append a b ha.2 hb.2 hane hbne⟩
  intro c hc
  rw [String.toList_append, List.mem_append] at hc
  exact hc.elim (ha.1 c) (hb.1 c)

theorem ne_empty_of_not_blank (text : String) (hblank : Text.isBlankText text = false) :
    text ≠ "" := by
  rintro rfl
  exact absurd hblank (by decide)

/-- A text that is not blank stays so whatever is put behind it. -/
theorem not_blank_append (a b : String) (ha : Text.isBlankText a = false) :
    Text.isBlankText (a ++ b) = false := by
  rw [Text.isBlankText_append, ha, Bool.false_and]

section Alternatives

variable (t : String) (ht : IsAlternative t) (hblank : Text.isBlankText t = false)

include hblank

theorem not_blank_arraysOf (depth : Nat) : Text.isBlankText (arraysOf t depth) = false := by
  induction depth with
  | zero => exact hblank
  | succ depth ih => exact not_blank_append _ _ ih

include ht

theorem isAlternative_arraysOf (depth : Nat) : IsAlternative (arraysOf t depth) := by
  induction depth with
  | zero => exact ht
  | succ depth ih =>
      have hne := ne_empty_of_not_blank _ (not_blank_arraysOf t hblank depth)
      exact ih.append (by decide +kernel) hne (by decide)

end Alternatives

namespace Resolver

variable (r : Resolver)

/-- The arrays of a type, with some dimensions, have the text of the type with as many
    suffixes behind it, and need what the type needs. -/
structure HonoursElements (t : String) (depth : Nat) : Prop where
  rendered : (r.resolve (arraysOf t depth)).rendered = arraysOf (r.resolve t).rendered depth
  requirements : (r.resolve (arraysOf t depth)).requirements = (r.resolve t).requirements

/-- The text of a name is no path. -/
theorem not_isQualified_resolveName (name : String) :
    TypePath.isQualified (r.resolveName name).1 = false :=
  TypePath.not_isQualified_of_not_isSeparator _ (r.not_isSeparator_of_mem_resolveName name)

/-- What a name imports is imported under the text of the name. -/
theorem name_of_mem_resolveName (name : String) (i : TypeImport)
    (hi : i ∈ (r.resolveName name).2.imports) : i.name = (r.resolveName name).1 := by
  cases hqualified : TypePath.isQualified name with
  | false =>
      rw [resolveName_of_plain r name hqualified] at hi
      exact absurd hi List.not_mem_nil
  | true =>
      cases hlookup : r.registry.lookup name with
      | none =>
          rw [resolveName_of_undeclared r name hqualified hlookup] at hi
          exact absurd hi List.not_mem_nil
      | some entry =>
          rw [resolveName_of_declared r name hqualified entry hlookup] at hi ⊢
          rw [List.mem_singleton.mp hi]

/-- A name resolves to the arrays of an element type only if it is their text and the
    element type needs nothing. -/
theorem resolveName_eq_arraysOf_iff (name element : String) (depth : Nat) :
    r.resolveName name =
        (arraysOf (r.resolveName element).1 (depth + 1), (r.resolveName element).2) ↔
      name = arraysOf (r.resolveName element).1 (depth + 1) ∧ (r.resolveName element).2 = {} := by
  constructor
  · intro h
    cases hqualified : TypePath.isQualified name with
    | false =>
        rw [resolveName_of_plain r name hqualified, Prod.mk.injEq] at h
        rcases h with ⟨htext, hneeds⟩
        by_cases hempty : name = ""
        · rw [if_pos hempty] at htext
          exact absurd htext (anyType_ne_arraysOf _ depth)
        · rw [if_neg hempty] at htext
          exact ⟨htext, hneeds.symm⟩
    | true =>
        exfalso
        cases hlookup : r.registry.lookup name with
        | none =>
            rw [resolveName_of_undeclared r name hqualified hlookup, Prod.mk.injEq] at h
            exact anyType_ne_arraysOf _ depth h.1
        | some entry =>
            rw [resolveName_of_declared r name hqualified entry hlookup, Prod.mk.injEq] at h
            rcases h with ⟨htext, hneeds⟩
            -- The import has the text of the name, and it has that of the element type.
            have hname : TypePath.lastSegment name = (r.resolveName element).1 := by
              refine r.name_of_mem_resolveName element
                ⟨TypePath.lastSegment name, entry.module⟩ ?_
              rw [← hneeds]
              exact List.mem_singleton_self _
            have hlength := congrArg (fun text => text.toList.length) (hname.symm.trans htext)
            simp only [length_arraysOf] at hlength
            omega
  · rintro ⟨hname, hneeds⟩
    have hqualified : TypePath.isQualified name = false := by
      rw [hname, isQualified_arraysOf]
      exact r.not_isQualified_resolveName element
    have hempty : name ≠ "" := by
      intro hnil
      have hlength := congrArg (fun text => text.toList.length) (hnil.symm.trans hname)
      simp only [length_arraysOf, String.toList_empty, List.length_nil] at hlength
      omega
    rw [resolveName_of_plain r name hqualified, if_neg hempty, hneeds, ← hname]

/-- A token with one alternative has the text of that alternative, and needs what it
    needs. -/
theorem resolve_of_isAlternative (a : String) (ha : IsAlternative a)
    (hblank : Text.isBlankText a = false) :
    (r.resolve a).rendered = (r.resolveAlternative a).1 ∧
      (r.resolve a).requirements = (r.resolveAlternative a).2 := by
  have hneeds : Requirements.mergeAll [(r.resolveAlternative a).2] =
      (r.resolveAlternative a).2 := by
    rw [resolveAlternative_eq, needs_resolveName]
    -- An alternative needs one thing at most, so there is nothing to be left out.
    cases r.importOf? (r.standsFor a) with
    | none => cases r.missing? (r.standsFor a) <;> rfl
    | some i => cases r.missing? (r.standsFor a) <;> rfl
  rw [resolve_of_not_blank r a hblank, alternatives_of_isAlternative a ha]
  exact ⟨rfl, hneeds⟩

variable (t : String) (ht : IsAlternative t) (hblank : Text.isBlankText t = false)

include ht hblank

/-- The arrays of a type resolve to what the type resolves to as a name, with a suffix
    behind it. -/
theorem resolve_append_arraySuffix :
    (r.resolve (t ++ arraySuffix)).rendered =
        (r.resolveName (r.substitute t)).1 ++ arraySuffix ∧
      (r.resolve (t ++ arraySuffix)).requirements = (r.resolveName (r.substitute t)).2 := by
  have halternative : r.resolveAlternative (t ++ arraySuffix) =
      ((r.resolveName (r.substitute t)).1 ++ arraySuffix,
        (r.resolveName (r.substitute t)).2) := by
    rw [resolveAlternative, (Text.withoutEnd?_eq_some_iff arraySuffix _ t).mpr rfl]
  rcases r.resolve_of_isAlternative (t ++ arraySuffix) (isAlternative_arraysOf t ht hblank 1)
    (not_blank_arraysOf t hblank 1) with ⟨hrendered, hneeds⟩
  rw [hrendered, hneeds, halternative]
  exact ⟨rfl, rfl⟩

/-- Arrays have the type of their elements if what stands before the last suffix does. -/
theorem honoursElements_succ_iff (depth : Nat) :
    r.HonoursElements t (depth + 1) ↔
      r.resolveName (r.substitute (arraysOf t depth)) =
        (arraysOf (r.resolve t).rendered depth, (r.resolve t).requirements) := by
  rcases r.resolve_append_arraySuffix (arraysOf t depth) (isAlternative_arraysOf t ht hblank depth)
    (not_blank_arraysOf t hblank depth) with ⟨hrendered, hneeds⟩
  constructor
  · rintro ⟨htext, hsame⟩
    rw [arraysOf, hrendered, arraysOf] at htext
    rw [arraysOf, hneeds] at hsame
    exact Prod.ext ((String.append_left_inj arraySuffix).mp htext) hsame
  · intro h
    refine ⟨?_, ?_⟩
    · rw [arraysOf, hrendered, h, arraysOf]
    · rw [arraysOf, hneeds, h]

/-- The arrays of an alternative have its type, if it is no array type itself, or if it
    stands for the text that it resolves to and needs nothing. The arrays of these are
    honoured in the same case only: beyond the first dimension, if what stands before the
    last suffix stands for the text that it would have to resolve to. -/
theorem honoursElements_iff :
    (r.HonoursElements t 1 ↔ Text.withoutEnd? arraySuffix t = none ∨
        (r.substitute t = (r.resolve t).rendered ∧ (r.resolve t).requirements = {})) ∧
      (Text.withoutEnd? arraySuffix t = none → ∀ depth,
        (r.HonoursElements t (depth + 2) ↔
          r.substitute (arraysOf t (depth + 1)) = arraysOf (r.resolve t).rendered (depth + 1) ∧
            (r.resolve t).requirements = {})) := by
  rcases r.resolve_of_isAlternative t ht hblank with ⟨hrendered, hneeds⟩
  refine ⟨?_, ?_⟩
  · rw [r.honoursElements_succ_iff t ht hblank 0, arraysOf, arraysOf, hrendered, hneeds]
    cases hsuffix : Text.withoutEnd? arraySuffix t with
    | none =>
        rw [resolveAlternative, hsuffix]
        exact iff_of_true rfl (Or.inl rfl)
    | some element =>
        -- The type of the elements is what stands before the suffix as a name.
        rw [resolveAlternative, hsuffix]
        have hiff := r.resolveName_eq_arraysOf_iff (r.substitute t) (r.substitute element) 0
        rw [arraysOf, arraysOf] at hiff
        exact hiff.trans (or_iff_right (Option.some_ne_none element)).symm
  · intro hsuffix depth
    rw [r.honoursElements_succ_iff t ht hblank (depth + 1), hrendered, hneeds, resolveAlternative,
      hsuffix]
    exact r.resolveName_eq_arraysOf_iff _ (r.substitute t) depth

omit ht hblank

section Example

/-- A resolver that knows one enum and exchanges one token. -/
def gridResolver : Resolver where
  substitutions := Table.ofList [("int", "number")]
  registry := Registry.ofSources
    [{ library := "lib", symbols := [{ kind := .enum, name := "lib.Size" }] }]

/-- The second dimension is honoured for strings and not for what is exchanged. -/
theorem honoursElements_grid :
    IsAlternative "int" ∧ Text.isBlankText "int" = false ∧
      Text.withoutEnd? arraySuffix "int" = none ∧
      gridResolver.HonoursElements "int" 1 ∧ ¬gridResolver.HonoursElements "int" 2 ∧
      gridResolver.HonoursElements "string" 3 := by
  have hint : IsAlternative "int" := by decide +kernel
  have hblank : Text.isBlankText "int" = false := by decide
  have hsuffix : Text.withoutEnd? arraySuffix "int" = none := by decide +kernel
  rcases honoursElements_iff gridResolver "int" hint hblank with ⟨hone, hmore⟩
  refine ⟨hint, hblank, hsuffix, hone.mpr (Or.inl hsuffix), ?_, ?_⟩
  · rw [hmore hsuffix 0]
    decide +kernel
  · rcases honoursElements_iff gridResolver "string" (by decide +kernel) (by decide) with
      ⟨_, hmore⟩
    rw [hmore (by decide +kernel) 1]
    decide +kernel

/-- The elements of an array of arrays of a declared type are not found. -/
theorem not_forall_honoursElements :
    ¬∀ (r : Resolver) (t : String), IsAlternative t → Text.isBlankText t = false →
      r.HonoursElements t 1 := by
  intro h
  have hgrid := h gridResolver "lib.Size[]" (by decide +kernel) (by decide)
  exact absurd hgrid.rendered (by decide +kernel)

end Example

end Resolver

end Typings
