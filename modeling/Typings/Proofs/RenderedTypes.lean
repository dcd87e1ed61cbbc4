import Typings.Proofs.Method.Meeting
import Typings.Proofs.ResolvedNames
import Typings.Proofs.Unions

/-!
# Resolving Resolved Types

A merge of return types resolves again what was resolved before: an alternative for which
the base method has no token is taken for a token itself. That must not do anything, for
the alternative is a text of a declaration by then and no longer a name from a source.

There is nothing to look up in the text of a type, which has no paths in it. What could
still happen is that an alternative is trimmed, or has a substitute, or is empty, or is
nothing but an array suffix, so that there is no name before the suffix. An alternative
that is none of this is settled (`Resolver.IsSettled`), and a type of which all
alternatives are settled is a fixed point of resolution: resolved again it is the same
text, and it needs nothing.

The alternatives of a type are found by cutting it again, whatever they were when it was
put together. A substitute with a bar in it is one member, and comes to be two.

## Main definitions

* `Resolver.IsSettled`: Nothing happens to an alternative.

## Theorems

* `Resolver.resolveAlternative_of_isSettled`: Settled alternatives stay what they are.
* `Resolver.resolve_of_isSettled`: So do types that are made of them.
* `Method.mergedNeeds_filter`: Alternatives that need nothing do not matter to a merge.
* `Resolver.resolve_rendered`: Resolved types are fixed points of resolution.
-/

namespace Typings

/-- A trimmed text has something that is not blank, if it has anything. -/
theorem Text.not_blank_of_trim_eq (text : String) (htrim : trim text = text) (hne : text ≠ "") :
    isBlankText text = false := by
  by_contra hblank
  rw [Bool.not_eq_false] at hblank
  have hnil : text.toList.dropWhile isBlank = [] :=
    List.dropWhile_eq_nil_iff.mpr (List.all_eq_true.mp hblank)
  rw [trim, trimChars, hnil] at htrim
  exact hne htrim.symm

/-- A text is its pieces with bars between them. -/
theorem union_split (text : String) : union (Text.split (· = '|') text) = text :=
  Text.join_split (· = '|') '|' text fun _ _ hbar => of_decide_eq_true hbar

/-- A piece of a text without paths is no path. -/
theorem not_isQualified_of_mem_split (text : String) (hpath : TypePath.isQualified text = false)
    (piece : String) (hpiece : piece ∈ Text.split (· = '|') text) :
    TypePath.isQualified piece = false := by
  refine TypePath.not_isQualified_of_not_isSeparator piece fun c hc => ?_
  have hmem := Text.mem_of_mem_splitChars _ _ _ ((Text.mem_split _ _ _).mp hpiece) c hc
  exact TypePath.not_isSeparator_of_not_isQualified text hpath c hmem

namespace Resolver

variable (r : Resolver)

/-- Nothing happens to an alternative: it is not trimmed, there is a name before its array
    suffix, and the name has no substitute. -/
structure IsSettled (piece : String) : Prop where
  ne_empty : piece ≠ ""
  trim_eq : Text.trim piece = piece
  ne_suffix : piece ≠ arraySuffix
  unsubstituted :
    r.substitutions.contains ((Text.withoutEnd? arraySuffix piece).getD piece) = false

instance (piece : String) : Decidable (r.IsSettled piece) :=
  decidable_of_iff
    (piece ≠ "" ∧ Text.trim piece = piece ∧ piece ≠ arraySuffix ∧
      r.substitutions.contains ((Text.withoutEnd? arraySuffix piece).getD piece) = false)
    ⟨fun ⟨hempty, htrim, hsuffix, hnone⟩ => ⟨hempty, htrim, hsuffix, hnone⟩,
      fun ⟨hempty, htrim, hsuffix, hnone⟩ => ⟨hempty, htrim, hsuffix, hnone⟩⟩

theorem substitute_of_not_contains (name : String) (hnone : r.substitutions.contains name = false) :
    r.substitute name = name := by
  rw [Table.contains_iff_isSome_get?, Option.isSome_eq_false_iff, Option.isNone_iff_eq_none]
    at hnone
  rw [substitute, hnone, Option.getD_none]

/-- A settled alternative that is no path stays what it is, and needs nothing. -/
theorem resolveAlternative_of_isSettled (piece : String) (h : r.IsSettled piece)
    (hpath : TypePath.isQualified piece = false) : r.resolveAlternative piece = (piece, {}) := by
  have hunsubstituted := h.unsubstituted
  unfold resolveAlternative
  cases hsuffix : Text.withoutEnd? arraySuffix piece with
  | none =>
      rw [hsuffix, Option.getD_none] at hunsubstituted
      simp only
      rw [r.substitute_of_not_contains piece hunsubstituted, resolveName_of_plain r piece hpath,
        if_neg h.ne_empty]
  | some element =>
      rw [hsuffix, Option.getD_some] at hunsubstituted
      have hpiece : piece = element ++ arraySuffix :=
        (Text.withoutEnd?_eq_some_iff arraySuffix piece element).mp hsuffix
      have hname : TypePath.isQualified element = false := by
        rw [hpiece, TypePath.isQualified, String.toList_append, List.any_append,
          Bool.or_eq_false_iff] at hpath
        exact hpath.1
      -- Without a name before it, the suffix is all that there is.
      have hne : element ≠ "" := by
        rintro rfl
        exact h.ne_suffix hpiece
      simp only
      rw [r.substitute_of_not_contains element hunsubstituted, resolveName_of_plain r element hname,
        if_neg hne, hpiece]

section Pieces

variable (text : String) (h : ∀ piece ∈ Text.split (· = '|') text, r.IsSettled piece)

include h

/-- Settled pieces are the alternatives of the text that they make up. -/
theorem alternatives_of_isSettled : alternatives text = Text.split (· = '|') text := by
  rw [alternatives, List.map_congr_left (g := id) fun piece hpiece => (h piece hpiece).trim_eq,
    List.map_id]

theorem not_blank_of_isSettled : Text.isBlankText text = false := by
  have hpieces : ∀ piece ∈ Text.split (· = '|') text, Text.isBlankText piece = false :=
    fun piece hpiece =>
      Text.not_blank_of_trim_eq piece (h piece hpiece).trim_eq (h piece hpiece).ne_empty
  have hwhole := union_split text
  cases hsplit : Text.split (· = '|') text with
  | nil => exact absurd (List.map_eq_nil_iff.mp hsplit) (Text.splitChars_ne_nil _ _)
  | cons first rest =>
      rw [hsplit] at hpieces hwhole
      rw [← hwhole]
      exact not_blank_union first rest hpieces

variable (hpath : TypePath.isQualified text = false)

include hpath

/-- A text without paths that is made up of settled pieces stays what it is, and needs
    nothing. -/
theorem resolve_of_isSettled :
    (r.resolve text).rendered = text ∧ (r.resolve text).requirements = {} := by
  have hpieces : ∀ piece ∈ Text.split (· = '|') text, r.resolveAlternative piece = (piece, {}) :=
    fun piece hpiece => r.resolveAlternative_of_isSettled piece (h piece hpiece)
      (not_isQualified_of_mem_split text hpath piece hpiece)
  rw [resolve_of_not_blank r text (r.not_blank_of_isSettled text h),
    r.alternatives_of_isSettled text h]
  refine ⟨?_, ?_⟩
  · rw [List.map_congr_left (g := id) fun piece hpiece => congrArg Prod.fst (hpieces piece hpiece),
      List.map_id]
    exact union_split text
  · -- No piece needs anything, so all of them can be left out.
    have hnone := Requirements.mergeAll_map_filter (fun a => (r.resolveAlternative a).2)
      (fun _ => false) (Text.split (· = '|') text)
      fun piece hpiece _ => congrArg Prod.snd (hpieces piece hpiece)
    rw [← hnone, List.filter_false]
    rfl

end Pieces

/-- The text of a type has no paths. -/
theorem not_isQualified_resolve (token : String) :
    TypePath.isQualified (r.resolve token).rendered = false :=
  TypePath.not_isQualified_of_not_isSeparator _ (r.not_isSeparator_of_mem_resolve token)

end Resolver

/-- An alternative that needs nothing does not matter to what a merge hands out, unless the
    base return type has a token for it. -/
theorem Method.mergedNeeds_filter (r : Resolver) (base : ReturnType) (merged settled : List String)
    (h : ∀ a ∈ settled, (r.resolve a).requirements = {}) :
    mergedNeeds r base merged =
      mergedNeeds r base
        (merged.filter fun a => (base.rawTypes.get? a).isSome || a ∉ settled) := by
  refine (Requirements.mergeAll_map_filter _ _ merged ?_).symm
  intro a _ hkeep
  rw [Bool.or_eq_false_iff, Option.isSome_eq_false_iff, Option.isNone_iff_eq_none,
    decide_eq_false_iff_not, not_not] at hkeep
  rw [hkeep.1, Option.getD_none]
  exact h a hkeep.2

namespace Resolver

variable (r : Resolver)

/-- A type that was resolved resolves to itself and needs nothing, if its alternatives are
    settled. So a merge that comes upon one of them neither changes it nor hands out
    anything for it, unless the base return type has a token for it: the alternatives of
    the merged type are those of the two that were merged, and what is handed out is what
    the others need. -/
theorem resolve_rendered (token : String)
    (h : ∀ piece ∈ Text.split (· = '|') (r.resolve token).rendered, r.IsSettled piece) :
    (r.resolve (r.resolve token).rendered).rendered = (r.resolve token).rendered ∧
      (r.resolve (r.resolve token).rendered).requirements = {} ∧
      (∀ a ∈ alternatives (r.resolve token).rendered,
        (r.resolve a).rendered = a ∧ (r.resolve a).requirements = {}) ∧
      ∀ (own base : Method) (t : ReturnType) (origin : MethodRef), base.returnType = some t →
        thisType ∉ Method.mergedAlternatives own.returnText base.returnText →
          alternatives (own.mergeBase base origin r).1.returnText =
              Method.mergedAlternatives own.returnText base.returnText ∧
            (own.mergeBase base origin r).2 =
              Method.mergedNeeds r t
                ((Method.mergedAlternatives own.returnText base.returnText).filter fun a =>
                  (t.rawTypes.get? a).isSome || a ∉ alternatives (r.resolve token).rendered) := by
  have hpath := r.not_isQualified_resolve token
  rcases r.resolve_of_isSettled _ h hpath with ⟨htext, hneeds⟩
  have halternatives : ∀ a ∈ alternatives (r.resolve token).rendered,
      (r.resolve a).rendered = a ∧ (r.resolve a).requirements = {} := by
    intro a ha
    have hself : Text.split (· = '|') a = [a] :=
      Text.split_eq_singleton _ a (isAlternative_of_mem _ a ha).1
    rw [r.alternatives_of_isSettled _ h] at ha
    refine r.resolve_of_isSettled a ?_ (not_isQualified_of_mem_split _ hpath a ha)
    intro piece hpiece
    rw [hself, List.mem_singleton] at hpiece
    rw [hpiece]
    exact h a ha
  refine ⟨htext, hneeds, halternatives, ?_⟩
  intro own base t origin hbase hthis
  rw [Method.mergeBase_of_some r base origin own t hbase, if_neg hthis]
  refine ⟨Method.alternatives_union_mergedAlternatives own.returnText base.returnText, ?_⟩
  exact Method.mergedNeeds_filter r t _ _ fun a ha => (halternatives a ha).2

section Example

/-- A resolver that knows two types and exchanges one token. -/
def shapeResolver : Resolver where
  substitutions := Table.ofList [("int", "number")]
  registry := Registry.ofSources
    [{ library := "lib",
       symbols := [{ kind := .enum, name := "lib.Size" }, { kind := .interface, name := "lib.Shape" }] }]

/-- A method that returns a resolved type, and one that has a token for what it returns. -/
def sizedMethods : Method × Method :=
  ({ name := "get", returnType := some { type := "number|Size[]" } },
    { name := "get",
      returnType := some { type := "Size[]|Shape", rawTypes := Table.ofList [("Shape", "lib.Shape")] } })

/-- Of the merged type only the alternative that has a token needs an import. -/
theorem resolve_rendered_sizes :
    (∀ piece ∈ Text.split (· = '|') (shapeResolver.resolve "int| lib.Size[]").rendered,
        shapeResolver.IsSettled piece) ∧
      (shapeResolver.resolve "number|Size[]").rendered = "number|Size[]" ∧
      alternatives (sizedMethods.1.mergeBase sizedMethods.2 ⟨0, 0⟩ shapeResolver).1.returnText =
        ["number", "Size[]", "Shape"] ∧
      (sizedMethods.1.mergeBase sizedMethods.2 ⟨0, 0⟩ shapeResolver).2 =
        { imports := [⟨"Shape", "lib"⟩] } := by
  have hsettled : ∀ piece ∈ Text.split (· = '|') (shapeResolver.resolve "int| lib.Size[]").rendered,
      shapeResolver.IsSettled piece := by
    decide +kernel
  rcases resolve_rendered shapeResolver "int| lib.Size[]" hsettled with ⟨htext, _, _, hmerge⟩
  have hrendered : (shapeResolver.resolve "int| lib.Size[]").rendered = "number|Size[]" := by
    decide +kernel
  rw [hrendered] at htext
  rcases hmerge sizedMethods.1 sizedMethods.2 _ ⟨0, 0⟩ rfl (by decide +kernel) with
    ⟨halternatives, hneeds⟩
  refine ⟨hsettled, htext, halternatives.trans ?_, hneeds.trans ?_⟩
  · decide +kernel
  · decide +kernel

/-- The text of a substitute can be a token that has a substitute itself. -/
example :
    let r : Resolver := { substitutions := Table.ofList [("int", "Int"), ("Int", "number")] }
    (r.resolve "int").rendered = "Int" ∧ (r.resolve "Int").rendered = "number" := by
  decide +kernel

end Example

end Resolver

end Typings
