import Typings.Proofs.Resolve

/-!
# Resolving Unions

A union is a token with bars in it, and its parts may be unions themselves. A bar
between two tokens separates an alternative of the one from an alternative of the
other and is in none of them, so the alternatives of a union are those of its parts,
one after the other, and so are their texts.

What the parts need is less plain. The needs of a token are gathered alternative by
alternative, and each is only gathered once, so what the second part needs may have
been gathered with the first. That is no different from gathering the needs of both
parts on their own and merging them afterwards.

A blank part is an exception. On its own it says nothing about its type and has no
alternatives, but in a union it is an alternative like any other.

## Theorems

* `Text.isBlankText_append`: When texts put together are blank.
* `alternatives_append_bar`: The alternatives of a union.
* `union_append`: Members put together in two parts.
* `Resolver.resolve_append_bar`, `Resolver.resolve_union_cons`: Two parts of a union,
  and any number of them.
* `Resolver.resolve_union`: Unions resolve part by part.
-/

namespace Typings

theorem Text.isBlankText_append (a b : String) :
    isBlankText (a ++ b) = (isBlankText a && isBlankText b) := by
  rw [isBlankText, String.toList_append, List.all_append]
  rfl

/-- A bar is no blank. -/
theorem not_blank_append_bar (a b : String) : Text.isBlankText (a ++ "|" ++ b) = false := by
  rw [Text.isBlankText_append, Text.isBlankText_append, Bool.and_eq_false_iff]
  exact Or.inl (Bool.and_eq_false_iff.mpr (Or.inr (by decide)))

/-- A union is not blank: it has a bar, or it is its only part. -/
theorem not_blank_union (first : String) (rest : List String)
    (hparts : ∀ t ∈ first :: rest, Text.isBlankText t = false) :
    Text.isBlankText (union (first :: rest)) = false := by
  cases rest with
  | nil => exact hparts first List.mem_cons_self
  | cons next more => exact not_blank_append_bar first (union (next :: more))

/-- A bar separates the alternatives of two tokens and is in none of them. -/
theorem alternatives_append_bar (a b : String) :
    alternatives (a ++ "|" ++ b) = alternatives a ++ alternatives b := by
  have hsplit : Text.split (· = '|') (a ++ "|" ++ b) =
      Text.split (· = '|') a ++ Text.split (· = '|') b :=
    Text.split_append_separator (· = '|') a b '|' rfl
  rw [alternatives, hsplit, List.map_append]
  rfl

/-- Members put together in two parts. -/
theorem union_append (first second : List String) (hfirst : first ≠ []) (hsecond : second ≠ []) :
    union (first ++ second) = union first ++ "|" ++ union second := by
  induction first with
  | nil => exact absurd rfl hfirst
  | cons member rest ih =>
      -- The last member of the first part has a bar behind it only in the whole.
      cases rest with
      | nil =>
          cases second with
          | nil => exact absurd rfl hsecond
          | cons next more => rfl
      | cons next more =>
          have hwhole : union (member :: next :: more ++ second) =
              member ++ "|" ++ union (next :: more ++ second) := rfl
          have hpart : union (member :: next :: more) =
              member ++ "|" ++ union (next :: more) := rfl
          rw [hwhole, hpart, ih (List.cons_ne_nil next more)]
          simp only [String.append_assoc]

namespace Resolver

variable (r : Resolver)

/-- What a token needs was merged already. -/
theorem mergeAll_requirements (token : String) :
    Requirements.mergeAll [(r.resolve token).requirements] = (r.resolve token).requirements := by
  cases hblank : Text.isBlankText token with
  | true =>
      rw [resolve_of_blank r token hblank]
      rfl
  | false =>
      rw [resolve_of_not_blank r token hblank]
      exact Requirements.empty_merge_mergeAll _

/-- Two parts of a union are resolved on their own. -/
theorem resolve_append_bar (a b : String) (ha : Text.isBlankText a = false)
    (hb : Text.isBlankText b = false) :
    r.resolve (a ++ "|" ++ b) =
      { rendered := (r.resolve a).rendered ++ "|" ++ (r.resolve b).rendered
        requirements := (r.resolve a).requirements.merge (r.resolve b).requirements
        rawTypes := (r.resolve a).rawTypes ++ (r.resolve b).rawTypes } := by
  have hne : ∀ token, (alternatives token).map (fun a => (r.resolveAlternative a).1) ≠ [] :=
    fun token => mt List.map_eq_nil_iff.mp (alternatives_ne_nil token)
  rw [resolve_of_not_blank r _ (not_blank_append_bar a b), resolve_of_not_blank r a ha,
    resolve_of_not_blank r b hb, alternatives_append_bar, List.map_append, List.map_append,
    List.map_append, union_append _ _ (hne a) (hne b), Requirements.mergeAll_append]

/-- The parts of a union are resolved one after the other. -/
theorem resolve_union_cons (first : String) (rest : List String)
    (hparts : ∀ t ∈ first :: rest, Text.isBlankText t = false) :
    r.resolve (union (first :: rest)) =
      { rendered := union ((first :: rest).map fun t => (r.resolve t).rendered)
        requirements :=
          Requirements.mergeAll ((first :: rest).map fun t => (r.resolve t).requirements)
        rawTypes := (first :: rest).flatMap fun t => (r.resolve t).rawTypes } := by
  induction rest generalizing first with
  | nil =>
      rw [List.map_singleton, List.map_singleton, List.flatMap_singleton, mergeAll_requirements]
      rfl
  | cons next more ih =>
      have hfirst := hparts first List.mem_cons_self
      have hrest : ∀ t ∈ next :: more, Text.isBlankText t = false :=
        fun t ht => hparts t (List.mem_cons_of_mem first ht)
      have hunion : union (first :: next :: more) = first ++ "|" ++ union (next :: more) := rfl
      have hneeds : Requirements.mergeAll
          ((first :: next :: more).map fun t => (r.resolve t).requirements) =
            (r.resolve first).requirements.merge
              (Requirements.mergeAll ((next :: more).map fun t => (r.resolve t).requirements)) := by
        rw [List.map_cons, ← List.singleton_append, Requirements.mergeAll_append,
          mergeAll_requirements]
      have hblank := not_blank_union next more hrest
      rw [hunion, resolve_append_bar r first _ hfirst hblank, ih next hrest, hneeds]
      rfl

/-- Unions resolve part by part, in order. The text of a union is that of its parts with
    bars between them, its tokens are those of its parts, and it needs what its parts
    need, each import and each unknown token once, where it is first needed. -/
theorem resolve_union (a b : String) (ha : Text.isBlankText a = false)
    (hb : Text.isBlankText b = false) :
    (r.resolve (a ++ "|" ++ b)).rendered = (r.resolve a).rendered ++ "|" ++ (r.resolve b).rendered ∧
      (r.resolve (a ++ "|" ++ b)).rawTypes = (r.resolve a).rawTypes ++ (r.resolve b).rawTypes ∧
      (r.resolve (a ++ "|" ++ b)).requirements =
        (r.resolve a).requirements.merge (r.resolve b).requirements ∧
      ∀ rest : List String, (∀ t ∈ rest, Text.isBlankText t = false) →
        (r.resolve (union (a :: rest))).rendered =
            union ((a :: rest).map fun t => (r.resolve t).rendered) ∧
          (r.resolve (union (a :: rest))).rawTypes =
            (a :: rest).flatMap (fun t => (r.resolve t).rawTypes) ∧
          (r.resolve (union (a :: rest))).requirements =
            Requirements.mergeAll ((a :: rest).map fun t => (r.resolve t).requirements) := by
  refine ⟨?_, ?_, ?_, ?_⟩
  · rw [resolve_append_bar r a b ha hb]
  · rw [resolve_append_bar r a b ha hb]
  · rw [resolve_append_bar r a b ha hb]
  · intro rest hrest
    rw [resolve_union_cons r a rest (List.forall_mem_cons.mpr ⟨ha, hrest⟩)]
    exact ⟨rfl, rfl, rfl⟩

section Example

/-- A resolver that knows one enum and exchanges one token. -/
def sizeResolver : Resolver where
  substitutions := Table.ofList [("int", "number")]
  registry := Registry.ofSources
    [{ library := "lib", symbols := [{ kind := .enum, name := "lib.Size" }] }]

/-- The second union needs the enum that the first one has needed already, and a type that
    nobody declares. -/
theorem resolve_union_sizes :
    Text.isBlankText "int|lib.Size[]" = false ∧
      Text.isBlankText " lib.Size | lib.Shape" = false ∧
      (sizeResolver.resolve "int|lib.Size[]| lib.Size | lib.Shape").rendered =
        "number|Size[]" ++ "|" ++ "Size|any" ∧
      (sizeResolver.resolve "int|lib.Size[]| lib.Size | lib.Shape").requirements =
        { imports := [⟨"Size", "lib"⟩], unresolved := ["lib.Shape"] } ∧
      (sizeResolver.resolve "int|lib.Size[]| lib.Size | lib.Shape|int").rawTypes =
        [("number", "int"), ("Size[]", "lib.Size[]"), ("Size", "lib.Size"), ("any", "lib.Shape"),
          ("number", "int")] := by
  have ha : Text.isBlankText "int|lib.Size[]" = false := by decide
  have hb : Text.isBlankText " lib.Size | lib.Shape" = false := by decide
  rcases resolve_union sizeResolver "int|lib.Size[]" " lib.Size | lib.Shape" ha hb with
    ⟨htext, _, hneeds, hall⟩
  rcases hall [" lib.Size | lib.Shape", "int"] (by decide) with ⟨_, htokens, _⟩
  refine ⟨ha, hb, htext.trans ?_, hneeds.trans ?_, htokens.trans ?_⟩
  · decide +kernel
  · decide +kernel
  · decide +kernel

end Example

end Resolver

end Typings
