import Typings.Text.Order
import Mathlib.Data.List.Basic

/-!
# Sorting by Keys

What sorting keeps. It loses and invents nothing, and since it looks at keys
alone, a change of the items that leaves their keys alone can be made before
it or after it. The items come out in the order of their keys, and those with
one key in the order they had, which leaves sorting no choice.

## Main definitions

* `IsStableSort`: Items in the order of their keys, and otherwise in the order
  they had.

## Theorems

* `insertBy_perm`, `sortBy_perm`: Sorting rearranges the items.
* `mem_sortBy`: The sorted items are the items.
* `length_sortBy`: They are as many.
* `sortBy_map`: Sorting commutes with changes that keep the keys.
* `isStableSort_sortBy`: Sorting is stable.
-/

namespace Typings

namespace Text

variable {α β : Type}

theorem insertBy_perm (key : α → String) (a : α) (items : List α) :
    (insertBy key a items).Perm (a :: items) := by
  induction items with
  | nil => exact List.Perm.refl _
  | cons b rest ih =>
      by_cases hle : le (key a) (key b) = true
      · simp only [insertBy, if_pos hle, List.Perm.refl]
      · simp only [insertBy, if_neg hle]
        exact (ih.cons b).trans (List.Perm.swap a b rest)

theorem sortBy_perm (key : α → String) (items : List α) :
    (sortBy key items).Perm items := by
  induction items with
  | nil => exact List.Perm.refl _
  | cons a rest ih => exact (insertBy_perm key a (sortBy key rest)).trans (ih.cons a)

theorem mem_sortBy (key : α → String) (items : List α) (a : α) :
    a ∈ sortBy key items ↔ a ∈ items :=
  (sortBy_perm key items).mem_iff

theorem length_sortBy (key : α → String) (items : List α) :
    (sortBy key items).length = items.length :=
  (sortBy_perm key items).length_eq

theorem insertBy_map (key : β → String) (key' : α → String) (f : α → β)
    (hkey : ∀ a, key (f a) = key' a) (a : α) (items : List α) :
    insertBy key (f a) (items.map f) = (insertBy key' a items).map f := by
  -- At every step both sides compare the same two keys.
  induction items with
  | nil => rfl
  | cons b rest ih =>
      simp only [List.map_cons, insertBy, hkey]
      by_cases hle : le (key' a) (key' b) = true
      · simp only [if_pos hle, List.map_cons]
      · simp only [if_neg hle, List.map_cons, ih]

/-- Sorting commutes with changes that keep the keys. -/
theorem sortBy_map (key : β → String) (key' : α → String) (f : α → β)
    (hkey : ∀ a, key (f a) = key' a) (items : List α) :
    sortBy key (items.map f) = (sortBy key' items).map f := by
  induction items with
  | nil => rfl
  | cons a rest ih =>
      -- The rest is sorted already, so one insertion is left on both sides.
      have hstep : sortBy key ((a :: rest).map f) = insertBy key (f a) (sortBy key (rest.map f)) :=
        rfl
      rw [hstep, ih, insertBy_map key key' f hkey]
      rfl

/-- Items in the order of their keys, where items with one key stand in the order
    they had. -/
structure IsStableSort (key : α → String) (items sorted : List α) : Prop where
  ordered : sorted.Pairwise fun a b => le (key a) (key b) = true
  stable : ∀ k, sorted.filter (fun a => key a = k) = items.filter (fun a => key a = k)

theorem le_eq_true_iff (a b : String) : le a b = true ↔ a ≤ b := by
  rw [le, Bool.not_eq_true', decide_eq_false_iff_not, String.not_lt]

/-- Inserting an item into ordered items leaves them in order. -/
theorem pairwise_insertBy (key : α → String) (a : α) (items : List α)
    (h : items.Pairwise fun b c => le (key b) (key c) = true) :
    (insertBy key a items).Pairwise fun b c => le (key b) (key c) = true := by
  induction items with
  | nil => exact List.pairwise_singleton _ a
  | cons b rest ih =>
      rcases List.pairwise_cons.mp h with ⟨hfirst, hrest⟩
      by_cases hle : le (key a) (key b) = true
      · -- The item comes before the first one, and so before all others.
        simp only [insertBy, if_pos hle]
        refine List.pairwise_cons.mpr ⟨?_, h⟩
        intro c hc
        rcases List.mem_cons.mp hc with rfl | hc
        · exact hle
        · have hbc := hfirst c hc
          rw [le_eq_true_iff] at hle hbc ⊢
          exact String.le_trans hle hbc
      · simp only [insertBy, if_neg hle]
        refine List.pairwise_cons.mpr ⟨?_, ih hrest⟩
        intro c hc
        rcases List.mem_cons.mp ((insertBy_perm key a rest).mem_iff.mp hc) with rfl | hc
        · rw [le_eq_true_iff] at hle ⊢
          exact (String.le_total (key c) (key b)).resolve_left hle
        · exact hfirst c hc

/-- An inserted item stands in front of the items that have its key. -/
theorem filter_insertBy (key : α → String) (a : α) (items : List α) (k : String) :
    (insertBy key a items).filter (fun b => key b = k) =
      (a :: items).filter (fun b => key b = k) := by
  induction items with
  | nil => rfl
  | cons b rest ih =>
      by_cases hle : le (key a) (key b) = true
      · simp only [insertBy, if_pos hle]
      · -- The item goes behind another one only if their keys differ.
        have hne : key a = k → ¬ key b = k := by
          intro ha hb
          rw [ha, hb, le_eq_true_iff] at hle
          exact hle (String.le_refl k)
        simp only [insertBy, if_neg hle, List.filter_cons, ih, decide_eq_true_eq]
        by_cases ha : key a = k
        · simp only [if_pos ha, if_neg (hne ha)]
        · simp only [if_neg ha]

/-- Sorting is stable. -/
theorem isStableSort_sortBy (key : α → String) (items : List α) :
    IsStableSort key items (sortBy key items) := by
  induction items with
  | nil => exact ⟨List.Pairwise.nil, fun _ => rfl⟩
  | cons a rest ih =>
      refine ⟨pairwise_insertBy key a _ ih.ordered, ?_⟩
      intro k
      have hinsert : sortBy key (a :: rest) = insertBy key a (sortBy key rest) := rfl
      rw [hinsert, filter_insertBy, List.filter_cons, List.filter_cons, ih.stable k]

end Text

end Typings
