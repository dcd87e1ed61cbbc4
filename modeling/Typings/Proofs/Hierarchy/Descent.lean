import Mathlib.Data.Fintype.Pigeonhole
import Typings.Proofs.Hierarchy.ClosedChains
import Typings.Proofs.Hierarchy.Finishing
import Typings.Proofs.Hierarchy.Reached

/-!
# Descents

Going from the roots down is a recursion over child lists that keeps no record of
where it has been. Nothing in it says that it ever comes to an end, and below a
class that is above itself it would not. A bound on the levels makes a function
of it, but hides the question.

Here the recursion is a relation without bound, which holds of what it leads to
only if it ends (`Hierarchy.Descends`). From one hierarchy it leads to one result
by one list of visits. It ends below a class if everything below that class is
less than some number of levels down. Below a root everything is, since what has
a root above it is rooted and passes no class twice on the way up. So the descent
from all roots ends, with the result of the bounded one.

A class that is not rooted has bases at every level, and as there are only so
many classes, one of them is met again: its bases run into a cycle. No root is
above such a class, and the descent does not come near it.

## Main definitions

* `Hierarchy.Descends`: What finishing classes from some places down leads to, and
  by which visits.
* `Hierarchy.RunsIntoCycle`: The bases of a class lead to a class above itself.

## Theorems

* `Hierarchy.Descends.unique`: There is one result, and one list of visits.
* `Hierarchy.descends_visits`: A descent ends if its levels are bounded.
* `Hierarchy.not_descends_of_transGen`: A descent from a class above itself does
  not end.
* `Hierarchy.not_rooted_iff`: A class is rooted, or its bases run into a cycle.
* `Hierarchy.descends_propagate`: The descent from all roots ends, visits rooted
  classes once and after their bases, and leaves all others alone.
-/

namespace Typings

namespace Hierarchy

/-- What finishing classes from some places down leads to, and by which visits.
    Each class is finished before everything below it, and that before the next
    place. -/
inductive Descends (r : Resolver) :
    Hierarchy × List Inherited → List Nat → List Nat → Hierarchy × List Inherited → Prop where
  | done (state : Hierarchy × List Inherited) : Descends r state [] [] state
  | visit (state between result : Hierarchy × List Inherited) (i : Nat)
      (rest below after : List Nat)
      (hbelow : Descends r (finishOne r state i) ((finishOne r state i).1.childIds i) below between)
      (hafter : Descends r between rest after result) :
      Descends r state (i :: rest) (i :: (below ++ after)) result

/-- The bases of a class lead to a class above itself. -/
def RunsIntoCycle (h : Hierarchy) (i : Nat) : Prop :=
  ∃ a, Relation.ReflTransGen h.Extends i a ∧ Relation.TransGen h.Extends a a

section Descending

variable (r : Resolver)

/-- There is one result, and one list of visits. -/
theorem Descends.unique {state result result' : Hierarchy × List Inherited}
    {ids order order' : List Nat} (hd : Descends r state ids order result)
    (hd' : Descends r state ids order' result') : order' = order ∧ result' = result := by
  induction hd generalizing order' result' with
  | done state =>
      cases hd' with
      | done => exact ⟨rfl, rfl⟩
  | visit state between result i rest below after _ _ ihbelow ihafter =>
      cases hd' with
      | visit _ between' _ _ _ below' after' hbelow' hafter' =>
          -- The descents below end in one state, in which those behind begin.
          rcases ihbelow hbelow' with ⟨rfl, rfl⟩
          rcases ihafter hafter' with ⟨rfl, rfl⟩
          exact ⟨rfl, rfl⟩

variable (h : Hierarchy)

/-- A visit leaves the links alone. -/
theorem sameSkeleton_finishOne (state : Hierarchy × List Inherited) (i : Nat)
    (hsame : state.1.SameSkeleton h) : (finishOne r state i).1.SameSkeleton h :=
  fun j => (sameSkeleton_createOverloads r state.1 i j).trans (hsame j)

/-- So does a descent. -/
theorem Descends.sameSkeleton {state result : Hierarchy × List Inherited} {ids order : List Nat}
    (hd : Descends r state ids order result) (hsame : state.1.SameSkeleton h) :
    result.1.SameSkeleton h := by
  induction hd with
  | done => exact hsame
  | visit state _ _ i _ _ _ _ _ ihbelow ihafter =>
      exact ihafter (ihbelow (sameSkeleton_finishOne r h state i hsame))

/-- A descent ends if everything below its places is less than so many levels
    down. -/
theorem descends_visits (hc : h.Consistent) (levels : Nat) (ids : List Nat)
    (hlevels : ∀ i ∈ ids, ∀ k j, h.ancestor? k j = some i → k < levels)
    (state : Hierarchy × List Inherited) (hsame : state.1.SameSkeleton h) :
    Descends r state ids (ids.flatMap (h.visits levels))
      ((ids.flatMap (h.visits levels)).foldl (finishOne r) state) := by
  induction levels generalizing ids state with
  | zero =>
      cases ids with
      | nil => exact Descends.done state
      | cons i rest => exact absurd (hlevels i List.mem_cons_self 0 i rfl) (Nat.lt_irrefl 0)
  | succ levels ih =>
      induction ids generalizing state with
      | nil => exact Descends.done state
      | cons i rest ihrest =>
          have hvisited : (finishOne r state i).1.SameSkeleton h :=
            sameSkeleton_finishOne r h state i hsame
          -- What is so many levels below a child is one level further below the class.
          have hchildren : ∀ c ∈ h.childIds i, ∀ k j, h.ancestor? k j = some c → k < levels := by
            intro c hchild k j hk
            refine Nat.lt_of_succ_lt_succ (hlevels i List.mem_cons_self (k + 1) j ?_)
            rw [ancestor?_succ, hk, Option.bind_some, (hc.mem_childIds_iff i c).mp hchild]
          have hbelow := ih (h.childIds i) hchildren (finishOne r state i) hvisited
          have hafter := ihrest (fun c hmem => hlevels c (List.mem_cons_of_mem i hmem)) _
            (hbelow.sameSkeleton r h hvisited)
          rw [List.flatMap_cons, visits, List.cons_append, List.foldl_cons, List.foldl_append]
          -- The children are those that the class has when it was finished.
          rw [← childIds_of_skeleton _ h hvisited] at hbelow hafter ⊢
          exact Descends.visit state _ _ i rest _ _ hbelow hafter

/-- A descent from a class above itself does not end. -/
theorem not_descends_of_transGen (hc : h.Consistent) (state result : Hierarchy × List Inherited)
    (hsame : state.1.SameSkeleton h) (ids order : List Nat) (i : Nat) (hi : i ∈ ids)
    (hcycle : Relation.TransGen h.Extends i i) : ¬ Descends r state ids order result := by
  -- A child of such a class is above itself too, so the descent below that child
  -- would have to end before this one does.
  intro hd
  induction hd generalizing i with
  | done => exact absurd hi List.not_mem_nil
  | visit state between result j rest below after hbelow hafter ihbelow ihafter =>
      have hvisited : (finishOne r state j).1.SameSkeleton h :=
        sameSkeleton_finishOne r h state j hsame
      by_cases hij : i = j
      · -- The last class before the cycle closes is a child of the one it closes with.
        rw [← hij] at ihbelow hvisited
        rcases Relation.TransGen.tail'_iff.mp hcycle with ⟨c, hup, hbase⟩
        refine ihbelow hvisited c ?_ (Relation.TransGen.head' hbase hup)
        rw [childIds_of_skeleton _ h hvisited]
        exact (hc.mem_childIds_iff i c).mpr hbase
      · have hbetween : between.1.SameSkeleton h := hbelow.sameSkeleton r h hvisited
        exact ihafter hbetween i ((List.mem_cons.mp hi).resolve_left hij) hcycle

end Descending

section Cycles

variable (h : Hierarchy)

theorem reflTransGen_iff (i a : Nat) :
    Relation.ReflTransGen h.Extends i a ↔ ∃ levels, h.ancestor? levels i = some a := by
  rw [Relation.reflTransGen_iff_eq_or_transGen, transGen_iff]
  constructor
  · rintro (rfl | ⟨levels, hlevels⟩)
    · exact ⟨0, rfl⟩
    · exact ⟨levels + 1, hlevels⟩
  · rintro ⟨levels, hlevels⟩
    cases levels with
    | zero =>
        rw [ancestor?_zero, Option.some_inj] at hlevels
        exact Or.inl hlevels.symm
    | succ levels => exact Or.inr ⟨levels, hlevels⟩

/-- A class that is not rooted has bases at every level. -/
theorem exists_ancestor?_of_not_rooted (hc : h.Consistent) (i : Nat) (hi : i < h.size)
    (hnot : ¬ h.Rooted i) (levels : Nat) : ∃ a < h.size, h.ancestor? levels i = some a := by
  induction levels with
  | zero => exact ⟨i, hi, rfl⟩
  | succ levels ih =>
      rcases ih with ⟨a, ha, hlevels⟩
      rcases hbase : h.baseId? a with _ | b
      · exact absurd ((Rooted.root a ha hbase).descendant a levels hlevels) hnot
      · refine ⟨b, hc.base_lt a b hbase, ?_⟩
        rw [ancestor?_succ, hlevels, Option.bind_some, hbase]

/-- A class is rooted, or its bases run into a cycle. -/
theorem not_rooted_iff (hc : h.Consistent) (i : Nat) (hi : i < h.size) :
    ¬ h.Rooted i ↔ h.RunsIntoCycle i := by
  constructor
  · intro hnot
    -- There are more levels than classes, so two of them have the same class.
    choose above hlt habove using exists_ancestor?_of_not_rooted h hc i hi hnot
    have hcard : Fintype.card (Fin h.size) < Fintype.card (Fin (h.size + 1)) := by
      rw [Fintype.card_fin, Fintype.card_fin]
      exact Nat.lt_succ_self h.size
    rcases Fintype.exists_ne_map_eq_of_card_lt
      (fun k : Fin (h.size + 1) => (⟨above k, hlt k⟩ : Fin h.size)) hcard with ⟨k, l, hne, heq⟩
    -- From the lower of the two levels the way leads round to the same class.
    have hmeets : ∀ m n, m < n → above m = above n → h.RunsIntoCycle i := by
      intro m n hmn hsame
      rcases Nat.exists_eq_add_of_lt hmn with ⟨d, rfl⟩
      refine ⟨above m, (h.reflTransGen_iff i _).mpr ⟨m, habove m⟩,
        (h.transGen_iff _ _).mpr ⟨d, ?_⟩⟩
      have hagain := habove (m + d + 1)
      rwa [Nat.add_assoc, ancestor?_add, habove m, Option.bind_some, ← Nat.add_assoc,
        ← hsame] at hagain
    have habove' : above k = above l := congrArg Fin.val heq
    rcases Nat.lt_or_gt_of_ne (Fin.val_ne_of_ne hne) with hkl | hlk
    · exact hmeets k l hkl habove'
    · exact hmeets l k hlk habove'.symm
  · rintro ⟨a, hup, hcycle⟩ hr
    rcases (h.reflTransGen_iff i a).mp hup with ⟨levels, hlevels⟩
    rcases (h.transGen_iff a a).mp hcycle with ⟨around, haround⟩
    exact (hr.ancestor levels a hlevels).ancestor?_ne_self around haround

end Cycles

/-- However a hierarchy was reached, the descent from its roots comes to an end,
    and to the result of the bounded one. It visits each class whose bases come to
    an end once, after its base, and any other class has bases that run into a
    cycle. Such a class is not visited, and left as it was. -/
theorem descends_propagate (r : Resolver) (h : Hierarchy) (hr : h.Reached) :
    ∃ order, Descends r (h, []) h.roots order (h.propagate r) ∧
      (∀ order' result, Descends r (h, []) h.roots order' result →
        order' = order ∧ result = h.propagate r) ∧
      order.Nodup ∧ h.BasesFirst [] order ∧ (∀ i, i ∈ order ↔ h.Rooted i) ∧
      (∀ i < h.size, h.Rooted i ∨ h.RunsIntoCycle i) ∧
      ∀ i, h.RunsIntoCycle i → i ∉ order ∧ (h.propagate r).1.get? i = h.get? i := by
  have hc : h.Consistent := hr.consistent
  have hdescends : Descends r (h, []) h.roots h.visitOrder (h.propagate r) := by
    rw [propagate_eq]
    refine descends_visits r h hc h.size h.roots (fun i hi k j hk => ?_) (h, []) fun _ => rfl
    rcases (hc.mem_roots_iff i).mp hi with ⟨hlt, hbase⟩
    exact ((Rooted.root i hlt hbase).descendant i k hk).level_lt_size k i hk
  -- A cycle above a rooted class would be one of rooted classes.
  have hspared : ∀ i, h.RunsIntoCycle i → i ∉ h.visitOrder := by
    intro i hcycle hmem
    have hrooted : h.Rooted i := (mem_visitOrder_iff h hc i).mp hmem
    exact (not_rooted_iff h hc i hrooted.lt_size).mpr hcycle hrooted
  refine ⟨h.visitOrder, hdescends, fun _ _ hd => hdescends.unique r hd, nodup_visitOrder h hc,
    basesFirst_visitOrder h hc, mem_visitOrder_iff h hc, ?_, ?_⟩
  · intro i hi
    by_cases hrooted : h.Rooted i
    · exact Or.inl hrooted
    · exact Or.inr ((not_rooted_iff h hc i hi).mp hrooted)
  · intro i hcycle
    refine ⟨hspared i hcycle, (progress_propagate r h hc).untouched i ?_⟩
    rw [List.append_nil, List.mem_reverse]
    exact hspared i hcycle

section Example

/-- The classes of the source linked to their declared bases, and one of them to
    the class that is its own base. -/
def halfTangledClasses : Hierarchy :=
  (ofSources {} .class .class [tangledSource]).link.1.setBase 3 2

theorem reached_halfTangledClasses : halfTangledClasses.Reached :=
  Reached.setBase _ 3 2 (by decide +kernel) (by decide +kernel)
    (Reached.link _ (reached_ofSources {} _ _ _))

/-- Two classes are below the only root, and the descent finishes these three. The
    class that is its own base and the one below it are left as they were. -/
theorem descends_halfTangledClasses :
    halfTangledClasses.Reached ∧
      (List.range 5).map halfTangledClasses.baseId? = [some 1, none, some 2, some 2, some 1] ∧
      halfTangledClasses.RunsIntoCycle 3 ∧
      (∃ order, Descends {} (halfTangledClasses, []) halfTangledClasses.roots order
          (halfTangledClasses.propagate {}) ∧
        order.Nodup ∧ 0 ∈ order ∧ 1 ∈ order ∧ 4 ∈ order ∧ 2 ∉ order ∧ 3 ∉ order) ∧
      (halfTangledClasses.propagate {}).1.get? 0 ≠ halfTangledClasses.get? 0 ∧
      (halfTangledClasses.propagate {}).1.get? 3 = halfTangledClasses.get? 3 := by
  have hbase : halfTangledClasses.baseId? 2 = some 2 := by decide +kernel
  have hbase' : halfTangledClasses.baseId? 3 = some 2 := by decide +kernel
  have hself : Relation.TransGen halfTangledClasses.Extends 2 2 := Relation.TransGen.single hbase
  have hon : halfTangledClasses.RunsIntoCycle 2 := ⟨2, Relation.ReflTransGen.refl, hself⟩
  have hbelow : halfTangledClasses.RunsIntoCycle 3 :=
    ⟨2, Relation.ReflTransGen.single hbase', hself⟩
  have hroot : halfTangledClasses.Rooted 1 :=
    Rooted.root 1 (by decide +kernel) (by decide +kernel)
  have hfirst : halfTangledClasses.Rooted 0 := Rooted.derived 0 1 (by decide +kernel) hroot
  have hlast : halfTangledClasses.Rooted 4 := Rooted.derived 4 1 (by decide +kernel) hroot
  rcases descends_propagate {} halfTangledClasses reached_halfTangledClasses with
    ⟨order, hdescends, _, hnodup, _, hmem, _, hspared⟩
  exact ⟨reached_halfTangledClasses, by decide +kernel, hbelow,
    ⟨order, hdescends, hnodup, (hmem 0).mpr hfirst, (hmem 1).mpr hroot, (hmem 4).mpr hlast,
      (hspared 2 hon).1, (hspared 3 hbelow).1⟩,
    by decide +kernel, (hspared 3 hbelow).2⟩

end Example

end Hierarchy

end Typings
