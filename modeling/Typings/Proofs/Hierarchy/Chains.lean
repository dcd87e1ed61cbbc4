import Mathlib.Data.List.Perm.Subperm
import Mathlib.Data.List.Nodup
import Typings.Hierarchy.Cycle
import Typings.Proofs.Hierarchy.Links

/-!
# Chains of Bases

Going from class to base and on to its base either comes to an end or goes
round. A class is rooted if it comes to an end, and only rooted classes can be
finished from the roots down. A chain that ends passes no class twice, so it is
no longer than there are classes, and the search for cycles, which gives up
after so many steps, finds none exactly if every class is rooted.

## Main definitions

* `Hierarchy.ancestor?`: The class so many bases up from a class.
* `Hierarchy.Rooted`: The bases of a class come to an end.

## Theorems

* `Hierarchy.Rooted.ancestor?_ne_self`: A rooted class is not its own ancestor.
* `Hierarchy.Rooted.unique_level`: No class is at two levels above another.
* `Hierarchy.Rooted.level_lt_size`: Nothing is more levels up than there are
  classes.
* `Hierarchy.Rooted.exists_root`: A rooted class is below a class without base.
* `Hierarchy.cycle?_eq_none_iff`: There is no cycle exactly if every class is
  rooted.
-/

namespace Typings

namespace Hierarchy

/-- The class so many bases up from a class. -/
def ancestor? (h : Hierarchy) : Nat → Nat → Option Nat
  | 0, i => some i
  | levels + 1, i => (h.ancestor? levels i).bind h.baseId?

/-- The bases of a class come to an end. -/
inductive Rooted (h : Hierarchy) : Nat → Prop where
  | root (i : Nat) (hi : i < h.size) (hbase : h.baseId? i = none) : Rooted h i
  | derived (i b : Nat) (hbase : h.baseId? i = some b) (hb : Rooted h b) : Rooted h i

section Ancestors

variable (h : Hierarchy)

theorem ancestor?_zero (i : Nat) : h.ancestor? 0 i = some i := rfl

theorem ancestor?_succ (levels i : Nat) :
    h.ancestor? (levels + 1) i = (h.ancestor? levels i).bind h.baseId? := rfl

theorem ancestor?_add (k l i : Nat) :
    h.ancestor? (k + l) i = (h.ancestor? k i).bind (h.ancestor? l) := by
  induction l with
  | zero =>
      rw [Nat.add_zero]
      rcases h.ancestor? k i with _ | a <;> rfl
  | succ l ih =>
      rw [← Nat.add_assoc, ancestor?_succ, ih, Option.bind_assoc]
      rfl

/-- The way up begins with the base. -/
theorem ancestor?_succ_of_base (levels i b : Nat) (hbase : h.baseId? i = some b) :
    h.ancestor? (levels + 1) i = h.ancestor? levels b := by
  rw [Nat.add_comm, ancestor?_add, ancestor?_succ, ancestor?_zero, Option.bind_some, hbase,
    Option.bind_some]

theorem ancestor?_succ_of_root (levels i : Nat) (hbase : h.baseId? i = none) :
    h.ancestor? (levels + 1) i = none := by
  rw [Nat.add_comm, ancestor?_add, ancestor?_succ, ancestor?_zero, Option.bind_some, hbase,
    Option.bind_none]

end Ancestors

namespace Rooted

variable {h : Hierarchy} {i : Nat}

theorem lt_size (hr : h.Rooted i) : i < h.size := by
  cases hr with
  | root _ hi _ => exact hi
  | derived _ b hbase _ => exact h.lt_size_of_baseId? i b hbase

theorem base (hr : h.Rooted i) (b : Nat) (hbase : h.baseId? i = some b) : h.Rooted b := by
  cases hr with
  | root _ _ hnone =>
      rw [hnone] at hbase
      contradiction
  | derived _ b' hbase' hb =>
      rw [hbase, Option.some_inj] at hbase'
      rwa [hbase']

theorem ancestor (hr : h.Rooted i) (levels a : Nat) (ha : h.ancestor? levels i = some a) :
    h.Rooted a := by
  induction levels generalizing a with
  | zero =>
      rw [ancestor?_zero, Option.some_inj] at ha
      rwa [← ha]
  | succ k ih =>
      rw [ancestor?_succ, Option.bind_eq_some_iff] at ha
      rcases ha with ⟨b, hb, hbase⟩
      exact (ih b hb).base a hbase

/-- What is below a rooted class is rooted. -/
theorem descendant (a : Nat) (hr : h.Rooted a) (levels : Nat) (ha : h.ancestor? levels i = some a) :
    h.Rooted i := by
  induction levels generalizing a with
  | zero =>
      rw [ancestor?_zero, Option.some_inj] at ha
      rwa [ha]
  | succ k ih =>
      rw [ancestor?_succ, Option.bind_eq_some_iff] at ha
      rcases ha with ⟨b, hb, hbase⟩
      exact ih b (Rooted.derived b a hbase hr) hb

/-- A rooted class is not its own ancestor. -/
theorem ancestor?_ne_self (hr : h.Rooted i) (levels : Nat) :
    h.ancestor? (levels + 1) i ≠ some i := by
  induction hr with
  | root i _ hbase =>
      rw [ancestor?_succ_of_root h levels i hbase]
      exact nofun
  | derived i b hbase _ ih =>
      -- Going round from the class is going round from its base.
      intro hself
      rw [ancestor?_succ_of_base h levels i b hbase] at hself
      refine ih ?_
      rw [ancestor?_succ, hself, Option.bind_some, hbase]

/-- No class is at two levels above another. -/
theorem unique_level (hr : h.Rooted i) (k l a : Nat) (hk : h.ancestor? k i = some a)
    (hl : h.ancestor? l i = some a) : k = l := by
  -- From the lower of two levels the way would lead round to the same class.
  have hnot : ∀ m n, h.ancestor? m i = some a → h.ancestor? n i = some a → ¬ m < n := by
    intro m n hm hn hlt
    rcases Nat.exists_eq_add_of_lt hlt with ⟨d, rfl⟩
    rw [Nat.add_assoc, ancestor?_add, hm, Option.bind_some] at hn
    exact (hr.ancestor m a hm).ancestor?_ne_self d hn
  exact Nat.le_antisymm (Nat.le_of_not_lt (hnot l k hl hk)) (Nat.le_of_not_lt (hnot k l hk hl))

/-- A rooted class is below a class without base. -/
theorem exists_root (hr : h.Rooted i) :
    ∃ levels root, h.ancestor? levels i = some root ∧ h.baseId? root = none := by
  -- The levels count the links that the induction goes up.
  induction hr with
  | root i _ hbase => exact ⟨0, i, rfl, hbase⟩
  | derived i b hbase _ ih =>
      rcases ih with ⟨levels, root, hroot, hnone⟩
      exact ⟨levels + 1, root, by rw [ancestor?_succ_of_base h levels i b hbase, hroot], hnone⟩

/-- The classes passed on the way up differ, so there are no more of them than
    there are classes. -/
theorem level_lt_size (hr : h.Rooted i) (levels a : Nat) (ha : h.ancestor? levels i = some a) :
    levels < h.size := by
  -- The way up has no gaps, so it passes a class at every level.
  have hpassed : ∀ k ≤ levels, ∃ b, h.ancestor? k i = some b := by
    intro k hk
    rcases hget : h.ancestor? k i with _ | b
    · rw [← Nat.add_sub_cancel' hk, ancestor?_add, hget] at ha
      contradiction
    · exact ⟨b, rfl⟩
  have hnodup : ((List.range (levels + 1)).filterMap fun k => h.ancestor? k i).Nodup := by
    refine List.Nodup.filterMap ?_ List.nodup_range
    intro k l b hk hl
    exact hr.unique_level k l b hk hl
  have hsubset : ((List.range (levels + 1)).filterMap fun k => h.ancestor? k i) ⊆
      List.range h.size := by
    intro b hb
    rw [List.mem_filterMap] at hb
    rcases hb with ⟨k, _, hk⟩
    exact List.mem_range.mpr (hr.ancestor k b hk).lt_size
  have hlength : ((List.range (levels + 1)).filterMap fun k => h.ancestor? k i).length =
      levels + 1 := by
    rw [List.filterMap_length_eq_length.mpr, List.length_range]
    intro k hk
    rcases hpassed k (Nat.le_of_lt_succ (List.mem_range.mp hk)) with ⟨b, hb⟩
    rw [hb, Option.isSome_some]
  have hle := (List.subperm_of_subset hnodup hsubset).length_le
  rw [hlength, List.length_range] at hle
  exact hle

end Rooted

section Search

variable (h : Hierarchy)

/-- A search that ends without result has come to a class without base. It
    cannot have given up, since the classes it passed differ. -/
theorem rooted_of_follow_eq_none (hc : h.Consistent) (fuel : Nat) (passed : List Nat) (i : Nat)
    (hnodup : passed.Nodup) (hpassed : ∀ a ∈ passed, a < h.size) (hi : i < h.size)
    (hfuel : h.size < fuel + passed.length) (hnone : h.follow fuel passed i = none) :
    h.Rooted i := by
  -- What is passed are different classes of the hierarchy, and with the steps that
  -- are left they are more than there are.
  induction fuel generalizing passed i with
  | zero =>
      have hsubset : passed ⊆ List.range h.size := fun a ha => List.mem_range.mpr (hpassed a ha)
      have hle := (List.subperm_of_subset hnodup hsubset).length_le
      rw [List.length_range] at hle
      omega
  | succ fuel ih =>
      rw [follow] at hnone
      by_cases hmem : i ∈ passed
      · rw [if_pos hmem] at hnone
        contradiction
      · rw [if_neg hmem] at hnone
        rcases hbase : h.baseId? i with _ | b
        · exact Rooted.root i hi hbase
        · rw [hbase] at hnone
          refine Rooted.derived i b hbase (ih (i :: passed) b ?_ ?_ ?_ ?_ hnone)
          · exact List.nodup_cons.mpr ⟨hmem, hnodup⟩
          · intro a ha
            rcases List.mem_cons.mp ha with rfl | ha
            · exact hi
            · exact hpassed a ha
          · exact hc.base_lt i b hbase
          · rw [List.length_cons]
            omega

/-- From a rooted class the search finds nothing, if it has not been to any of
    the classes above. -/
theorem follow_eq_none_of_rooted (fuel : Nat) (passed : List Nat) (i : Nat) (hr : h.Rooted i)
    (hnew : ∀ k a, h.ancestor? k i = some a → a ∉ passed) : h.follow fuel passed i = none := by
  induction fuel generalizing passed i with
  | zero => rfl
  | succ fuel ih =>
      rw [follow, if_neg (hnew 0 i rfl)]
      rcases hbase : h.baseId? i with _ | b
      · rfl
      · -- The way on from the base passes neither the class nor what was passed.
        refine ih (i :: passed) b (hr.base b hbase) fun k a ha hmem => ?_
        rw [← ancestor?_succ_of_base h k i b hbase] at ha
        rcases List.mem_cons.mp hmem with rfl | hmem
        · exact hr.ancestor?_ne_self k ha
        · exact hnew (k + 1) a ha hmem

/-- The search for cycles finds none exactly if every class is rooted. -/
theorem cycle?_eq_none_iff (hc : h.Consistent) :
    h.cycle? = none ↔ ∀ i < h.size, h.Rooted i := by
  rw [cycle?, Option.map_eq_none_iff, List.findSome?_eq_none_iff]
  constructor
  · intro hnone i hi
    refine rooted_of_follow_eq_none h hc (h.size + 1) [] i List.nodup_nil ?_ hi ?_ ?_
    · exact fun a ha => absurd ha List.not_mem_nil
    · rw [List.length_nil]
      omega
    · exact hnone i (List.mem_range.mpr hi)
  · intro hrooted i hi
    exact follow_eq_none_of_rooted h (h.size + 1) [] i (hrooted i (List.mem_range.mp hi))
      fun _ _ _ => List.not_mem_nil

theorem rooted_of_acyclic (hc : h.Consistent) (hacyclic : h.cycle? = none) (i : Nat)
    (c : ClassModel) (hget : h.get? i = some c) : h.Rooted i :=
  (cycle?_eq_none_iff h hc).mp hacyclic i (h.lt_size_of_get? i c hget)

end Search

end Hierarchy

end Typings
