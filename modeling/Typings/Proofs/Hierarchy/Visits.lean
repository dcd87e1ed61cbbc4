import Typings.Proofs.Hierarchy.Chains

/-!
# The Order of Visits

From the roots down, a class before everything below it: the order in which
classes are finished, as a list of places. It does not depend on what is done at
a place, only on the links, and these are the same throughout.

The walk goes down at most so many levels as there are classes and keeps no
record of where it has been. That it misses no rooted class and visits none
twice is a matter of the links agreeing in both directions. A class visited
below another has that one so many bases up, and a rooted class has no other
class at two levels above it.

## Main definitions

* `Hierarchy.visits`: The places visited from one place down.
* `Hierarchy.visitOrder`: The places visited from all roots down.
* `Hierarchy.BasesFirst`: Every class of a list comes after its base.

## Theorems

* `Hierarchy.mem_visits_iff`: What is visited from a place down.
* `Hierarchy.mem_visitOrder_iff`: Exactly the rooted classes are visited.
* `Hierarchy.nodup_visitOrder`: No class is visited twice.
* `Hierarchy.basesFirst_visitOrder`: Bases are visited first.
-/

namespace Typings

namespace Hierarchy

/-- The places visited from a place down, going down at most so many levels. -/
def visits (h : Hierarchy) : Nat → Nat → List Nat
  | 0, _ => []
  | levels + 1, i => i :: (h.childIds i).flatMap (h.visits levels)

/-- The places visited from all roots down. -/
def visitOrder (h : Hierarchy) : List Nat :=
  h.roots.flatMap (h.visits h.size)

/-- Every class of a list comes after its base, where some classes have come
    before. -/
def BasesFirst (h : Hierarchy) : List Nat → List Nat → Prop
  | _, [] => True
  | done, i :: rest => (∀ b, h.baseId? i = some b → b ∈ done) ∧ h.BasesFirst (i :: done) rest

namespace Consistent

variable {h : Hierarchy}

theorem mem_childIds_iff (hc : h.Consistent) (i d : Nat) :
    d ∈ h.childIds i ↔ h.baseId? d = some i := by
  rw [childIds]
  rcases hget : h.get? i with _ | c
  · refine ⟨fun hd => absurd hd List.not_mem_nil, fun hd => ?_⟩
    rcases h.exists_get? i (hc.base_lt d i hd) with ⟨c, hsome⟩
    rw [hget] at hsome
    contradiction
  · exact hc.mem_children i c hget d

theorem nodup_childIds (hc : h.Consistent) (i : Nat) : (h.childIds i).Nodup := by
  rw [childIds]
  rcases hget : h.get? i with _ | c
  · exact List.nodup_nil
  · exact hc.nodup_children i c hget

theorem mem_roots_iff (hc : h.Consistent) (i : Nat) :
    i ∈ h.roots ↔ i < h.size ∧ h.baseId? i = none := by
  simp only [roots, List.mem_map, List.mem_filter, hc.mem_classes_iff, Option.isNone_iff_eq_none]
  constructor
  · rintro ⟨c, ⟨hget, hbase⟩, rfl⟩
    refine ⟨h.lt_size_of_get? c.id c hget, ?_⟩
    rw [baseId?, hget]
    exact hbase
  · rintro ⟨hi, hbase⟩
    rcases h.exists_get? i hi with ⟨c, hget⟩
    have hid : c.id = i := hc.id_eq i c hget
    rw [baseId?, hget] at hbase
    exact ⟨c, ⟨by rwa [hid], hbase⟩, hid⟩

theorem nodup_roots (hc : h.Consistent) : h.roots.Nodup := by
  have hids : (h.classes.toList.map (·.id)).Nodup := by
    rw [hc.map_id_classes]
    exact List.nodup_range
  exact (List.filter_sublist.map _).nodup hids

end Consistent

variable (h : Hierarchy)

/-- The classes visited from a place down are those that have the place less
    than so many bases up. -/
theorem mem_visits_iff (hc : h.Consistent) (levels i j : Nat) :
    j ∈ h.visits levels i ↔ ∃ k < levels, h.ancestor? k j = some i := by
  -- One level down is one level less to go up: from the child that is passed on
  -- the way, whose base is the place itself.
  induction levels generalizing i with
  | zero =>
      simp only [visits, List.not_mem_nil, Nat.not_lt_zero, false_and, exists_false]
  | succ levels ih =>
      simp only [visits, List.mem_cons, List.mem_flatMap, ih, hc.mem_childIds_iff]
      constructor
      · rintro (rfl | ⟨c, hbase, k, hk, hancestor⟩)
        · exact ⟨0, Nat.succ_pos levels, rfl⟩
        · refine ⟨k + 1, Nat.succ_lt_succ hk, ?_⟩
          rw [ancestor?_succ, hancestor, Option.bind_some, hbase]
      · rintro ⟨k, hk, hancestor⟩
        cases k with
        | zero =>
            rw [ancestor?_zero, Option.some_inj] at hancestor
            exact Or.inl hancestor
        | succ k =>
            rw [ancestor?_succ, Option.bind_eq_some_iff] at hancestor
            rcases hancestor with ⟨c, hc', hbase⟩
            exact Or.inr ⟨c, hbase, k, Nat.lt_of_succ_lt_succ hk, hc'⟩

/-- Nothing is visited twice from a rooted place down. -/
theorem nodup_visits (hc : h.Consistent) (levels i : Nat) (hr : h.Rooted i) :
    (h.visits levels i).Nodup := by
  induction levels generalizing i with
  | zero => exact List.nodup_nil
  | succ levels ih =>
      rw [visits, List.nodup_cons, List.nodup_flatMap]
      refine ⟨?_, ?_, ?_⟩
      · -- A visit below a child would make the class its own ancestor.
        intro hmem
        rcases List.mem_flatMap.mp hmem with ⟨c, hchild, hvisit⟩
        rcases (mem_visits_iff h hc levels c i).mp hvisit with ⟨k, _, hk⟩
        refine hr.ancestor?_ne_self k ?_
        rw [ancestor?_succ, hk, Option.bind_some, (hc.mem_childIds_iff i c).mp hchild]
      · intro c hchild
        exact ih c (Rooted.derived c i ((hc.mem_childIds_iff i c).mp hchild) hr)
      · -- Below two children at once a class would be at one level below both.
        refine (hc.nodup_childIds i).imp_of_mem ?_
        intro c d hchild hchild' hne j hvisit hvisit'
        rcases (mem_visits_iff h hc levels c j).mp hvisit with ⟨k, _, hk⟩
        rcases (mem_visits_iff h hc levels d j).mp hvisit' with ⟨l, _, hl⟩
        have hup : h.ancestor? (k + 1) j = some i := by
          rw [ancestor?_succ, hk, Option.bind_some, (hc.mem_childIds_iff i c).mp hchild]
        have hup' : h.ancestor? (l + 1) j = some i := by
          rw [ancestor?_succ, hl, Option.bind_some, (hc.mem_childIds_iff i d).mp hchild']
        have hlevel : k = l :=
          Nat.succ.inj ((hr.descendant i (k + 1) hup).unique_level (k + 1) (l + 1) i hup hup')
        rw [hlevel, hl, Option.some_inj] at hk
        exact hne hk.symm

/-- Exactly the rooted classes are visited. -/
theorem mem_visitOrder_iff (hc : h.Consistent) (j : Nat) : j ∈ h.visitOrder ↔ h.Rooted j := by
  simp only [visitOrder, List.mem_flatMap, hc.mem_roots_iff, mem_visits_iff h hc]
  constructor
  · rintro ⟨i, ⟨hi, hbase⟩, k, _, hk⟩
    exact (Rooted.root i hi hbase).descendant i k hk
  · intro hr
    rcases hr.exists_root with ⟨k, i, hk, hbase⟩
    exact ⟨i, ⟨(hr.ancestor k i hk).lt_size, hbase⟩, k, hr.level_lt_size k i hk, hk⟩

/-- No class is visited twice. -/
theorem nodup_visitOrder (hc : h.Consistent) : h.visitOrder.Nodup := by
  rw [visitOrder, List.nodup_flatMap]
  refine ⟨?_, ?_⟩
  · intro i hi
    rcases (hc.mem_roots_iff i).mp hi with ⟨hlt, hbase⟩
    exact nodup_visits h hc h.size i (Rooted.root i hlt hbase)
  · refine hc.nodup_roots.imp_of_mem ?_
    intro a b ha hb hne j hvisit hvisit'
    rcases (mem_visits_iff h hc h.size a j).mp hvisit with ⟨k, _, hk⟩
    rcases (mem_visits_iff h hc h.size b j).mp hvisit' with ⟨l, _, hl⟩
    -- Nothing is above a root, so both roots are the same number of levels up.
    have hnot : ∀ m n r s, h.ancestor? m j = some r → h.ancestor? n j = some s →
        h.baseId? r = none → ¬ m < n := by
      intro m n r s hm hn hnone hlt
      rcases Nat.exists_eq_add_of_lt hlt with ⟨d, rfl⟩
      rw [Nat.add_assoc, ancestor?_add, hm, Option.bind_some,
        ancestor?_succ_of_root h d r hnone] at hn
      contradiction
    have hlevel : k = l := Nat.le_antisymm
      (Nat.le_of_not_lt (hnot l k b a hl hk ((hc.mem_roots_iff b).mp hb).2))
      (Nat.le_of_not_lt (hnot k l a b hk hl ((hc.mem_roots_iff a).mp ha).2))
    rw [hlevel, hl, Option.some_inj] at hk
    exact hne hk.symm

theorem basesFirst_weaken (done done' order : List Nat) (hsub : done ⊆ done')
    (hfirst : h.BasesFirst done order) : h.BasesFirst done' order := by
  induction order generalizing done done' with
  | nil => trivial
  | cons i rest ih =>
      exact ⟨fun b hb => hsub (hfirst.1 b hb),
        ih (i :: done) (i :: done') (List.cons_subset_cons i hsub) hfirst.2⟩

theorem basesFirst_append (done first second : List Nat) (hfirst : h.BasesFirst done first)
    (hsecond : h.BasesFirst done second) : h.BasesFirst done (first ++ second) := by
  induction first generalizing done with
  | nil => exact hsecond
  | cons i rest ih =>
      exact ⟨hfirst.1, ih (i :: done) hfirst.2
        (basesFirst_weaken h done (i :: done) second (List.subset_cons_self i done) hsecond)⟩

theorem basesFirst_flatMap (done ids : List Nat) (visit : Nat → List Nat)
    (hfirst : ∀ i ∈ ids, h.BasesFirst done (visit i)) : h.BasesFirst done (ids.flatMap visit) := by
  induction ids with
  | nil => trivial
  | cons i rest ih =>
      rw [List.flatMap_cons]
      exact basesFirst_append h done _ _ (hfirst i List.mem_cons_self)
        (ih fun j hj => hfirst j (List.mem_cons_of_mem i hj))

theorem basesFirst_visits (hc : h.Consistent) (levels i : Nat) (done : List Nat)
    (hbase : ∀ b, h.baseId? i = some b → b ∈ done) : h.BasesFirst done (h.visits levels i) := by
  -- The base of every child is the class that was just visited.
  induction levels generalizing i done with
  | zero => trivial
  | succ levels ih =>
      refine ⟨hbase, basesFirst_flatMap h (i :: done) _ _ fun c hchild => ih c (i :: done) ?_⟩
      intro b hb
      rw [(hc.mem_childIds_iff i c).mp hchild, Option.some_inj] at hb
      exact hb ▸ List.mem_cons_self

/-- Bases are visited first. -/
theorem basesFirst_visitOrder (hc : h.Consistent) : h.BasesFirst [] h.visitOrder := by
  refine basesFirst_flatMap h [] _ _ fun i hi => basesFirst_visits h hc h.size i [] ?_
  intro b hb
  rw [((hc.mem_roots_iff i).mp hi).2] at hb
  contradiction

end Hierarchy

end Typings
