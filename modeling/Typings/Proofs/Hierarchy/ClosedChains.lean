import Mathlib.Data.List.Chain
import Typings.Proofs.Hierarchy.Chains

/-!
# Closed Chains

The search for cycles reports places, and these are a way along bases that leads
back to where it began and passes nothing else twice. The search follows bases
with a list of what it passed, so that list, read backwards, is such a way up to
the place where the search is. When it comes to a place that is in the list, what
was passed since is the cycle, and what was passed before only led there.

Classes that the search has been to without running into a cycle need not be
gone through again. A search that marks them and stops at them reports the same
cycle, since no marked class leads into one.

## Main definitions

* `ClosedChain`: Places that lead back to the first of them.
* `Hierarchy.Extends`: The step from a class to its base.
* `Hierarchy.searchMarked`: The search that stops at marked classes.

## Theorems

* `ClosedChain.transGen`: The first place of a closed chain leads to itself.
* `Hierarchy.transGen_iff`: What is above a class, as a number of steps.
* `Hierarchy.closedChain_of_follow`: What one search finds is closed.
* `Hierarchy.closedChain_of_cycle?`: What is reported are the names of a closed
  chain.
* `Hierarchy.exists_cycle?_iff`: There is a report exactly if some class is above
  itself.
* `Hierarchy.cycle?_eq_searchMarked`: Marking classes changes nothing.
-/

namespace Typings

/-- Places that lead from the first one back to it and pass no place twice
    before. -/
def ClosedChain (next : Nat → Nat → Prop) (ids : List Nat) : Prop :=
  ∃ first rest, ids = first :: rest ++ [first] ∧ (first :: rest).Nodup ∧ ids.IsChain next

theorem transGen_of_isChain {next : Nat → Nat → Prop} (a b : Nat) (between : List Nat)
    (hchain : (a :: between ++ [b]).IsChain next) : Relation.TransGen next a b := by
  induction between generalizing a with
  | nil => exact Relation.TransGen.single (List.isChain_pair.mp hchain)
  | cons c rest ih =>
      rw [List.cons_append, List.cons_append, List.isChain_cons_cons] at hchain
      exact Relation.TransGen.head hchain.1 (ih c hchain.2)

/-- The first place of a closed chain leads to itself. -/
theorem ClosedChain.transGen {next : Nat → Nat → Prop} {ids : List Nat}
    (hclosed : ClosedChain next ids) : ∃ first, Relation.TransGen next first first := by
  rcases hclosed with ⟨first, rest, rfl, _, hchain⟩
  exact ⟨first, transGen_of_isChain first first rest hchain⟩

/-- Every place of a closed chain leads to another. -/
theorem ClosedChain.exists_next {next : Nat → Nat → Prop} {ids : List Nat}
    (hclosed : ClosedChain next ids) (i : Nat) (hi : i ∈ ids) : ∃ j, next i j := by
  rcases hclosed with ⟨first, rest, rfl, _, hchain⟩
  -- The last place is the first one, so every place comes before another.
  have hmem : i ∈ first :: rest := by
    rcases List.mem_append.mp hi with hi | hi
    · exact hi
    · rw [List.mem_singleton.mp hi]
      exact List.mem_cons_self
  rcases List.append_of_mem hmem with ⟨before, after, hsplit⟩
  rw [hsplit, List.append_assoc] at hchain
  have hfrom := hchain.right_of_append
  cases after with
  | nil => exact ⟨first, List.isChain_pair.mp hfrom⟩
  | cons j after =>
      rw [List.cons_append, List.cons_append, List.isChain_cons_cons] at hfrom
      exact ⟨j, hfrom.1⟩

namespace Hierarchy

/-- The step from a class to its base. -/
def Extends (h : Hierarchy) (i b : Nat) : Prop :=
  h.baseId? i = some b

section Search

variable (h : Hierarchy)

/-- What is above a class is so many steps up. -/
theorem transGen_iff (i a : Nat) :
    Relation.TransGen h.Extends i a ↔ ∃ levels, h.ancestor? (levels + 1) i = some a := by
  constructor
  · intro hup
    induction hup with
    | single hstep => exact ⟨0, hstep⟩
    | tail _ hstep ih =>
        rcases ih with ⟨levels, hlevels⟩
        exact ⟨levels + 1, by rw [ancestor?_succ, hlevels, Option.bind_some, hstep]⟩
  · rintro ⟨levels, hlevels⟩
    induction levels generalizing a with
    | zero => exact Relation.TransGen.single hlevels
    | succ levels ih =>
        rw [ancestor?_succ, Option.bind_eq_some_iff] at hlevels
        rcases hlevels with ⟨b, hb, hstep⟩
        exact Relation.TransGen.tail (ih b hb) hstep

/-- Coming to a place that was passed closes the way taken since. -/
theorem closedChain_of_mem (passed : List Nat) (i : Nat) (hnodup : passed.Nodup)
    (hchain : (i :: passed).IsChain fun a b => h.Extends b a) (hmem : i ∈ passed) :
    ClosedChain h.Extends (passed.reverse.dropWhile (· ≠ i) ++ [i]) := by
  rcases List.append_of_mem hmem with ⟨newer, older, rfl⟩
  rw [List.nodup_middle, List.nodup_cons, List.mem_append, not_or] at hnodup
  rcases hnodup with ⟨⟨hnewer, holder⟩, hrest⟩
  have hreverse : (newer ++ i :: older).reverse = older.reverse ++ i :: newer.reverse := by
    rw [List.reverse_append, List.reverse_cons, List.append_assoc, List.singleton_append]
  have hdrop : (newer ++ i :: older).reverse.dropWhile (· ≠ i) = i :: newer.reverse := by
    rw [hreverse, List.dropWhile_append_of_pos, List.dropWhile_cons_of_neg]
    · simp only [ne_eq, not_true_eq_false, decide_false, Bool.false_eq_true, not_false_eq_true]
    · intro a ha
      rw [decide_eq_true_eq]
      exact fun heq => holder (heq ▸ List.mem_reverse.mp ha)
  rw [hdrop]
  refine ⟨i, newer.reverse, rfl, ?_, ?_⟩
  · rw [List.nodup_cons, List.mem_reverse, List.nodup_reverse]
    exact ⟨hnewer, hrest.of_append_left⟩
  · -- Read backwards, what was passed is a way up, and the cycle is the end of it.
    have hup : (i :: (newer ++ i :: older)).reverse.IsChain h.Extends :=
      List.isChain_reverse.mpr hchain
    rw [List.reverse_cons, hreverse, List.append_assoc] at hup
    exact hup.right_of_append

/-- What the search finds is closed, if what was passed is a way to where it
    is. -/
theorem closedChain_of_follow (fuel : Nat) (passed : List Nat) (i : Nat) (ids : List Nat)
    (hnodup : passed.Nodup) (hchain : (i :: passed).IsChain fun a b => h.Extends b a)
    (hfound : h.follow fuel passed i = some ids) : ClosedChain h.Extends ids := by
  induction fuel generalizing passed i with
  | zero => contradiction
  | succ fuel ih =>
      rw [follow] at hfound
      by_cases hmem : i ∈ passed
      · rw [if_pos hmem, Option.some_inj] at hfound
        rw [← hfound]
        exact closedChain_of_mem h passed i hnodup hchain hmem
      · rw [if_neg hmem] at hfound
        rcases hbase : h.baseId? i with _ | b
        · rw [hbase] at hfound
          contradiction
        · rw [hbase] at hfound
          refine ih (i :: passed) b (List.nodup_cons.mpr ⟨hmem, hnodup⟩) ?_ hfound
          exact List.isChain_cons_cons.mpr ⟨hbase, hchain⟩

/-- What is reported are the names of a closed chain. -/
theorem closedChain_of_cycle? (cycle : InheritanceCycle) (hcycle : h.cycle? = some cycle) :
    ∃ ids, ClosedChain h.Extends ids ∧ cycle.classes = ids.map h.nameAt := by
  rw [cycle?, Option.map_eq_some_iff] at hcycle
  rcases hcycle with ⟨ids, hfound, rfl⟩
  rcases List.exists_of_findSome?_eq_some hfound with ⟨i, _, hi⟩
  refine ⟨ids, ?_, rfl⟩
  exact closedChain_of_follow h (h.size + 1) [] i ids List.nodup_nil (List.isChain_singleton i) hi

/-- There is a report exactly if some class is above itself. -/
theorem exists_cycle?_iff (hc : h.Consistent) :
    (∃ cycle, h.cycle? = some cycle) ↔ ∃ i, Relation.TransGen h.Extends i i := by
  constructor
  · rintro ⟨cycle, hcycle⟩
    rcases closedChain_of_cycle? h cycle hcycle with ⟨ids, hclosed, _⟩
    exact hclosed.transGen
  · rintro ⟨i, hi⟩
    rcases (h.transGen_iff i i).mp hi with ⟨levels, hlevels⟩
    cases hcycle : h.cycle? with
    | some cycle => exact ⟨cycle, rfl⟩
    | none =>
        -- Without a report the class would be rooted.
        rcases Relation.TransGen.head'_iff.mp hi with ⟨b, hb, _⟩
        have hlt : i < h.size := h.lt_size_of_baseId? i b hb
        have hr : h.Rooted i := (cycle?_eq_none_iff h hc).mp hcycle i hlt
        exact absurd hlevels (hr.ancestor?_ne_self levels)

end Search

section Marks

/-- Follow bases from a place, remembering the places passed, newest first, but
    not beyond a marked place. The result is a cycle, or all that was passed. -/
def followMarked (h : Hierarchy) (marked : List Nat) :
    Nat → List Nat → Nat → Except (List Nat) (List Nat)
  | 0, passed, _ => .ok passed
  | fuel + 1, passed, id =>
    if id ∈ marked then .ok passed
    else if id ∈ passed then .error (passed.reverse.dropWhile (· ≠ id) ++ [id])
    else match h.baseId? id with
      | none => .ok (id :: passed)
      | some base => h.followMarked marked fuel (id :: passed) base

/-- The first cycle, searched from one place after the other. What was passed
    from a place that leads into no cycle is marked. -/
def searchMarked (h : Hierarchy) (marked : List Nat) : List Nat → Option (List Nat)
  | [] => none
  | id :: rest =>
    match h.followMarked marked (h.size + 1) [] id with
    | .error ids => some ids
    | .ok passed => h.searchMarked (passed ++ marked) rest

variable (h : Hierarchy)

/-- With rooted classes marked, the search finds what it finds without marks. -/
theorem followMarked_error_iff (marked : List Nat) (hmarked : ∀ a ∈ marked, h.Rooted a)
    (fuel : Nat) (passed : List Nat) (i : Nat)
    (hup : ∀ a ∈ passed, ∃ levels, h.ancestor? (levels + 1) a = some i) (ids : List Nat) :
    h.followMarked marked fuel passed i = .error ids ↔ h.follow fuel passed i = some ids := by
  induction fuel generalizing passed i with
  | zero => simp only [followMarked, follow, reduceCtorEq]
  | succ fuel ih =>
      by_cases hi : i ∈ marked
      · -- What was passed leads to the marked class, so that class does not lead back.
        have hnew : ∀ k a, h.ancestor? k i = some a → a ∉ passed := by
          intro k a ha hmem
          rcases hup a hmem with ⟨levels, hlevels⟩
          have hr : h.Rooted a := (hmarked i hi).ancestor k a ha
          refine hr.ancestor?_ne_self (levels + k) ?_
          rw [Nat.add_right_comm, ancestor?_add, hlevels, Option.bind_some, ha]
        rw [followMarked, if_pos hi,
          follow_eq_none_of_rooted h (fuel + 1) passed i (hmarked i hi) hnew]
        simp only [reduceCtorEq]
      · rw [followMarked, if_neg hi, follow]
        by_cases hmem : i ∈ passed
        · rw [if_pos hmem, if_pos hmem, Except.error.injEq, Option.some_inj]
        · rw [if_neg hmem, if_neg hmem]
          rcases hbase : h.baseId? i with _ | b
          · simp only [reduceCtorEq]
          · refine ih (i :: passed) b fun a ha => ?_
            rcases List.mem_cons.mp ha with rfl | ha
            · exact ⟨0, hbase⟩
            · rcases hup a ha with ⟨levels, hlevels⟩
              exact ⟨levels + 1, by rw [ancestor?_succ, hlevels, Option.bind_some, hbase]⟩

/-- What is passed on the way to an end is above where the way began. -/
theorem mem_of_followMarked (marked : List Nat) (fuel : Nat) (passed : List Nat) (i : Nat)
    (result : List Nat) (hresult : h.followMarked marked fuel passed i = .ok result) :
    ∀ a ∈ result, a ∈ passed ∨ ∃ levels, h.ancestor? levels i = some a := by
  induction fuel generalizing passed i with
  | zero =>
      rw [followMarked, Except.ok.injEq] at hresult
      exact fun a ha => Or.inl (hresult ▸ ha)
  | succ fuel ih =>
      have hpassed : ∀ a ∈ i :: passed, a ∈ passed ∨ ∃ levels, h.ancestor? levels i = some a := by
        intro a ha
        rcases List.mem_cons.mp ha with rfl | ha
        · exact Or.inr ⟨0, rfl⟩
        · exact Or.inl ha
      rw [followMarked] at hresult
      by_cases hi : i ∈ marked
      · rw [if_pos hi, Except.ok.injEq] at hresult
        exact fun a ha => Or.inl (hresult ▸ ha)
      · rw [if_neg hi] at hresult
        by_cases hmem : i ∈ passed
        · rw [if_pos hmem] at hresult
          contradiction
        · rw [if_neg hmem] at hresult
          rcases hbase : h.baseId? i with _ | b
          · rw [hbase, Except.ok.injEq] at hresult
            exact hresult ▸ hpassed
          · rw [hbase] at hresult
            intro a ha
            rcases ih (i :: passed) b hresult a ha with ha | ⟨levels, hlevels⟩
            · exact hpassed a ha
            · exact Or.inr ⟨levels + 1, by rw [ancestor?_succ_of_base h levels i b hbase, hlevels]⟩

/-- The search finds the same from any places, whatever rooted classes are
    marked. -/
theorem searchMarked_eq (hc : h.Consistent) (marked ids : List Nat)
    (hmarked : ∀ a ∈ marked, h.Rooted a) (hids : ∀ i ∈ ids, i < h.size) :
    h.searchMarked marked ids = ids.findSome? h.cycleFrom? := by
  -- The invariant is that everything marked is rooted.
  induction ids generalizing marked with
  | nil => rfl
  | cons i rest ih =>
      have hsame := followMarked_error_iff h marked hmarked (h.size + 1) [] i
        fun a ha => absurd ha List.not_mem_nil
      rw [searchMarked, List.findSome?_cons]
      cases hresult : h.followMarked marked (h.size + 1) [] i with
      | error found =>
          have hfollow := (hsame found).mp hresult
          rw [cycleFrom?, hfollow]
      | ok passed =>
          have hnone : h.cycleFrom? i = none := by
            rw [cycleFrom?, Option.eq_none_iff_forall_ne_some]
            intro found hfound
            rw [(hsame found).mpr hfound] at hresult
            contradiction
          have hr : h.Rooted i := by
            refine rooted_of_follow_eq_none h hc (h.size + 1) [] i List.nodup_nil ?_
              (hids i List.mem_cons_self) ?_ hnone
            · exact fun a ha => absurd ha List.not_mem_nil
            · rw [List.length_nil]
              omega
          rw [hnone]
          refine ih (passed ++ marked) ?_ fun j hj => hids j (List.mem_cons_of_mem i hj)
          intro a ha
          rcases List.mem_append.mp ha with ha | ha
          · rcases mem_of_followMarked h marked (h.size + 1) [] i passed hresult a ha with
              hnil | ⟨levels, hlevels⟩
            · exact absurd hnil List.not_mem_nil
            · exact hr.ancestor levels a hlevels
          · exact hmarked a ha

/-- Marking classes changes nothing about what is reported. -/
theorem cycle?_eq_searchMarked (hc : h.Consistent) :
    h.cycle? = (h.searchMarked [] (List.range h.size)).map fun ids => ⟨ids.map h.nameAt⟩ := by
  have hsame := searchMarked_eq h hc [] (List.range h.size)
    (fun a ha => absurd ha List.not_mem_nil) fun i hi => List.mem_range.mp hi
  rw [cycle?, hsame]

end Marks

end Hierarchy

end Typings
