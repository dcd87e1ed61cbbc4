import Mathlib.Algebra.BigOperators.Group.Finset.Basic
import Typings.Proofs.Hierarchy.Sources

/-!
# The Recursion Over Bases

Finishing changes one hierarchy over and over, along child lists and from root
to root. What comes of it can be said without any of that: a class without base
stays as it is, and any other is finished from its base, which comes out the
same way. That is a recursion over the classes above a class, and it sees
nothing of the rest: no sibling, no other root, no child list.

A class that stands at another place is another class to the recursion only by
name, so to say. Two classes with the same classes above them come out alike,
except for the places that their methods note.

## Main definitions

* `ClassModel.finishedBelow`: What becomes of a class below other classes.
* `ClassModel.inheritedBelow`: What is carried into it for that.
* `Hierarchy.bases`: The classes above a place, nearest first.
* `Hierarchy.TopDown`: A hierarchy is finished as the recursion says.

## Theorems

* `ClassModel.finishedBelow_unplaced`: The recursion does not look at places.
* `Hierarchy.Rooted.finished_above`: It leads to what becomes of a class.
* `Hierarchy.report_createOverloads`, `Hierarchy.report_foldl`: What one visit
  and a list of visits report.
* `Hierarchy.topDown_link`: A linked hierarchy is finished as the recursion
  says.
-/

namespace Typings

namespace ClassModel

/-- What becomes of a class below other classes, nearest first. The nearest of
    them is finished below the rest, and the class from what comes of that. -/
def finishedBelow (r : Resolver) : List ClassModel → ClassModel → ClassModel
  | [], c => c
  | base :: rest, c => c.finish (carryFrom r (finishedBelow r rest base) c base.id)

/-- What is carried into a class below other classes, nearest first. -/
def inheritedBelow (r : Resolver) : List ClassModel → ClassModel → List Inherited
  | [], _ => []
  | base :: rest, c =>
    (carryFrom r (finishedBelow r rest base) c base.id).carried.map fun m =>
      ⟨c.qualifiedName, base.qualifiedName, m.name⟩

variable (r : Resolver)

theorem qualifiedName_finishedBelow (above : List ClassModel) (c : ClassModel) :
    (c.finishedBelow r above).qualifiedName = c.qualifiedName := by
  cases above <;> rfl

/-- The recursion does not look at places. -/
theorem finishedBelow_unplaced (above : List ClassModel) (c : ClassModel) :
    (c.finishedBelow r above).unplaced =
      c.unplaced.finishedBelow r (above.map ClassModel.unplaced) := by
  induction above generalizing c with
  | nil => rfl
  | cons base rest ih =>
      rw [finishedBelow, finish_unplaced, ← carryFrom_unplaced, ih base]
      rfl

end ClassModel

namespace Hierarchy

/-- The classes above a place, nearest first, going up at most so many levels. -/
def above (h : Hierarchy) : Nat → Nat → List ClassModel
  | 0, _ => []
  | levels + 1, i =>
    match h.baseId? i with
    | none => []
    | some b => (h.get? b).toList ++ h.above levels b

/-- The classes above a place, nearest first. -/
def bases (h : Hierarchy) (i : Nat) : List ClassModel :=
  h.above h.size i

/-- What is carried into the class at a place. -/
def inheritedAt (r : Resolver) (h : Hierarchy) (i : Nat) : List Inherited :=
  match h.get? i with
  | some c => c.inheritedBelow r (h.bases i)
  | none => []

/-- A hierarchy is finished as the recursion over bases says. -/
structure TopDown (r : Resolver) (h : Hierarchy) : Prop where
  /-- Every class comes out of the recursion over the classes above it. -/
  classes : ∀ i, (h.propagate r).1.get? i =
    (h.get? i).map fun c => c.finishedBelow r (h.bases i)
  /-- In any other hierarchy a class with the same classes above it comes out
      alike, but for places. -/
  alike : ∀ (g : Hierarchy) (i j : Nat), g.Consistent → g.cycle? = none →
    (h.get? i).map ClassModel.unplaced = (g.get? j).map ClassModel.unplaced →
    (h.bases i).map ClassModel.unplaced = (g.bases j).map ClassModel.unplaced →
    ((h.propagate r).1.get? i).map ClassModel.unplaced =
      ((g.propagate r).1.get? j).map ClassModel.unplaced
  /-- Classes are visited one after the other, and nothing else is done. -/
  visits : h.propagate r = h.visitOrder.foldl (finishOne r) (h, [])
  /-- Every class is visited exactly once. -/
  once : h.visitOrder.Perm (List.range h.size)
  /-- A base is visited before the classes below it. -/
  basesFirst : h.BasesFirst [] h.visitOrder
  /-- What is counted is what is carried into the single classes. -/
  count : (h.propagate r).2.length = ∑ i ∈ Finset.range h.size, (h.inheritedAt r i).length

section Above

variable (h : Hierarchy)

theorem above_of_root (levels i : Nat) (hbase : h.baseId? i = none) : h.above levels i = [] := by
  cases levels with
  | zero => rfl
  | succ levels => rw [above, hbase]

theorem above_of_base (levels i b : Nat) (base : ClassModel) (hbase : h.baseId? i = some b)
    (hget : h.get? b = some base) : h.above (levels + 1) i = base :: h.above levels b := by
  rw [above, hbase]
  simp only [hget, Option.toList_some, List.singleton_append]

end Above

variable (r : Resolver) {h : Hierarchy}

/-- The recursion leads to what becomes of a class, if it goes up far enough to
    reach all classes above. -/
theorem Rooted.finished_above (hc : h.Consistent) {i : Nat} (hr : h.Rooted i) (levels : Nat)
    (hlevels : ∀ k a, h.ancestor? k i = some a → k ≤ levels) (c : ClassModel)
    (hget : h.get? i = some c) : h.Finished r i (c.finishedBelow r (h.above levels i)) := by
  -- The base has one level less above it, and comes out as the recursion says.
  induction hr generalizing levels c with
  | root i _ hbase =>
      rw [above_of_root h levels i hbase]
      rw [baseId?_of_get? h i c hget] at hbase
      exact Finished.root i c hget hbase
  | derived i b hbase hb ih =>
      rcases h.exists_get? b hb.lt_size with ⟨base, hgetb⟩
      have hlink : c.baseId = some b := (baseId?_of_get? h i c hget).symm.trans hbase
      have hup : h.ancestor? 1 i = some b := by
        rw [ancestor?_succ_of_base h 0 i b hbase, ancestor?_zero]
      cases levels with
      | zero => exact absurd (hlevels 1 b hup) (by omega)
      | succ levels =>
          have hfinished := ih levels (fun k a ha => ?_) base hgetb
          · rw [above_of_base h levels i b base hbase hgetb, ClassModel.finishedBelow,
              hc.id_eq b base hgetb]
            exact Finished.derived i b c _ hget hlink hfinished
          · have hk := hlevels (k + 1) a (by rw [ancestor?_succ_of_base h k i b hbase, ha])
            omega

theorem Rooted.finished_bases (hc : h.Consistent) {i : Nat} (hr : h.Rooted i) (c : ClassModel)
    (hget : h.get? i = some c) : h.Finished r i (c.finishedBelow r (h.bases i)) :=
  hr.finished_above r hc h.size (fun k a ha => Nat.le_of_lt (hr.level_lt_size k a ha)) c hget

/-- Above a class comes its base, finished below the rest of the classes above. -/
theorem Rooted.exists_finished_base (hc : h.Consistent) {i : Nat} (hr : h.Rooted i) (b : Nat)
    (hbase : h.baseId? i = some b) :
    ∃ base rest, h.bases i = base :: rest ∧ h.get? b = some base ∧
      h.Finished r b (base.finishedBelow r rest) := by
  have hb : h.Rooted b := hr.base b hbase
  rcases h.exists_get? b hb.lt_size with ⟨base, hget⟩
  have hlt : i < h.size := hr.lt_size
  have hsize : h.size = h.size - 1 + 1 := by omega
  refine ⟨base, h.above (h.size - 1) b, ?_, hget, ?_⟩
  · rw [bases, hsize]
    exact above_of_base h _ i b base hbase hget
  · refine hb.finished_above r hc _ (fun k a ha => ?_) base hget
    have hk := hr.level_lt_size (k + 1) a (by rw [ancestor?_succ_of_base h k i b hbase, ha])
    omega

/-- A visit reports what the recursion carries into the class, if it finds the
    base of that class finished and the class itself as it was. -/
theorem report_createOverloads (hc : h.Consistent) {g : Hierarchy} {done : List Nat}
    (hprogress : Progress r h g done) (i : Nat) (hi : i ∉ done) (hr : h.Rooted i)
    (hbases : ∀ b, h.baseId? i = some b → b ∈ done) :
    (createOverloads r g i).2 = h.inheritedAt r i := by
  rcases h.exists_get? i hr.lt_size with ⟨c, hget⟩
  have hget' : g.get? i = some c := (hprogress.untouched i hi).trans hget
  have hlink : h.baseId? i = c.baseId := baseId?_of_get? h i c hget
  have hlink' : g.baseId? i = c.baseId := baseId?_of_get? g i c hget'
  have hreport : h.inheritedAt r i = c.inheritedBelow r (h.bases i) := by
    rw [inheritedAt, hget]
  rcases hbase : c.baseId with _ | b
  · have hroot : h.bases i = [] := above_of_root h h.size i (hlink.trans hbase)
    rw [createOverloads_of_root r g i (hlink'.trans hbase), hreport, hroot]
    rfl
  · have hlinked : h.baseId? i = some b := hlink.trans hbase
    rcases hprogress.finished b (hbases b hlinked) with ⟨f, hfinished, hgetb⟩
    rcases hr.exists_finished_base r hc b hlinked with ⟨base, rest, habove, hgetbase, hrecursion⟩
    -- The base that the visit finds is the one that the recursion leads to.
    have hf : f = base.finishedBelow r rest := hfinished.unique r hrecursion
    rw [createOverloads_of_base r g i b c f hget' hbase hgetb, hreport, habove, hf,
      ClassModel.qualifiedName_finishedBelow, ClassModel.inheritedBelow, hc.id_eq b base hgetbase]

/-- What a list of visits reports, if it visits no class twice and every class
    after its base. -/
theorem report_foldl (hc : h.Consistent) (order done : List Nat)
    (state : Hierarchy × List Inherited) (hprogress : Progress r h state.1 done)
    (hfirst : h.BasesFirst done order) (hnodup : order.Nodup) (hnew : ∀ i ∈ order, i ∉ done)
    (hrooted : ∀ i ∈ order, h.Rooted i) :
    (order.foldl (finishOne r) state).2 = state.2 ++ order.flatMap (h.inheritedAt r) := by
  -- The invariant is the progress made, which each visit extends by its class.
  induction order generalizing done state with
  | nil => rw [List.foldl_nil, List.flatMap_nil, List.append_nil]
  | cons i rest ih =>
      rw [List.nodup_cons] at hnodup
      have hi : i ∉ done := hnew i List.mem_cons_self
      have hr : h.Rooted i := hrooted i List.mem_cons_self
      have hnext : Progress r h (finishOne r state i).1 (i :: done) :=
        hprogress.createOverloads r h i hi hr.lt_size hfirst.1
      have hreport : (finishOne r state i).2 = state.2 ++ h.inheritedAt r i := by
        rw [finishOne]
        simp only [report_createOverloads r hc hprogress i hi hr hfirst.1]
      have hrest := ih (i :: done) (finishOne r state i) hnext hfirst.2 hnodup.2
        (fun j hj hmem => ?_) (fun j hj => hrooted j (List.mem_cons_of_mem i hj))
      · rw [List.foldl_cons, hrest, hreport, List.flatMap_cons, List.append_assoc]
      · rcases List.mem_cons.mp hmem with rfl | hmem
        · exact hnodup.1 hj
        · exact hnew j (List.mem_cons_of_mem i hj) hmem

/-- What is reported in the end is what is carried into the single classes, in
    the order of visits. -/
theorem report_propagate (hc : h.Consistent) :
    (h.propagate r).2 = h.visitOrder.flatMap (h.inheritedAt r) := by
  have hstart : Progress r h (h, ([] : List Inherited)).1 [] :=
    ⟨fun i hi => absurd hi List.not_mem_nil, fun i _ => rfl⟩
  rw [propagate_eq, report_foldl r hc h.visitOrder [] (h, []) hstart (basesFirst_visitOrder h hc)
    (nodup_visitOrder h hc) (fun i _ => List.not_mem_nil)
    (fun i hi => (mem_visitOrder_iff h hc i).mp hi)]
  rfl

theorem get?_propagate_eq (hc : h.Consistent) (hacyclic : h.cycle? = none) (i : Nat) :
    (h.propagate r).1.get? i = (h.get? i).map fun c => c.finishedBelow r (h.bases i) := by
  by_cases hi : i < h.size
  · have hr : h.Rooted i := (cycle?_eq_none_iff h hc).mp hacyclic i hi
    rcases h.exists_get? i hi with ⟨c, hget⟩
    rw [get?_propagate_of_finished r h hc i hr _ (hr.finished_bases r hc c hget), hget,
      Option.map_some]
  · have hsize : (h.propagate r).1.size = h.size :=
      size_of_skeleton _ h (sameSkeleton_propagate r h)
    have hle : h.size ≤ i := Nat.le_of_not_lt hi
    rw [get?_eq_none _ i (hsize ▸ hle), get?_eq_none h i hle, Option.map_none]

/-- Where there is no cycle, every class is visited exactly once. -/
theorem perm_visitOrder (hc : h.Consistent) (hacyclic : h.cycle? = none) :
    h.visitOrder.Perm (List.range h.size) := by
  rw [List.perm_ext_iff_of_nodup (nodup_visitOrder h hc) List.nodup_range]
  intro i
  rw [mem_visitOrder_iff h hc, List.mem_range]
  exact ⟨Rooted.lt_size, (cycle?_eq_none_iff h hc).mp hacyclic i⟩

/-- What is counted is what is carried into the single classes. -/
theorem length_report_propagate (hc : h.Consistent) (hacyclic : h.cycle? = none) :
    (h.propagate r).2.length = ∑ i ∈ Finset.range h.size, (h.inheritedAt r i).length := by
  rw [report_propagate r hc, ((perm_visitOrder hc hacyclic).flatMap_right _).length_eq,
    List.length_flatMap]
  rfl

/-- Classes with the same classes above them come out alike, wherever they
    stand. -/
theorem get?_propagate_alike {g : Hierarchy} (hc : h.Consistent) (hacyclic : h.cycle? = none)
    (hc' : g.Consistent) (hacyclic' : g.cycle? = none) (i j : Nat)
    (hclass : (h.get? i).map ClassModel.unplaced = (g.get? j).map ClassModel.unplaced)
    (hbases : (h.bases i).map ClassModel.unplaced = (g.bases j).map ClassModel.unplaced) :
    ((h.propagate r).1.get? i).map ClassModel.unplaced =
      ((g.propagate r).1.get? j).map ClassModel.unplaced := by
  have hfinal : ∀ (k : Hierarchy) (n : Nat), k.Consistent → k.cycle? = none →
      ((k.propagate r).1.get? n).map ClassModel.unplaced =
        ((k.get? n).map ClassModel.unplaced).map fun c =>
          c.finishedBelow r ((k.bases n).map ClassModel.unplaced) := by
    intro k n hk hkacyclic
    rw [get?_propagate_eq r hk hkacyclic, Option.map_map, Option.map_map]
    exact Option.map_congr fun c _ => ClassModel.finishedBelow_unplaced r (k.bases n) c
  rw [hfinal h i hc hacyclic, hfinal g j hc' hacyclic', hclass, hbases]

/-- A linked hierarchy is finished as the recursion over bases says. -/
theorem topDown_link (r : Resolver) (h : Hierarchy) (hc : h.Consistent)
    (hacyclic : h.link.1.cycle? = none) : h.link.1.TopDown r where
  classes := get?_propagate_eq r hc.link hacyclic
  alike := fun _ i j hc' hacyclic' => get?_propagate_alike r hc.link hacyclic hc' hacyclic' i j
  visits := propagate_eq r h.link.1
  once := perm_visitOrder hc.link hacyclic
  basesFirst := basesFirst_visitOrder h.link.1 hc.link
  count := length_report_propagate r hc.link hacyclic

section Example

/-- Two roots, one of which has two children, and one of these a child of its
    own. The classes come before their bases. -/
def forestSource : Api.Source where
  library := "lib"
  symbols :=
    [{ kind := .class, name := "lib.D", base := some "lib.B",
       methods := [{ name := "foo", returnValue := some { type := "boolean" } }] },
     { kind := .class, name := "lib.B", base := some "lib.A",
       methods := [{ name := "foo", returnValue := some { type := "string" } }] },
     { kind := .class, name := "lib.A",
       methods := [{ name := "foo", returnValue := some { type := "number" } }] },
     { kind := .class, name := "lib.C", base := some "lib.A",
       methods := [{ name := "foo", returnValue := some { type := "number" } }] },
     { kind := .class, name := "lib.E" }]

/-- The resolver of the five classes. -/
def forestResolver : Resolver where
  registry := Registry.ofSources [forestSource]

/-- The five classes. -/
def forestClasses : Hierarchy :=
  ofSources forestResolver .class .class [forestSource]

/-- The classes are visited root by root, against the order of their symbols. -/
theorem topDown_forestClasses :
    forestClasses.Consistent ∧ forestClasses.link.1.cycle? = none ∧
      forestClasses.link.1.visitOrder = [2, 1, 0, 3, 4] ∧
      forestClasses.link.1.TopDown forestResolver := by
  have hconsistent : forestClasses.Consistent :=
    (isBuilt_ofSources forestResolver .class .class [forestSource]).consistent
  have hacyclic : forestClasses.link.1.cycle? = none := by decide +kernel
  have horder : forestClasses.link.1.visitOrder = [2, 1, 0, 3, 4] := by decide +kernel
  exact ⟨hconsistent, hacyclic, horder,
    topDown_link forestResolver forestClasses hconsistent hacyclic⟩

end Example

end Hierarchy

end Typings
