import Typings.Proofs.Hierarchy.Carrying
import Typings.Proofs.Hierarchy.Visits

/-!
# Finishing a Hierarchy

One hierarchy is changed class after class, and yet what becomes of a class is
a matter of the classes above it alone: a class without base stays as it is,
and any other is what carrying makes of it and its finished base (`Finished`).

Finishing a class leaves all links alone, so the walk from the roots down is a
fold over the order of visits of the hierarchy it started with. In that order
a class is visited once, after its base, and nothing else changes it.

Every method that is reported as carried makes some class longer by one, so
the number of reports is the number of methods that were added.

## Main definitions

* `Hierarchy.Finished`: What becomes of a class.
* `Hierarchy.finishOne`: The visit of one class.
* `Hierarchy.Progress`: A hierarchy of which some classes are finished.
* `Hierarchy.SameSkeleton`: Two hierarchies have the same links, and all else
  that finishing leaves alone.
* `Hierarchy.methodCount`: The number of methods of all classes.

## Theorems

* `Hierarchy.Finished.unique`: At most one thing becomes of a class.
* `Hierarchy.sameSkeleton_createOverloads`: Links are left alone.
* `Hierarchy.propagate_eq`: The walk follows the order of visits.
* `Hierarchy.Progress.createOverloads`, `Hierarchy.progress_foldl`: What one
  visit and a list of visits achieve.
* `Hierarchy.get?_propagate_of_rooted`, `Hierarchy.get?_propagate_of_finished`:
  Every rooted class is finished in the end, and found at its place.
* `Hierarchy.exists_finished_of_acyclic`, `Hierarchy.exists_finish_of_acyclic`:
  Without cycles this is every class, finished from the final form of its base.
* `Hierarchy.methodCount_propagate`: How many methods are added.
-/

namespace Typings

/-- What finishing leaves alone of a class. -/
def ClassModel.skeleton (c : ClassModel) : ClassModel :=
  { c with methods := [], dependencies := {} }

namespace Hierarchy

/-- What becomes of the class at a place. -/
inductive Finished (r : Resolver) (h : Hierarchy) : Nat → ClassModel → Prop where
  | root (i : Nat) (c : ClassModel) (hget : h.get? i = some c) (hbase : c.baseId = none) :
      Finished r h i c
  | derived (i b : Nat) (c base : ClassModel) (hget : h.get? i = some c)
      (hbase : c.baseId = some b) (hb : Finished r h b base) :
      Finished r h i (c.finish (ClassModel.carryFrom r base c b))

/-- The visit of one class: it is finished, and what was carried is added to the
    report. -/
def finishOne (r : Resolver) (state : Hierarchy × List Inherited) (i : Nat) :
    Hierarchy × List Inherited :=
  let created := createOverloads r state.1 i
  (created.1, state.2 ++ created.2)

/-- A hierarchy of which some classes are finished and the others are as they
    were. -/
structure Progress (r : Resolver) (h g : Hierarchy) (done : List Nat) : Prop where
  finished : ∀ i ∈ done, ∃ f, h.Finished r i f ∧ g.get? i = some f
  untouched : ∀ i, i ∉ done → g.get? i = h.get? i

/-- Two hierarchies differ in nothing but what finishing changes. -/
def SameSkeleton (g h : Hierarchy) : Prop :=
  ∀ i, (g.get? i).map ClassModel.skeleton = (h.get? i).map ClassModel.skeleton

/-- The number of methods of all classes. -/
def methodCount (h : Hierarchy) : Nat :=
  (h.classes.toList.flatMap (·.methods)).length

variable (r : Resolver)

theorem Finished.unique {h : Hierarchy} {i : Nat} {c d : ClassModel} (hc : h.Finished r i c)
    (hd : h.Finished r i d) : c = d := by
  induction hc generalizing d with
  | root i c hget hbase =>
      cases hd with
      | root _ _ hget' _ =>
          rw [hget, Option.some_inj] at hget'
          exact hget'
      | derived _ b c' base hget' hbase' _ =>
          rw [hget, Option.some_inj] at hget'
          rw [← hget', hbase] at hbase'
          contradiction
  | derived i b c base hget hbase _ ih =>
      cases hd with
      | root _ _ hget' hbase' =>
          rw [hget, Option.some_inj] at hget'
          rw [← hget', hbase] at hbase'
          contradiction
      | derived _ b' c' base' hget' hbase' hb' =>
          rw [hget, Option.some_inj] at hget'
          subst hget'
          rw [hbase, Option.some_inj] at hbase'
          subst hbase'
          rw [ih hb']

/-- What becomes of a class that is linked to a base. -/
theorem Finished.exists_base {h : Hierarchy} {i : Nat} {f : ClassModel} (hf : h.Finished r i f)
    (b : Nat) (hbase : h.baseId? i = some b) :
    ∃ c base, h.get? i = some c ∧ c.baseId = some b ∧ h.Finished r b base ∧
      f = c.finish (ClassModel.carryFrom r base c b) := by
  rcases (h.baseId?_eq_some_iff i b).mp hbase with ⟨d, hd, hlink⟩
  cases hf with
  | root _ _ hget hnone =>
      rw [hd, Option.some_inj] at hget
      rw [← hget, hlink] at hnone
      contradiction
  | derived _ b' c base hget hlink' hb =>
      rw [hd, Option.some_inj] at hget
      subst hget
      rw [hlink, Option.some_inj] at hlink'
      subst hlink'
      exact ⟨d, base, hd, hlink, hb, rfl⟩

section Create

variable (h : Hierarchy)

theorem createOverloads_of_root (i : Nat) (hbase : h.baseId? i = none) :
    createOverloads r h i = (h, []) := by
  rw [createOverloads, hbase]
  cases h.get? i <;> rfl

theorem createOverloads_of_base (i b : Nat) (c base : ClassModel) (hget : h.get? i = some c)
    (hbase : c.baseId = some b) (hgetb : h.get? b = some base) :
    createOverloads r h i =
      (h.modify i fun d => d.finish (ClassModel.carryFrom r base c b),
       (ClassModel.carryFrom r base c b).carried.map fun m =>
         ⟨c.qualifiedName, base.qualifiedName, m.name⟩) := by
  have hlink : h.baseId? i = some b := (h.baseId?_eq_some_iff i b).mpr ⟨c, hget, hbase⟩
  rw [createOverloads, hget, hlink]
  simp only [hgetb]

/-- A class is finished from its base. -/
theorem get?_createOverloads_of_base (i b : Nat) (c base : ClassModel) (hget : h.get? i = some c)
    (hbase : c.baseId = some b) (hgetb : h.get? b = some base) :
    (createOverloads r h i).1.get? i = some (c.finish (ClassModel.carryFrom r base c b)) := by
  rw [createOverloads_of_base r h i b c base hget hbase hgetb, get?_modify, if_pos rfl, hget,
    Option.map_some]

theorem createOverloads_of_missing (i b : Nat) (hbase : h.baseId? i = some b)
    (hgetb : h.get? b = none) : createOverloads r h i = (h, []) := by
  rcases (h.baseId?_eq_some_iff i b).mp hbase with ⟨c, hget, _⟩
  rw [createOverloads, hget, hbase]
  simp only [hgetb]

/-- Finishing a class either changes nothing, or it changes that class as its
    base demands. -/
theorem createOverloads_cases (i : Nat) :
    createOverloads r h i = (h, []) ∨
      ∃ b c base, h.get? i = some c ∧ c.baseId = some b ∧ h.get? b = some base ∧
        createOverloads r h i =
          (h.modify i fun d => d.finish (ClassModel.carryFrom r base c b),
           (ClassModel.carryFrom r base c b).carried.map fun m =>
             ⟨c.qualifiedName, base.qualifiedName, m.name⟩) := by
  rcases hbase : h.baseId? i with _ | b
  · exact Or.inl (createOverloads_of_root r h i hbase)
  · rcases hgetb : h.get? b with _ | base
    · exact Or.inl (createOverloads_of_missing r h i b hbase hgetb)
    · rcases (h.baseId?_eq_some_iff i b).mp hbase with ⟨c, hget, hc⟩
      exact Or.inr ⟨b, c, base, hget, hc, hgetb,
        createOverloads_of_base r h i b c base hget hc hgetb⟩

/-- Finishing leaves all links alone. -/
theorem sameSkeleton_createOverloads (i : Nat) : (createOverloads r h i).1.SameSkeleton h := by
  intro j
  rcases createOverloads_cases r h i with hsame | ⟨b, c, base, _, _, _, hchanged⟩
  · rw [hsame]
  · rw [hchanged, get?_modify]
    by_cases hij : i = j
    · rw [if_pos hij, Option.map_map]
      rfl
    · rw [if_neg hij]

theorem get?_createOverloads_of_ne (i j : Nat) (hne : i ≠ j) :
    (createOverloads r h i).1.get? j = h.get? j := by
  rcases createOverloads_cases r h i with hsame | ⟨b, c, base, _, _, _, hchanged⟩
  · rw [hsame]
  · rw [hchanged, get?_modify, if_neg hne]

end Create

section Skeleton

variable (g h : Hierarchy) (hsame : g.SameSkeleton h)

include hsame

theorem baseId?_of_skeleton (i : Nat) : g.baseId? i = h.baseId? i := by
  have hbase := congrArg (Option.bind · (·.baseId)) (hsame i)
  rwa [Option.bind_map, Option.bind_map] at hbase

theorem childIds_of_skeleton (i : Nat) : g.childIds i = h.childIds i := by
  have hget := hsame i
  rw [childIds, childIds]
  rcases hg : g.get? i with _ | c
  · rw [hg, Option.map_none, eq_comm, Option.map_eq_none_iff] at hget
    rw [hget]
  · rw [hg, Option.map_some, eq_comm, Option.map_eq_some_iff] at hget
    rcases hget with ⟨d, hd, heq⟩
    rw [hd]
    exact (congrArg (·.children) heq).symm

theorem size_of_skeleton : g.size = h.size := by
  -- The size is the first place without a class.
  have hnone : ∀ i, g.get? i = none ↔ h.get? i = none := by
    intro i
    rw [← Option.map_eq_none_iff (f := ClassModel.skeleton), hsame i, Option.map_eq_none_iff]
  refine Nat.le_antisymm ?_ ?_
  · exact Array.getElem?_eq_none_iff.mp ((hnone h.size).mpr (h.get?_eq_none _ (Nat.le_refl _)))
  · exact Array.getElem?_eq_none_iff.mp ((hnone g.size).mp (g.get?_eq_none _ (Nat.le_refl _)))

/-- What finishing leaves alone is all that makes links agree. -/
theorem Consistent.of_sameSkeleton (hc : h.Consistent) : g.Consistent := by
  have hget : ∀ i c, g.get? i = some c → ∃ d, h.get? i = some d ∧ d.skeleton = c.skeleton := by
    intro i c hi
    have hskeleton := hsame i
    rw [hi, Option.map_some, eq_comm, Option.map_eq_some_iff] at hskeleton
    exact hskeleton
  refine ⟨?_, ?_, ?_, ?_⟩
  · intro i c hi
    rcases hget i c hi with ⟨d, hd, heq⟩
    have hid : d.id = c.id := congrArg (·.id) heq
    rw [← hid, hc.id_eq i d hd]
  · intro i c hi e
    rcases hget i c hi with ⟨d, hd, heq⟩
    have hchildren : d.children = c.children := congrArg (·.children) heq
    rw [← hchildren, baseId?_of_skeleton g h hsame]
    exact hc.mem_children i d hd e
  · intro i c hi
    rcases hget i c hi with ⟨d, hd, heq⟩
    have hchildren : d.children = c.children := congrArg (·.children) heq
    rw [← hchildren]
    exact hc.nodup_children i d hd
  · intro i b hb
    rw [baseId?_of_skeleton g h hsame] at hb
    rw [size_of_skeleton g h hsame]
    exact hc.base_lt i b hb

end Skeleton

section Walk

variable (h : Hierarchy)

theorem sameSkeleton_foldl (order : List Nat) (state : Hierarchy × List Inherited)
    (hsame : state.1.SameSkeleton h) : (order.foldl (finishOne r) state).1.SameSkeleton h := by
  induction order generalizing state with
  | nil => exact hsame
  | cons i rest ih =>
      exact ih _ fun j => (sameSkeleton_createOverloads r state.1 i j).trans (hsame j)

/-- Reports are added behind those there are. -/
theorem foldl_finishOne_report (order : List Nat) (g : Hierarchy) (report : List Inherited) :
    order.foldl (finishOne r) (g, report) =
      ((order.foldl (finishOne r) (g, [])).1,
       report ++ (order.foldl (finishOne r) (g, [])).2) := by
  induction order generalizing g report with
  | nil => rw [List.foldl_nil, List.foldl_nil, List.append_nil]
  | cons i rest ih =>
      rw [List.foldl_cons, List.foldl_cons, finishOne, finishOne, ih, ih _ ([] ++ _),
        List.nil_append, List.append_assoc]

/-- A walk below one place after the other is one list of visits, if every
    single walk is. -/
theorem foldl_walk (walk : Hierarchy → Nat → Hierarchy × List Inherited)
    (visit : Nat → List Nat)
    (hwalk : ∀ g i, g.SameSkeleton h → walk g i = (visit i).foldl (finishOne r) (g, []))
    (ids : List Nat) (state : Hierarchy × List Inherited) (hsame : state.1.SameSkeleton h) :
    ids.foldl (fun state i => ((walk state.1 i).1, state.2 ++ (walk state.1 i).2)) state =
      (ids.flatMap visit).foldl (finishOne r) state := by
  induction ids generalizing state with
  | nil => rfl
  | cons i rest ih =>
      -- A single walk starts with an empty report, which is put behind the others.
      have hstep : ((walk state.1 i).1, state.2 ++ (walk state.1 i).2) =
          (visit i).foldl (finishOne r) state := by
        rw [hwalk state.1 i hsame]
        exact (foldl_finishOne_report r (visit i) state.1 state.2).symm
      rw [List.foldl_cons, hstep, List.flatMap_cons, List.foldl_append]
      exact ih _ (sameSkeleton_foldl r h (visit i) state hsame)

/-- Going down from a place visits what is below it, in every hierarchy with the
    same links. -/
theorem pushFrom_eq (levels : Nat) (g : Hierarchy) (i : Nat) (hsame : g.SameSkeleton h) :
    pushFrom r levels g i = (h.visits levels i).foldl (finishOne r) (g, []) := by
  -- The children are looked up after the class was finished, and are still those
  -- of the hierarchy in the beginning.
  induction levels generalizing i g with
  | zero => rfl
  | succ levels ih =>
      have hcreated : (createOverloads r g i).1.SameSkeleton h :=
        fun j => (sameSkeleton_createOverloads r g i j).trans (hsame j)
      rw [pushFrom, visits, List.foldl_cons, childIds_of_skeleton _ h hcreated]
      exact foldl_walk r h (pushFrom r levels) (h.visits levels) (fun g' j => ih g' j)
        (h.childIds i) (createOverloads r g i) hcreated

/-- The walk from the roots down follows the order of visits. -/
theorem propagate_eq : h.propagate r = h.visitOrder.foldl (finishOne r) (h, []) := by
  refine foldl_walk r h (pushOverloads r) (h.visits h.size) ?_ h.roots (h, []) fun _ => rfl
  intro g i hsame
  rw [pushOverloads, size_of_skeleton g h hsame]
  exact pushFrom_eq r h h.size g i hsame

theorem sameSkeleton_propagate : (h.propagate r).1.SameSkeleton h := by
  rw [propagate_eq]
  exact sameSkeleton_foldl r h h.visitOrder (h, []) fun _ => rfl

/-- A visit finishes its class, if it finds the base of that class finished and
    the class itself as it was in the beginning. -/
theorem Progress.exists_finished {g : Hierarchy} {done : List Nat}
    (hprogress : Progress r h g done) (i : Nat) (hi : i ∉ done) (hlt : i < h.size)
    (hbases : ∀ b, h.baseId? i = some b → b ∈ done) :
    ∃ f, h.Finished r i f ∧ (createOverloads r g i).1.get? i = some f := by
  rcases h.exists_get? i hlt with ⟨c, hget⟩
  have hget' : g.get? i = some c := (hprogress.untouched i hi).trans hget
  rcases hbase : c.baseId with _ | b
  · refine ⟨c, Finished.root i c hget hbase, ?_⟩
    have hroot : g.baseId? i = none := by
      rw [baseId?, hget']
      exact hbase
    rw [createOverloads_of_root r g i hroot]
    exact hget'
  · have hlink : h.baseId? i = some b := (h.baseId?_eq_some_iff i b).mpr ⟨c, hget, hbase⟩
    rcases hprogress.finished b (hbases b hlink) with ⟨base, hfinished, hgetb⟩
    refine ⟨_, Finished.derived i b c base hget hbase hfinished, ?_⟩
    exact get?_createOverloads_of_base r g i b c base hget' hbase hgetb

/-- A visit makes progress by the class that is visited. -/
theorem Progress.createOverloads {g : Hierarchy} {done : List Nat}
    (hprogress : Progress r h g done) (i : Nat) (hi : i ∉ done) (hlt : i < h.size)
    (hbases : ∀ b, h.baseId? i = some b → b ∈ done) :
    Progress r h (createOverloads r g i).1 (i :: done) := by
  refine ⟨?_, ?_⟩
  · intro j hj
    by_cases hij : i = j
    · rw [← hij]
      exact hprogress.exists_finished r h i hi hlt hbases
    · -- A class that was finished before is left as it is.
      rcases hprogress.finished j ((List.mem_cons.mp hj).resolve_left (Ne.symm hij)) with
        ⟨f, hfinished, hgetj⟩
      exact ⟨f, hfinished, (get?_createOverloads_of_ne r g i j hij).trans hgetj⟩
  · intro j hj
    rw [List.mem_cons, not_or] at hj
    exact (get?_createOverloads_of_ne r g i j (Ne.symm hj.1)).trans (hprogress.untouched j hj.2)

/-- What a list of visits achieves, if it visits no class twice and every class
    after its base. -/
theorem progress_foldl (order done : List Nat) (state : Hierarchy × List Inherited)
    (hprogress : Progress r h state.1 done) (hfirst : h.BasesFirst done order)
    (hnodup : order.Nodup) (hnew : ∀ i ∈ order, i ∉ done) (hlt : ∀ i ∈ order, i < h.size) :
    Progress r h (order.foldl (finishOne r) state).1 (order.reverse ++ done) := by
  induction order generalizing done state with
  | nil => exact hprogress
  | cons i rest ih =>
      rw [List.nodup_cons] at hnodup
      have hnext : Progress r h (finishOne r state i).1 (i :: done) :=
        hprogress.createOverloads r h i (hnew i List.mem_cons_self) (hlt i List.mem_cons_self)
          hfirst.1
      rw [List.foldl_cons, List.reverse_cons, List.append_assoc]
      refine ih (i :: done) _ hnext hfirst.2 hnodup.2 ?_ ?_
      · intro j hj hmem
        rcases List.mem_cons.mp hmem with rfl | hmem
        · exact hnodup.1 hj
        · exact hnew j (List.mem_cons_of_mem i hj) hmem
      · exact fun j hj => hlt j (List.mem_cons_of_mem i hj)

theorem Consistent.propagate {h : Hierarchy} (hc : h.Consistent) :
    (h.propagate r).1.Consistent :=
  hc.of_sameSkeleton _ h (sameSkeleton_propagate r h)

theorem progress_propagate (hc : h.Consistent) :
    Progress r h (h.propagate r).1 (h.visitOrder.reverse ++ []) := by
  rw [propagate_eq]
  refine progress_foldl r h h.visitOrder [] (h, []) ?_ (basesFirst_visitOrder h hc)
    (nodup_visitOrder h hc) ?_ ?_
  · exact ⟨fun i hi => absurd hi List.not_mem_nil, fun i _ => rfl⟩
  · exact fun i _ => List.not_mem_nil
  · exact fun i hi => ((mem_visitOrder_iff h hc i).mp hi).lt_size

/-- Every rooted class is finished in the end. -/
theorem get?_propagate_of_rooted (hc : h.Consistent) (i : Nat) (hr : h.Rooted i) :
    ∃ f, h.Finished r i f ∧ (h.propagate r).1.get? i = some f := by
  refine (progress_propagate r h hc).finished i ?_
  rw [List.append_nil, List.mem_reverse]
  exact (mem_visitOrder_iff h hc i).mpr hr

/-- What is at a place in the end is what becomes of the class there. -/
theorem finished_of_get?_propagate (hc : h.Consistent) (i : Nat) (hr : h.Rooted i)
    (f : ClassModel) (hget : (h.propagate r).1.get? i = some f) : h.Finished r i f := by
  rcases get?_propagate_of_rooted r h hc i hr with ⟨f', hfinished, hget'⟩
  rw [hget', Option.some_inj] at hget
  rwa [← hget]

/-- What becomes of a class is at its place in the end. -/
theorem get?_propagate_of_finished (hc : h.Consistent) (i : Nat) (hr : h.Rooted i)
    (f : ClassModel) (hf : h.Finished r i f) : (h.propagate r).1.get? i = some f := by
  rcases get?_propagate_of_rooted r h hc i hr with ⟨f', hfinished, hget'⟩
  rw [hget', hf.unique r hfinished]

/-- Where there is no cycle, every class is finished in the end. -/
theorem exists_finished_of_acyclic (hc : h.Consistent) (hacyclic : h.cycle? = none) (i : Nat)
    (c : ClassModel) (hget : h.get? i = some c) :
    ∃ f, h.Finished r i f ∧ (h.propagate r).1.get? i = some f :=
  get?_propagate_of_rooted r h hc i (rooted_of_acyclic h hc hacyclic i c hget)

/-- Where there is no cycle, a class is finished from its base as that one is in
    the end. -/
theorem exists_finish_of_acyclic (hc : h.Consistent) (hacyclic : h.cycle? = none) (i b : Nat)
    (c : ClassModel) (hget : h.get? i = some c) (hbase : c.baseId = some b) :
    ∃ base, (h.propagate r).1.get? b = some base ∧
      (h.propagate r).1.get? i = some (c.finish (ClassModel.carryFrom r base c b)) := by
  have hr : h.Rooted i := rooted_of_acyclic h hc hacyclic i c hget
  have hlink : h.baseId? i = some b := (h.baseId?_eq_some_iff i b).mpr ⟨c, hget, hbase⟩
  rcases get?_propagate_of_rooted r h hc b (hr.base b hlink) with ⟨base, hfinished, hgetb⟩
  refine ⟨base, hgetb, ?_⟩
  exact get?_propagate_of_finished r h hc i hr _ (Finished.derived i b c base hget hbase hfinished)

end Walk

section Count

variable (h : Hierarchy)

/-- Changing one class adds to all methods what it adds to those of the class. -/
theorem length_methods_modify (l : List ClassModel) (i : Nat) (c : ClassModel)
    (hc : l[i]? = some c) (change : ClassModel → ClassModel) (more : Nat)
    (hmore : (change c).methods.length = c.methods.length + more) :
    ((l.modify i change).flatMap (·.methods)).length = (l.flatMap (·.methods)).length + more := by
  induction l generalizing i with
  | nil => contradiction
  | cons d rest ih =>
      cases i with
      | zero =>
          rw [List.getElem?_cons_zero, Option.some_inj] at hc
          rw [List.modify_zero_cons, List.flatMap_cons, List.flatMap_cons, List.length_append,
            List.length_append, hc, hmore, Nat.add_right_comm]
      | succ i =>
          rw [List.getElem?_cons_succ] at hc
          rw [List.modify_succ_cons, List.flatMap_cons, List.flatMap_cons, List.length_append,
            List.length_append, ih i hc, Nat.add_assoc]

/-- Every method that is reported as carried is one more. -/
theorem methodCount_createOverloads (i : Nat) :
    (createOverloads r h i).1.methodCount =
      h.methodCount + (createOverloads r h i).2.length := by
  rcases createOverloads_cases r h i with hsame | ⟨b, c, base, hget, _, _, hchanged⟩
  · rw [hsame]
    rfl
  · rw [hchanged, List.length_map, methodCount, modify, Array.toList_modify]
    refine length_methods_modify h.classes.toList i c ?_ _ _ ?_
    · rw [Array.getElem?_toList]
      exact hget
    · exact ClassModel.length_methods_finish r base c b

theorem methodCount_foldl (order : List Nat) (state : Hierarchy × List Inherited) :
    (order.foldl (finishOne r) state).1.methodCount + state.2.length =
      state.1.methodCount + (order.foldl (finishOne r) state).2.length := by
  induction order generalizing state with
  | nil => rfl
  | cons i rest ih =>
      have hrest := ih (finishOne r state i)
      have hvisit := methodCount_createOverloads r state.1 i
      simp only [finishOne, List.length_append] at hrest
      rw [List.foldl_cons]
      simp only [finishOne]
      omega

/-- The methods of a finished hierarchy are those there were and those that are
    reported. -/
theorem methodCount_propagate :
    (h.propagate r).1.methodCount = h.methodCount + (h.propagate r).2.length := by
  rw [propagate_eq]
  exact methodCount_foldl r h.visitOrder (h, [])

end Count

end Hierarchy

end Typings
