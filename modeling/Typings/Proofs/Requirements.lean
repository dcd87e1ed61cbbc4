import Mathlib.Data.List.Induction
import Typings.Proofs.Table
import Typings.Requirements

/-!
# What Gathering Keeps

Requirements and import lists only grow. What one text needs is among the
needs of all texts it is gathered with, and what was offered to a list is not
missing there afterwards, whatever is offered later.

An import is not missing from a list (`ImportSet.Covers`) if it needs no
entry, since it has no module or its name is the owner's own, or if an entry
has its name. The entry may be of another module: the first one keeps the name.

What an import list refuses it never has. However it was filled, it is in order
(`ImportSet.Tidy`): no name occurs twice, and none that is suppressed.

## Main definitions

* `ImportSet.Covers`: An import is not missing from an import list.
* `ImportSet.Tidy`: An import list is in order.
* `Dependencies.GrowsTo`: Dependencies are extended at the end and nowhere else.

## Theorems

* `mem_addAllNew`: Gathering keeps everything and adds what is offered.
* `addAllNew_eq`: What is gathered, in order.
* `addAllNew_addAllNew`: Gathering in two parts.
* `filter_eraseDups`: Leaving out repetitions and others, in either order.
* `Requirements.merge_assoc`, `Requirements.mergeAll_append`: Needs merged in
  parts.
* `Requirements.mergeAll_eq`, `Requirements.mem_mergeAll`: The needs of several
  texts.
* `Requirements.mergeAll_map_filter`: Texts that need nothing can be left out.
* `ImportSet.covers_addAll`: Nothing comes to be missing.
* `ImportSet.covers_of_mem_addAll`: What was offered is not missing.
* `ImportSet.toList_add`: When an import list takes an import.
* `ImportSet.Tidy.addAll`: An import list stays in order.
* `ImportSet.toList_prefix_addAll`: What is in an import list stays where it is.
* `ImportSet.addAll_addAllNew`: It does not matter whether what is offered was
  gathered before.
* `Dependencies.absorb_mergeAll`: Taking in merged needs is taking in each of them.
* `Dependencies.absorbAll_eq`: What taking in several texts' needs comes to.
* `Dependencies.absorbAll_induction`: What taking in one text's needs keeps,
  taking in several texts' keeps.
* `Dependencies.covers_absorbAll`, `Dependencies.covers_of_mem_absorbAll`,
  `Dependencies.TidyWithout.absorb`, `Dependencies.GrowsTo.absorb`: The same for
  everything that a declaration depends on.
-/

namespace Typings

section Gathering

variable {α : Type} [DecidableEq α]

theorem mem_addNew (items : List α) (a b : α) : b ∈ addNew items a ↔ b ∈ items ∨ b = a := by
  by_cases ha : a ∈ items
  · rw [addNew, if_pos ha]
    exact ⟨Or.inl, fun h => h.elim id fun hb => hb ▸ ha⟩
  · rw [addNew, if_neg ha, List.mem_append, List.mem_singleton]

theorem nodup_addNew (items : List α) (a : α) (h : items.Nodup) : (addNew items a).Nodup := by
  by_cases ha : a ∈ items
  · rwa [addNew, if_pos ha]
  · rw [addNew, if_neg ha, List.nodup_append]
    refine ⟨h, List.nodup_cons.mpr ⟨List.not_mem_nil, List.nodup_nil⟩, ?_⟩
    intro b hb c hc heq
    exact ha (List.mem_singleton.mp hc ▸ heq ▸ hb)

/-- Gathering keeps everything and adds what is offered. -/
theorem mem_addAllNew (items more : List α) (b : α) :
    b ∈ addAllNew items more ↔ b ∈ items ∨ b ∈ more := by
  induction more generalizing items with
  | nil => simp only [addAllNew, List.foldl_nil, List.not_mem_nil, or_false]
  | cons a rest ih =>
      have hstep : addAllNew items (a :: rest) = addAllNew (addNew items a) rest := rfl
      rw [hstep, ih, mem_addNew, List.mem_cons, or_assoc]

/-- What is added is what is new, each element once. -/
theorem addAllNew_eq (items more : List α) :
    addAllNew items more = items ++ (more.filter (· ∉ items)).eraseDups := by
  induction more generalizing items with
  | nil => exact (List.append_nil items).symm
  | cons a rest ih =>
      have hstep : addAllNew items (a :: rest) = addAllNew (addNew items a) rest := rfl
      rw [hstep, ih]
      by_cases ha : a ∈ items
      · rw [addNew, if_pos ha, List.filter_cons_of_neg (by rwa [decide_eq_true_eq, not_not])]
      · have hfirst : (a :: rest).filter (· ∉ items) = a :: rest.filter (· ∉ items) :=
          List.filter_cons_of_pos (decide_eq_true ha)
        rw [addNew, if_neg ha, hfirst, List.eraseDups_cons, List.filter_filter, List.append_assoc,
          List.singleton_append]
        congr 3
        -- What comes later is new if it is not the element either.
        refine List.filter_congr fun b _ => ?_
        rw [Bool.eq_iff_iff, decide_eq_true_eq, Bool.and_eq_true, decide_eq_true_eq,
          Bool.not_eq_true', beq_eq_false_iff_ne, List.mem_append, List.mem_singleton, not_or,
          and_comm]

/-- A list gathered from nothing has every element once, where it comes first. -/
theorem addAllNew_nil (more : List α) : addAllNew [] more = more.eraseDups := by
  rw [addAllNew_eq, List.nil_append, List.filter_eq_self.mpr]
  exact fun b _ => decide_eq_true List.not_mem_nil

theorem addAllNew_append (items first second : List α) :
    addAllNew items (first ++ second) = addAllNew (addAllNew items first) second :=
  List.foldl_append

/-- What was gathered before it is added is added like what it was gathered from. -/
theorem addAllNew_addAllNew (items seen more : List α) :
    addAllNew items (addAllNew seen more) = addAllNew (addAllNew items seen) more := by
  induction more generalizing seen with
  | nil => rfl
  | cons a rest ih =>
      have hstep : addAllNew items (addNew seen a) = addNew (addAllNew items seen) a := by
        by_cases ha : a ∈ seen
        · rw [addNew, if_pos ha, addNew, if_pos ((mem_addAllNew items seen a).mpr (Or.inr ha))]
        · rw [addNew, if_neg ha, addAllNew_append]
          rfl
      have hright : addAllNew (addAllNew items seen) (a :: rest) =
          addAllNew (addNew (addAllNew items seen) a) rest := rfl
      rw [hright, ← hstep]
      exact ih (addNew seen a)

/-- Gathering what holds nothing twice only puts it behind. -/
theorem addAllNew_of_nodup (items more : List α) (h : (items ++ more).Nodup) :
    addAllNew items more = items ++ more := by
  induction more generalizing items with
  | nil => exact (List.append_nil items).symm
  | cons a rest ih =>
      have hstep : addAllNew items (a :: rest) = addAllNew (addNew items a) rest := rfl
      have ha : a ∉ items := fun hmem =>
        (List.nodup_append.mp h).2.2 a hmem a List.mem_cons_self rfl
      have hmoved : items ++ a :: rest = items ++ [a] ++ rest := (List.append_cons items a rest)
      rw [hstep, addNew, if_neg ha, hmoved]
      rw [hmoved] at h
      exact ih (items ++ [a]) h

/-- Gathering adds at the end. -/
theorem prefix_addAllNew (items more : List α) : items <+: addAllNew items more := by
  rw [addAllNew_eq]
  exact List.prefix_append items _

theorem nodup_addAllNew (items more : List α) (h : items.Nodup) : (addAllNew items more).Nodup := by
  induction more generalizing items with
  | nil => exact h
  | cons a rest ih => exact ih (addNew items a) (nodup_addNew items a h)

theorem nodup_eraseDups (items : List α) : items.eraseDups.Nodup := by
  rw [← addAllNew_nil]
  exact nodup_addAllNew [] items List.nodup_nil

/-- Without repetitions, one more member is added if it is new. -/
theorem eraseDups_concat (l : List α) (a : α) :
    (l ++ [a]).eraseDups = if a ∈ l then l.eraseDups else l.eraseDups ++ [a] := by
  have hstep : addAllNew [] (l ++ [a]) = addNew (addAllNew [] l) a := List.foldl_concat ..
  simpa only [addAllNew_nil, addNew, List.mem_eraseDups] using hstep

/-- Repetitions can be left out before or after others are. -/
theorem filter_eraseDups (q : α → Bool) (l : List α) :
    l.eraseDups.filter q = (l.filter q).eraseDups := by
  induction l using List.reverseRecOn with
  | nil => rfl
  | append_singleton l a ih =>
      rw [eraseDups_concat, List.filter_append, List.filter_singleton]
      cases hq : q a with
      | true =>
          rw [cond_true, eraseDups_concat]
          by_cases ha : a ∈ l
          · rw [if_pos ha, if_pos (List.mem_filter.mpr ⟨ha, hq⟩), ih]
          · rw [if_neg ha, if_neg fun h => ha (List.mem_filter.mp h).1, List.filter_append, ih,
              List.filter_singleton, hq, cond_true]
      | false =>
          rw [cond_false, List.append_nil]
          by_cases ha : a ∈ l
          · rw [if_pos ha, ih]
          · rw [if_neg ha, List.filter_append, ih, List.filter_singleton, hq, cond_false,
              List.append_nil]

end Gathering

namespace Requirements

theorem mem_imports_merge (a b : Requirements) (i : TypeImport) :
    i ∈ (a.merge b).imports ↔ i ∈ a.imports ∨ i ∈ b.imports :=
  mem_addAllNew a.imports b.imports i

/-- It does not matter which needs are merged first. -/
theorem merge_assoc (a b c : Requirements) : (a.merge b).merge c = a.merge (b.merge c) := by
  rw [merge, merge, merge, merge, addAllNew_addAllNew, addAllNew_addAllNew]

theorem foldl_merge (start : Requirements) (all : List Requirements) :
    all.foldl merge start = start.merge (mergeAll all) := by
  induction all generalizing start with
  | nil => rfl
  | cons q rest ih =>
      have hempty : start.merge empty = start := rfl
      have hcons : mergeAll (q :: rest) = rest.foldl merge (empty.merge q) := rfl
      rw [List.foldl_cons, ih, hcons, ih (empty.merge q), ← merge_assoc, ← merge_assoc, hempty]

/-- Needs can be merged in two parts. -/
theorem mergeAll_append (first second : List Requirements) :
    mergeAll (first ++ second) = (mergeAll first).merge (mergeAll second) := by
  rw [mergeAll, List.foldl_append, foldl_merge]
  rfl

/-- Needs that were merged have nothing to be left out. -/
theorem empty_merge_mergeAll (all : List Requirements) :
    empty.merge (mergeAll all) = mergeAll all :=
  (mergeAll_append [] all).symm

/-- Texts that need nothing can be left out. -/
theorem mergeAll_map_filter {α : Type} (needs : α → Requirements) (keep : α → Bool)
    (items : List α) (h : ∀ a ∈ items, keep a = false → needs a = empty) :
    mergeAll ((items.filter keep).map needs) = mergeAll (items.map needs) := by
  induction items with
  | nil => rfl
  | cons a rest ih =>
      have hrest := ih fun b hb => h b (List.mem_cons_of_mem a hb)
      have hcons : ∀ more, mergeAll (needs a :: more) = (mergeAll [needs a]).merge (mergeAll more) :=
        mergeAll_append [needs a]
      cases hkeep : keep a with
      | true =>
          rw [List.filter_cons_of_pos hkeep, List.map_cons, List.map_cons, hcons, hrest, ← hcons]
      | false =>
          have hempty : mergeAll [needs a] = empty := by
            rw [h a List.mem_cons_self hkeep]
            rfl
          rw [List.filter_cons_of_neg (Bool.not_eq_true _ ▸ hkeep), List.map_cons, hcons, hempty,
            hrest, empty_merge_mergeAll]

/-- The needs of several texts, in order: each of them once, where it comes first. -/
theorem mergeAll_eq (all : List Requirements) :
    mergeAll all =
      { imports := (all.flatMap (·.imports)).eraseDups
        unresolved := (all.flatMap (·.unresolved)).eraseDups } := by
  have hfold : ∀ start : Requirements, all.foldl merge start =
      { imports := addAllNew start.imports (all.flatMap (·.imports))
        unresolved := addAllNew start.unresolved (all.flatMap (·.unresolved)) } := by
    intro start
    induction all generalizing start with
    | nil => rfl
    | cons q rest ih =>
        rw [List.foldl_cons, ih, List.flatMap_cons, List.flatMap_cons, addAllNew_append,
          addAllNew_append]
        rfl
  rw [← addAllNew_nil, ← addAllNew_nil]
  exact hfold empty

/-- The needs of several texts are the needs of each. -/
theorem mem_mergeAll (all : List Requirements) (i : TypeImport) :
    i ∈ (mergeAll all).imports ↔ ∃ q ∈ all, i ∈ q.imports := by
  rw [mergeAll_eq, List.mem_eraseDups, List.mem_flatMap]

end Requirements

namespace ImportSet

/-- An import is not missing from an import list: it needs no entry, or some
    entry has its name. -/
def Covers (s : ImportSet) (i : TypeImport) : Prop :=
  i.module = "" ∨ i.name ∈ s.suppressed ∨ s.contains i.name = true

theorem accepts_iff (s : ImportSet) (i : TypeImport) :
    s.accepts i = true ↔
      i.module ≠ "" ∧ i.name ∉ s.suppressed ∧ s.contains i.name = false := by
  rw [accepts, Bool.and_eq_true, Bool.and_eq_true, decide_eq_true_eq, Bool.not_eq_true',
    Bool.not_eq_true', Bool.eq_false_iff, ne_eq, String.isEmpty_iff, and_assoc]
  rfl

theorem contains_eq_true_iff (s : ImportSet) (name : String) :
    s.contains name = true ↔ name ∈ s.toList.map (·.name) := by
  rw [contains, Table.contains_iff_mem_keys, Table.keys, toList, List.map_map]
  rfl

/-- An import list that knows nothing against an import takes it, behind the others. -/
theorem toList_add (set : ImportSet) (i : TypeImport) (hmodule : i.module ≠ "")
    (hsuppressed : i.name ∉ set.suppressed) (hnew : set.contains i.name = false) :
    (set.add i).toList = set.toList ++ [i] := by
  have hput : set.modules.contains i.name = false := hnew
  rw [add, if_pos ((set.accepts_iff i).mpr ⟨hmodule, hsuppressed, hnew⟩), toList, Table.put, hput,
    if_neg Bool.false_ne_true, List.map_append]
  rfl

theorem suppressed_add (s : ImportSet) (i : TypeImport) : (s.add i).suppressed = s.suppressed := by
  by_cases h : s.accepts i = true
  · rw [add, if_pos h]
  · rw [add, if_neg h]

theorem contains_add (s : ImportSet) (i : TypeImport) (name : String)
    (h : s.contains name = true) : (s.add i).contains name = true := by
  by_cases hacc : s.accepts i = true
  · rw [add, if_pos hacc]
    show (s.modules.put i.name i.module).contains name = true
    rw [Table.contains_put, Bool.or_eq_true]
    exact Or.inr h
  · rwa [add, if_neg hacc]

theorem covers_add (s : ImportSet) (i j : TypeImport) (h : s.Covers j) : (s.add i).Covers j := by
  rcases h with hmodule | hsuppressed | hcontains
  · exact Or.inl hmodule
  · exact Or.inr (Or.inl (by rwa [suppressed_add]))
  · exact Or.inr (Or.inr (contains_add s i j.name hcontains))

/-- An import that was offered is not missing: it was taken, or it was refused
    for one of the reasons not to miss it. -/
theorem covers_self_add (s : ImportSet) (i : TypeImport) : (s.add i).Covers i := by
  by_cases hacc : s.accepts i = true
  · rw [add, if_pos hacc]
    refine Or.inr (Or.inr ?_)
    show (s.modules.put i.name i.module).contains i.name = true
    rw [Table.contains_put, decide_eq_true rfl, Bool.true_or]
  · -- Not to be accepted is to have no module, to be suppressed or to be there.
    rw [add, if_neg hacc]
    simp only [accepts_iff, not_and, Bool.not_eq_false] at hacc
    by_cases hmodule : i.module = ""
    · exact Or.inl hmodule
    · by_cases hsuppressed : i.name ∈ s.suppressed
      · exact Or.inr (Or.inl hsuppressed)
      · exact Or.inr (Or.inr (hacc hmodule hsuppressed))

/-- Nothing comes to be missing from a list by offering it imports. -/
theorem covers_addAll (s : ImportSet) (imports : List TypeImport) (j : TypeImport)
    (h : s.Covers j) : (s.addAll imports).Covers j := by
  induction imports generalizing s with
  | nil => exact h
  | cons i rest ih => exact ih (s.add i) (covers_add s i j h)

/-- What was offered to a list is not missing from it. -/
theorem covers_of_mem_addAll (s : ImportSet) (imports : List TypeImport) (j : TypeImport)
    (hmem : j ∈ imports) : (s.addAll imports).Covers j := by
  -- From the step at which it is offered, nothing makes it missing again.
  induction imports generalizing s with
  | nil => exact absurd hmem List.not_mem_nil
  | cons i rest ih =>
      rcases List.mem_cons.mp hmem with rfl | hrest
      · exact covers_addAll (s.add j) rest j (covers_self_add s j)
      · exact ih (s.add i) hrest

/-- An import list is in order: no name occurs twice, and none is suppressed or
    has no module to be imported from. -/
structure Tidy (s : ImportSet) : Prop where
  nodup : (s.toList.map (·.name)).Nodup
  allowed : ∀ i ∈ s.toList, i.name ∉ s.suppressed
  outside : ∀ i ∈ s.toList, i.module ≠ ""

theorem tidy_suppressing (names : List String) : (suppressing names).Tidy where
  nodup := List.nodup_nil
  allowed := fun _ hi => absurd hi List.not_mem_nil
  outside := fun _ hi => absurd hi List.not_mem_nil

/-- An import list that accepts an import stays in order. -/
theorem Tidy.add {s : ImportSet} (h : s.Tidy) (i : TypeImport) : (s.add i).Tidy := by
  by_cases hacc : s.accepts i = true
  · rcases (s.accepts_iff i).mp hacc with ⟨hmodule, hsuppressed, hnew⟩
    have hlist := s.toList_add i hmodule hsuppressed hnew
    refine ⟨?_, ?_, ?_⟩
    · -- The name is not there yet, or the import would have been refused.
      have hfresh : i.name ∉ s.toList.map (·.name) := by
        rw [← contains_eq_true_iff, hnew]
        exact Bool.false_ne_true
      rw [hlist, List.map_append, List.map_singleton, List.nodup_append]
      refine ⟨h.nodup, List.nodup_cons.mpr ⟨List.not_mem_nil, List.nodup_nil⟩, ?_⟩
      intro a ha b hb heq
      exact hfresh (List.mem_singleton.mp hb ▸ heq ▸ ha)
    · intro j hj
      rw [suppressed_add]
      rw [hlist, List.mem_append, List.mem_singleton] at hj
      rcases hj with hj | rfl
      · exact h.allowed j hj
      · exact hsuppressed
    · intro j hj
      rw [hlist, List.mem_append, List.mem_singleton] at hj
      rcases hj with hj | rfl
      · exact h.outside j hj
      · exact hmodule
  · rwa [ImportSet.add, if_neg hacc]

/-- An import list stays in order, whatever it is offered. -/
theorem Tidy.addAll {s : ImportSet} (h : s.Tidy) (imports : List TypeImport) :
    (s.addAll imports).Tidy := by
  induction imports generalizing s with
  | nil => exact h
  | cons i rest ih => exact ih (h.add i)

theorem suppressed_addAll (s : ImportSet) (imports : List TypeImport) :
    (s.addAll imports).suppressed = s.suppressed := by
  induction imports generalizing s with
  | nil => rfl
  | cons i rest ih => exact (ih (s.add i)).trans (suppressed_add s i)

/-- An import that is not missing is not taken. -/
theorem add_of_covers (s : ImportSet) (i : TypeImport) (h : s.Covers i) : s.add i = s := by
  refine if_neg fun haccepts => ?_
  rcases (s.accepts_iff i).mp haccepts with ⟨hmodule, hsuppressed, hnew⟩
  rcases h with hnone | hmem | hcontains
  · exact hmodule hnone
  · exact hsuppressed hmem
  · rw [hnew] at hcontains
    contradiction

theorem addAll_append (s : ImportSet) (first second : List TypeImport) :
    s.addAll (first ++ second) = (s.addAll first).addAll second :=
  List.foldl_append

/-- What was gathered before it is offered is offered like what it was gathered from: what
    gathering leaves out would not be taken a second time. -/
theorem addAll_addAllNew (s : ImportSet) (items more : List TypeImport) :
    s.addAll (addAllNew items more) = (s.addAll items).addAll more := by
  induction more generalizing items with
  | nil => rfl
  | cons i rest ih =>
      have hstep : s.addAll (addNew items i) = (s.addAll items).add i := by
        by_cases hi : i ∈ items
        · rw [addNew, if_pos hi, add_of_covers _ i (s.covers_of_mem_addAll items i hi)]
        · rw [addNew, if_neg hi, addAll_append]
          rfl
      have hleft : addAllNew items (i :: rest) = addAllNew (addNew items i) rest := rfl
      have hright : (s.addAll items).addAll (i :: rest) =
          ((s.addAll items).add i).addAll rest := rfl
      rw [hleft, hright, ih (addNew items i), hstep]

theorem toList_prefix_add (s : ImportSet) (i : TypeImport) : s.toList <+: (s.add i).toList := by
  by_cases hacc : s.accepts i = true
  · rcases (s.accepts_iff i).mp hacc with ⟨hmodule, hsuppressed, hnew⟩
    rw [s.toList_add i hmodule hsuppressed hnew]
    exact List.prefix_append s.toList [i]
  · rewrite [ImportSet.add, if_neg hacc]
    exact List.prefix_rfl

/-- The imports of a list keep their places and modules, whatever it is offered. -/
theorem toList_prefix_addAll (s : ImportSet) (imports : List TypeImport) :
    s.toList <+: (s.addAll imports).toList := by
  induction imports generalizing s with
  | nil => exact List.prefix_rfl
  | cons i rest ih => exact (toList_prefix_add s i).trans (ih (s.add i))

end ImportSet

namespace Dependencies

/-- Taking in the merged needs of two texts is taking in those of one after the other. -/
theorem absorb_merge (d : Dependencies) (a b : Requirements) :
    d.absorb (a.merge b) = (d.absorb a).absorb b := by
  rw [absorb, absorb, absorb, Requirements.merge, ImportSet.addAll_addAllNew,
    addAllNew_addAllNew]

theorem absorbAll_append (d : Dependencies) (first second : List Requirements) :
    d.absorbAll (first ++ second) = (d.absorbAll first).absorbAll second :=
  List.foldl_append

/-- Taking in merged needs is taking in each of them. -/
theorem absorb_mergeAll (d : Dependencies) (all : List Requirements) :
    d.absorb (Requirements.mergeAll all) = d.absorbAll all := by
  induction all generalizing d with
  | nil => rfl
  | cons q rest ih =>
      have hcons : Requirements.mergeAll (q :: rest) =
          (Requirements.empty.merge q).merge (Requirements.mergeAll rest) :=
        Requirements.mergeAll_append [q] rest
      have hempty : d.absorb Requirements.empty = d := rfl
      rw [hcons, absorb_merge, absorb_merge, hempty, ih]
      rfl

/-- It does not matter in which groups needs were merged. -/
theorem absorbAll_map_mergeAll {α : Type} (d : Dependencies) (group : α → List Requirements)
    (items : List α) :
    d.absorbAll (items.map fun a => Requirements.mergeAll (group a)) =
      d.absorbAll (items.flatMap group) := by
  induction items generalizing d with
  | nil => rfl
  | cons a rest ih =>
      have hfirst := d.absorb_mergeAll (group a)
      rw [List.flatMap_cons, absorbAll_append, ← hfirst]
      exact ih (d.absorb (Requirements.mergeAll (group a)))

/-- Taking in what several texts need is offering the imports of each, and gathering what
    could not be resolved in any of them. -/
theorem absorbAll_eq (d : Dependencies) (all : List Requirements) :
    d.absorbAll all =
      { imports := all.foldl (fun imports q => imports.addAll q.imports) d.imports
        unresolved := addAllNew d.unresolved (all.flatMap (·.unresolved)) } := by
  induction all generalizing d with
  | nil => rfl
  | cons q rest ih =>
      have hcons : d.absorbAll (q :: rest) = (d.absorb q).absorbAll rest := rfl
      rw [hcons, ih, List.flatMap_cons, addAllNew_append]
      rfl

/-- What taking in one text's needs keeps, taking in several texts' keeps. -/
theorem absorbAll_induction {motive : Dependencies → Prop}
    (habsorb : ∀ d q, motive d → motive (d.absorb q)) (d : Dependencies)
    (all : List Requirements) (h : motive d) : motive (d.absorbAll all) := by
  induction all generalizing d with
  | nil => exact h
  | cons q rest ih => exact ih (d.absorb q) (habsorb d q h)

/-- Nothing comes to be missing from a declaration by taking needs in. -/
theorem covers_absorbAll (d : Dependencies) (all : List Requirements) (i : TypeImport)
    (h : d.imports.Covers i) : (d.absorbAll all).imports.Covers i :=
  absorbAll_induction (motive := fun d => d.imports.Covers i)
    (fun d q => d.imports.covers_addAll q.imports i) d all h

/-- The imports of a declaration are in order, and a list of names is suppressed
    in them. -/
def TidyWithout (d : Dependencies) (names : List String) : Prop :=
  d.imports.Tidy ∧ d.imports.suppressed = names

theorem tidyWithout_suppressing (names : List String) : (suppressing names).TidyWithout names :=
  ⟨ImportSet.tidy_suppressing names, rfl⟩

/-- Imports stay in order, whatever a declaration takes in. -/
theorem TidyWithout.absorb {d : Dependencies} {names : List String} (h : d.TidyWithout names)
    (q : Requirements) : (d.absorb q).TidyWithout names :=
  ⟨h.1.addAll q.imports, (d.imports.suppressed_addAll q.imports).trans h.2⟩

/-- Dependencies are extended at the end and nowhere else: every import keeps its
    place and its module, the same names are refused, and every token that could
    not be resolved keeps its place. -/
structure GrowsTo (d e : Dependencies) : Prop where
  imports : d.imports.toList <+: e.imports.toList
  suppressed : e.imports.suppressed = d.imports.suppressed
  unresolved : d.unresolved <+: e.unresolved

theorem growsTo_refl (d : Dependencies) : d.GrowsTo d :=
  ⟨List.prefix_rfl, rfl, List.prefix_rfl⟩

/-- Taking in needs extends dependencies at the end. -/
theorem GrowsTo.absorb {d e : Dependencies} (h : d.GrowsTo e) (q : Requirements) :
    d.GrowsTo (e.absorb q) where
  imports := h.imports.trans (e.imports.toList_prefix_addAll q.imports)
  suppressed := (e.imports.suppressed_addAll q.imports).trans h.suppressed
  unresolved := h.unresolved.trans (prefix_addAllNew e.unresolved q.unresolved)

/-- What was taken in is not missing. -/
theorem covers_of_mem_absorbAll (d : Dependencies) (all : List Requirements)
    (q : Requirements) (hq : q ∈ all) (i : TypeImport) (hi : i ∈ q.imports) :
    (d.absorbAll all).imports.Covers i := by
  induction all generalizing d with
  | nil => exact absurd hq List.not_mem_nil
  | cons p rest ih =>
      rcases List.mem_cons.mp hq with rfl | hrest
      · exact covers_absorbAll (d.absorb q) rest i (d.imports.covers_of_mem_addAll q.imports i hi)
      · exact ih (d.absorb p) hrest

end Dependencies

end Typings
