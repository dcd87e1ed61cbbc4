import Typings.Proofs.Requirements

/-!
# The First of Everything

Requirements and import lists both keep the first of what comes twice, but they do not
mean the same by it. Requirements tell imports apart by name and module. An import list
goes by names alone: a second module for a name is a repetition to it and none to the
requirements.

Still it does not matter where repetitions are left out. Merging requirements is
associative, a text needs nothing more for being counted twice, and a list that is offered
merged requirements is left as if it had been offered those of one text after the other.

An import list can be used in two ways, by offering it one import or several. However it
was used, its entries are told by what it was offered (`ImportSet.KeepsFirst`), and one
more import is all that an induction has to look at.

## Main definitions

* `Requirements.HasNoRepeats`: Requirements hold nothing twice.
* `ImportSet.Call`, `ImportSet.run`: The uses of an import list, and several of them.
* `ImportSet.Call.answer?`: What a call says about the import it offers.
* `ImportSet.KeepsFirst`: The entries of an import list, told by what it was offered.

## Theorems

* `Requirements.merge_self`, `Requirements.empty_merge`: Repetitions and empty requirements
  add nothing.
* `ImportSet.run_eq`: Calls are imports offered one after the other.
* `ImportSet.KeepsFirst.add`, `ImportSet.keepsFirst_run`: What one call keeps, and what all
  calls do.
* `ImportSet.accepts_iff_size_lt`: An import is accepted if there is one more afterwards.
* `ImportSet.first_wins`: All of that together.
-/

namespace Typings

namespace Requirements

/-- Requirements hold nothing twice. -/
structure HasNoRepeats (r : Requirements) : Prop where
  imports : r.imports.Nodup
  unresolved : r.unresolved.Nodup

/-- Merged requirements hold nothing twice if the first ones do not. -/
theorem HasNoRepeats.merge {a : Requirements} (h : a.HasNoRepeats) (b : Requirements) :
    (a.merge b).HasNoRepeats :=
  ⟨nodup_addAllNew a.imports b.imports h.imports,
    nodup_addAllNew a.unresolved b.unresolved h.unresolved⟩

/-- Nothing is added that is there already. -/
theorem merge_self (a : Requirements) : a.merge a = a := by
  have hself : ∀ {α : Type} [DecidableEq α] (items : List α), addAllNew items items = items := by
    intro α _ items
    have hnone : items.filter (· ∉ items) = [] :=
      List.filter_eq_nil_iff.mpr fun b hb => by rwa [decide_eq_true_eq, not_not]
    rw [addAllNew_eq, hnone, List.eraseDups_nil, List.append_nil]
  rw [merge, hself, hself]

theorem merge_empty (a : Requirements) : a.merge empty = a := rfl

/-- What holds nothing twice is gathered as it is. -/
theorem empty_merge {a : Requirements} (h : a.HasNoRepeats) : empty.merge a = a := by
  have himports := addAllNew_of_nodup [] a.imports h.imports
  have hunresolved := addAllNew_of_nodup [] a.unresolved h.unresolved
  rw [List.nil_append] at himports hunresolved
  rw [merge]
  exact congrArg₂ Requirements.mk himports hunresolved

end Requirements

namespace ImportSet

/-- The uses of an import list: it is offered one import, or several. -/
inductive Call where
  | add (i : TypeImport)
  | extend (imports : List TypeImport)
  deriving DecidableEq, Repr

namespace Call

/-- What a call offers, in order. -/
def offered : Call → List TypeImport
  | add i => [i]
  | extend imports => imports

/-- What a call leaves. -/
def apply (s : ImportSet) : Call → ImportSet
  | add i => s.add i
  | extend imports => s.addAll imports

/-- What a call answers: whether the one import it offers was taken. -/
def answer? (s : ImportSet) : Call → Option Bool
  | add i => some (s.accepts i)
  | extend _ => none

end Call

/-- Calls one after the other. -/
def run (s : ImportSet) (calls : List Call) : ImportSet :=
  calls.foldl Call.apply s

/-- Calls are imports offered one after the other. -/
theorem run_eq (s : ImportSet) (calls : List Call) :
    s.run calls = s.addAll (calls.flatMap Call.offered) := by
  induction calls generalizing s with
  | nil => rfl
  | cons call rest ih =>
      have hstep : call.apply s = s.addAll call.offered := by
        cases call <;> rfl
      rw [run, List.foldl_cons, hstep, List.flatMap_cons, addAll_append]
      exact ih (s.addAll call.offered)

theorem run_append (s : ImportSet) (first second : List Call) :
    s.run (first ++ second) = (s.run first).run second :=
  List.foldl_append

/-- Whether an import can be in a list that suppresses names, if nothing has its name yet. -/
def isAdmitted (names : List String) (i : TypeImport) : Bool :=
  !i.module.isEmpty && i.name ∉ names

theorem isAdmitted_iff (names : List String) (i : TypeImport) :
    isAdmitted names i = true ↔ i.module ≠ "" ∧ i.name ∉ names := by
  rw [isAdmitted, Bool.and_eq_true, decide_eq_true_eq, Bool.not_eq_true', Bool.eq_false_iff, ne_eq,
    String.isEmpty_iff]

/-- The entries of an import list that suppresses names, told by what it was offered: the
    names of what it could take, in the order in which they were first offered, and for each
    of them the first import with a module. -/
structure KeepsFirst (names : List String) (offers : List TypeImport) (s : ImportSet) : Prop where
  suppressed : s.suppressed = names
  names_eq : s.toList.map (·.name) = ((offers.filter (isAdmitted names)).map (·.name)).eraseDups
  first : ∀ i ∈ s.toList, offers.find? (fun j => j.name = i.name && !j.module.isEmpty) = some i
  allowed : ∀ i ∈ s.toList, i.module ≠ "" ∧ i.name ∉ names

namespace KeepsFirst

variable {names : List String} {offers : List TypeImport} {s : ImportSet}

theorem nodup (h : KeepsFirst names offers s) : (s.toList.map (·.name)).Nodup := by
  rw [h.names_eq]
  exact nodup_eraseDups _

/-- An import is accepted if it is the first of its name that could be taken. -/
theorem accepts_iff (h : KeepsFirst names offers s) (i : TypeImport) :
    s.accepts i = true ↔
      isAdmitted names i = true ∧ i.name ∉ (offers.filter (isAdmitted names)).map (·.name) := by
  have hname : i.name ∈ (offers.filter (isAdmitted names)).map (·.name) ↔
      s.contains i.name = true := by
    rw [contains_eq_true_iff, h.names_eq, List.mem_eraseDups]
  rw [ImportSet.accepts_iff, isAdmitted_iff, h.suppressed, and_assoc, hname, Bool.not_eq_true]

/-- One more import that is offered. -/
theorem add (h : KeepsFirst names offers s) (i : TypeImport) :
    KeepsFirst names (offers ++ [i]) (s.add i) := by
  have hsuppressed : (s.add i).suppressed = names := (suppressed_add s i).trans h.suppressed
  have hfirst : ∀ j ∈ s.toList,
      (offers ++ [i]).find? (fun k => k.name = j.name && !k.module.isEmpty) = some j :=
    fun j hj => List.find?_append.trans (by rw [h.first j hj]; rfl)
  by_cases haccepts : s.accepts i = true
  · rcases (ImportSet.accepts_iff s i).mp haccepts with ⟨hmodule, hname, hnew⟩
    rcases (h.accepts_iff i).mp haccepts with ⟨hadmitted, hfresh⟩
    have hlist := s.toList_add i hmodule hname hnew
    refine ⟨hsuppressed, ?_, ?_, ?_⟩
    · rw [hlist, List.map_append, h.names_eq, List.filter_append,
        List.filter_cons_of_pos hadmitted, List.filter_nil, List.map_append, List.map_singleton,
        eraseDups_concat, if_neg hfresh]
    · intro j hj
      rw [hlist, List.mem_append, List.mem_singleton] at hj
      rcases hj with hj | rfl
      · exact hfirst j hj
      · -- No import of that name had a module before, or it would be in the list.
        have hnone : offers.find? (fun k => k.name = j.name && !k.module.isEmpty) = none := by
          rw [List.find?_eq_none]
          intro k hk hboth
          rw [Bool.and_eq_true, decide_eq_true_eq, Bool.not_eq_true', Bool.eq_false_iff, ne_eq,
            String.isEmpty_iff] at hboth
          refine hfresh (List.mem_map.mpr ⟨k, List.mem_filter.mpr ⟨hk, ?_⟩, hboth.1⟩)
          rw [isAdmitted_iff, hboth.1]
          exact ⟨hboth.2, ((isAdmitted_iff names j).mp hadmitted).2⟩
        rw [List.find?_append, hnone, Option.none_or, List.find?_singleton, if_pos]
        rw [Bool.and_eq_true, decide_eq_true_eq, Bool.not_eq_true', Bool.eq_false_iff, ne_eq,
          String.isEmpty_iff]
        exact ⟨rfl, hmodule⟩
    · intro j hj
      rw [hlist, List.mem_append, List.mem_singleton] at hj
      rcases hj with hj | rfl
      · exact h.allowed j hj
      · exact (isAdmitted_iff names j).mp hadmitted
  · have hsame : s.add i = s := by
      rw [ImportSet.add, if_neg haccepts]
    rw [hsame]
    refine ⟨h.suppressed, ?_, hfirst, h.allowed⟩
    rw [h.names_eq, List.filter_append, List.map_append]
    by_cases hadmitted : isAdmitted names i = true
    · -- It could be taken, so it is refused for its name.
      have hold : i.name ∈ (offers.filter (isAdmitted names)).map (·.name) := by
        by_contra hfresh
        exact haccepts ((h.accepts_iff i).mpr ⟨hadmitted, hfresh⟩)
      rw [List.filter_cons_of_pos hadmitted, List.filter_nil, List.map_singleton,
        eraseDups_concat, if_pos hold]
    · rw [List.filter_cons_of_neg hadmitted, List.filter_nil, List.map_nil, List.append_nil]

end KeepsFirst

/-- However an import list is used, its entries are the first ones it was offered. -/
theorem keepsFirst_run (names : List String) (calls : List Call) :
    KeepsFirst names (calls.flatMap Call.offered) ((suppressing names).run calls) := by
  rw [run_eq]
  generalize calls.flatMap Call.offered = offers
  induction offers using List.reverseRecOn with
  | nil =>
      exact ⟨rfl, rfl, fun _ hi => absurd hi List.not_mem_nil, fun _ hi => absurd hi List.not_mem_nil⟩
  | append_singleton offers i ih =>
      rw [addAll_append]
      exact ih.add i

theorem size_eq (s : ImportSet) : s.size = s.toList.length :=
  (List.length_map _).symm

/-- An import is accepted if there is one more import afterwards, and otherwise nothing has
    changed. -/
theorem accepts_iff_size_lt (s : ImportSet) (i : TypeImport) :
    (s.accepts i = true ↔ s.size < (s.add i).size) ∧ (s.accepts i = false → s.add i = s) := by
  by_cases haccepts : s.accepts i = true
  · rcases (s.accepts_iff i).mp haccepts with ⟨hmodule, hname, hnew⟩
    refine ⟨iff_of_true haccepts ?_, fun hnot => absurd haccepts (by rw [hnot]; decide)⟩
    rw [size_eq, size_eq, s.toList_add i hmodule hname hnew, List.length_append]
    exact Nat.lt_succ_self _
  · have hsame : s.add i = s := by
      rw [add, if_neg haccepts]
    refine ⟨iff_of_false haccepts ?_, fun _ => hsame⟩
    rw [hsame]
    exact Nat.lt_irrefl _

/-- The first of everything is kept, and repetitions can be left out anywhere. Merging
    requirements that hold nothing twice is associative and idempotent, and empty
    requirements are its identity. An import list that is offered merged requirements is
    left as if it was offered those of each text. However a list is used, its entries are
    the first ones it was offered, no two of one name; they keep their places and modules
    whatever it is offered later, and the answer to an import tells whether there is one
    more of them. -/
theorem first_wins (a b c : Requirements) (ha : a.HasNoRepeats)
    (s : ImportSet) (names : List String) (calls later : List Call) :
    ((a.merge b).HasNoRepeats ∧ (a.merge b).merge c = a.merge (b.merge c) ∧ a.merge a = a ∧
      Requirements.empty.merge a = a ∧ a.merge Requirements.empty = a) ∧
    s.addAll (a.merge b).imports = (s.addAll a.imports).addAll b.imports ∧
    KeepsFirst names (calls.flatMap Call.offered) ((suppressing names).run calls) ∧
    (((suppressing names).run calls).toList.map (·.name)).Nodup ∧
    ((suppressing names).run calls).toList <+: ((suppressing names).run (calls ++ later)).toList ∧
    ∀ i, (Call.add i).answer? ((suppressing names).run calls) = some true ↔
      ((suppressing names).run calls).size <
        ((suppressing names).run (calls ++ [Call.add i])).size := by
  have hkeeps := keepsFirst_run names calls
  refine ⟨⟨ha.merge b, Requirements.merge_assoc a b c, Requirements.merge_self a,
    Requirements.empty_merge ha, Requirements.merge_empty a⟩,
    s.addAll_addAllNew a.imports b.imports, hkeeps, hkeeps.nodup, ?_, fun i => ?_⟩
  · rw [run_append, run_eq _ later]
    exact toList_prefix_addAll _ _
  · rw [run_append, Call.answer?, Option.some_inj]
    exact (accepts_iff_size_lt _ i).1

/-- Two texts that need a type of one name, of different modules. -/
def rivalNeeds : Requirements × Requirements :=
  (⟨[⟨"Color", "lib"⟩, ⟨"Size", "lib"⟩], ["lib.Gone"]⟩, ⟨[⟨"Color", "other"⟩], ["lib.Gone"]⟩)

/-- Merged, they need both. An import list keeps the first, and not the name it suppresses. -/
theorem first_wins_rivalNeeds :
    rivalNeeds.1.HasNoRepeats ∧ (rivalNeeds.1.merge rivalNeeds.2).imports.length = 3 ∧
      rivalNeeds.1.merge rivalNeeds.1 = rivalNeeds.1 ∧
      ((suppressing ["Size"]).run [.extend (rivalNeeds.1.merge rivalNeeds.2).imports]).toList =
        [⟨"Color", "lib"⟩] := by
  have hnone : rivalNeeds.1.HasNoRepeats := ⟨by decide, by decide⟩
  rcases first_wins rivalNeeds.1 rivalNeeds.2 Requirements.empty hnone (suppressing ["Size"])
    ["Size"] [] [] with ⟨⟨_, _, hself, _, _⟩, hmerged, _, _, _, _⟩
  refine ⟨hnone, by decide, hself, ?_⟩
  rw [run_eq, List.flatMap_singleton, Call.offered, hmerged]
  decide

end ImportSet

end Typings
