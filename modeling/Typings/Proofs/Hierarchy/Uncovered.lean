import Typings.Proofs.Hierarchy.Sources

/-!
# Pairings Left Uncovered

A base method that no own method fails to cover is not carried. Whether it is
covered is decided at its turn, on the return types of that moment, and later
turns go on changing these. They mostly change them for the better: a return
type that gains alternatives covers what it covered before. The exception is an
own method that comes to return its receiver, which gives up all its
alternatives for one.

So a pairing that is not carried can look uncovered in the end, but only by way
of a turn that comes later and makes the own method return its receiver. The
order of the base's methods decides: had that turn come first, the pairing would
have been found uncovered, and the base method carried.

## Main definitions

* `Method.TurnsFluent`: A turn makes an own method return its receiver.
* `ClassModel.LeavesNoneUncovered`: No base method is uncovered and not carried.

## Theorems

* `Method.exists_turnsFluent`: A method that comes to return its receiver does
  so at some turn.
* `Method.overloadDecision_finished_iff`: How a covered pairing ends.
* `ClassModel.leavesNoneUncovered_iff`: When a class leaves none.
* `Hierarchy.leavesNoneUncovered_createOverloads_iff`: The same for a class of a
  hierarchy.
-/

namespace Typings

namespace Method

variable (r : Resolver) (baseId : Nat) (base : List Method)

/-- The turn of the base method at a place makes an own method return its
    receiver. -/
def TurnsFluent (own : Method) (k : Nat) : Prop :=
  (own.before r baseId base k).returnText ≠ thisType ∧
    (own.before r baseId base (k + 1)).returnText = thisType

/-- A method that comes to return its receiver does so at some turn. -/
theorem exists_turnsFluent (own : Method) (k n : Nat) (hkn : k ≤ n)
    (hbefore : (own.before r baseId base k).returnText ≠ thisType)
    (hafter : (own.before r baseId base n).returnText = thisType) :
    ∃ j, k ≤ j ∧ j < n ∧ own.TurnsFluent r baseId base j := by
  -- Either it did so before the last turn, or the last turn is the one.
  induction n, hkn using Nat.le_induction with
  | base => exact absurd hafter hbefore
  | succ n hkn ih =>
      by_cases hthis : (own.before r baseId base n).returnText = thisType
      · rcases ih hthis with ⟨j, hkj, hjn, hturn⟩
        exact ⟨j, hkj, Nat.lt_succ_of_lt hjn, hturn⟩
      · exact ⟨n, hkn, Nat.lt_succ_self n, hthis, hafter⟩

/-- A base method whose alternatives are more than the receiver type is not
    covered by a method that returns its receiver. -/
theorem overloadDecision_of_this (own b : Method) (hname : own.name = b.name)
    (hthis : own.returnText = thisType) (hother : ∃ a ∈ alternatives b.returnText, a ≠ thisType) :
    own.overloadDecision b = .overload := by
  rcases hother with ⟨a, ha, hne⟩
  refine (overloadDecision_eq_overload_iff own b).mpr ⟨hname, Or.inr ⟨?_, ?_⟩⟩
  · intro hb
    rw [hb, alternatives_thisType, List.mem_singleton] at ha
    exact hne ha
  · rw [Bool.eq_false_iff, Ne, coversReturn_iff, hthis, alternatives_thisType]
    exact fun h => hne (List.mem_singleton.mp (h a ha))

section Turn

variable (k : Nat) (b own : Method) (hb : base[k]? = some b)

theorem hasTypeConflict_finished :
    (own.finished r baseId base).hasTypeConflict b =
      (own.before r baseId base k).hasTypeConflict b := by
  rw [finished, before, hasTypeConflict_after, hasTypeConflict_after]

variable (hflag : ¬ IsFlagged r baseId base k b own) (hname : own.name = b.name)

include hflag hname

theorem coversReturn_of_not_flagged (hthis : b.returnText ≠ thisType) :
    (own.before r baseId base k).hasTypeConflict b = false ∧
      (own.before r baseId base k).coversReturn b = true := by
  rw [IsFlagged, overloadDecision_eq_overload_iff, name_before] at hflag
  simp only [hname, true_and, not_or, not_and, Bool.not_eq_true, Bool.not_eq_false] at hflag
  exact ⟨hflag.1, hflag.2 hthis⟩

include hb

/-- A turn at which the base method is covered changes nothing. -/
theorem before_succ_of_not_flagged (hthis : b.returnText ≠ thisType) :
    own.before r baseId base (k + 1) = own.before r baseId base k := by
  rcases coversReturn_of_not_flagged r baseId base k b own hflag hname hthis with
    ⟨hconflict, hcovers⟩
  rw [before_succ r baseId base k b own hb, meet_of_covered r b _ _ hthis hconflict hcovers]

/-- A method that covers more than the receiver type does not return its
    receiver. -/
theorem returnText_before_succ_ne (hother : ∃ a ∈ alternatives b.returnText, a ≠ thisType) :
    (own.before r baseId base (k + 1)).returnText ≠ thisType := by
  rcases hother with ⟨a, ha, hne⟩
  have hthis : b.returnText ≠ thisType := by
    intro hthis
    rw [hthis, alternatives_thisType, List.mem_singleton] at ha
    exact hne ha
  rw [before_succ_of_not_flagged r baseId base k b own hb hflag hname hthis]
  intro hfluent
  have hcovers := (coversReturn_of_not_flagged r baseId base k b own hflag hname hthis).2
  have hmem := (coversReturn_iff _ b).mp hcovers a ha
  rw [hfluent, alternatives_thisType, List.mem_singleton] at hmem
  exact hne hmem

/-- What covered a base method at its turn covers it in the end, unless it comes
    to return its receiver. -/
theorem returnText_finished_of_uncovered (hthis : b.returnText ≠ thisType)
    (huncovered : (own.finished r baseId base).coversReturn b = false) :
    (own.finished r baseId base).returnText = thisType := by
  rcases coversReturn_of_not_flagged r baseId base k b own hflag hname hthis with
    ⟨hconflict, hcovers⟩
  have hturn := finished_eq r baseId base k b own hb
  rw [meet_of_covered r b _ _ hthis hconflict hcovers] at hturn
  rcases after_widens r baseId (own.before r baseId base k) ((numbered base).drop (k + 1)) with
    hfluent | hwide
  · rw [hturn, hfluent]
  · refine absurd ((coversReturn_iff _ b).mpr fun a ha => ?_) (Bool.eq_false_iff.mp huncovered)
    rw [hturn]
    exact hwide a ((coversReturn_iff _ b).mp hcovers a ha)

end Turn

/-- A pairing that was found covered at its turn looks uncovered in the end
    exactly if the base method has alternatives besides the receiver type and a
    later turn makes the own method return its receiver. -/
theorem overloadDecision_finished_iff (k : Nat) (b own : Method) (hb : base[k]? = some b)
    (hflag : ¬ IsFlagged r baseId base k b own) :
    (own.finished r baseId base).overloadDecision b = .overload ↔
      own.name = b.name ∧ (∃ a ∈ alternatives b.returnText, a ≠ thisType) ∧
        ∃ j, k < j ∧ j < base.length ∧ own.TurnsFluent r baseId base j := by
  constructor
  · intro hoverload
    rcases (overloadDecision_eq_overload_iff _ b).mp hoverload with ⟨hname, huncovered⟩
    rw [name_finished] at hname
    have hconflict : (own.before r baseId base k).hasTypeConflict b = false := by
      rw [IsFlagged, overloadDecision_eq_overload_iff, name_before] at hflag
      simp only [hname, true_and, not_or, Bool.not_eq_true] at hflag
      exact hflag.1
    rw [hasTypeConflict_finished r baseId base k, hconflict] at huncovered
    simp only [Bool.false_eq_true, false_or] at huncovered
    -- A return type that only grew would still cover the base method.
    have hthis := returnText_finished_of_uncovered r baseId base k b own hb hflag hname
      huncovered.1 huncovered.2
    have hother : ∃ a ∈ alternatives b.returnText, a ≠ thisType := by
      have hnot := Bool.eq_false_iff.mp huncovered.2
      rw [Ne, coversReturn_iff, hthis, alternatives_thisType] at hnot
      simp only [List.mem_singleton, not_forall] at hnot
      rcases hnot with ⟨a, ha, hne⟩
      exact ⟨a, ha, hne⟩
    have hk : k < base.length := (List.getElem?_eq_some_iff.mp hb).1
    -- It did not return its receiver right after the turn, but does in the end.
    have hbefore := returnText_before_succ_ne r baseId base k b own hb hflag hname hother
    rw [← before_length] at hthis
    rcases exists_turnsFluent r baseId base own (k + 1) base.length hk hbefore hthis with
      ⟨j, hkj, hj, hfluent⟩
    exact ⟨hname, hother, j, hkj, hj, hfluent⟩
  · rintro ⟨hname, hother, j, _, hj, _, hfluent⟩
    refine overloadDecision_of_this _ b ((name_finished r baseId base own).trans hname) ?_ hother
    rw [← before_length, ← Nat.add_sub_cancel' hj, before_add]
    exact returnText_after_of_this r baseId _ _ hfluent

end Method

namespace ClassModel

/-- No base method is uncovered by an own method in the end without having been
    carried. -/
def LeavesNoneUncovered (r : Resolver) (base c : ClassModel) (baseId : Nat) : Prop :=
  ∀ b ∈ base.methods, b ∉ (carryFrom r base c baseId).carried →
    ∀ o ∈ (carryFrom r base c baseId).own, o.name = b.name → o.overloadDecision b ≠ .overload

/-- A class leaves no pairing uncovered exactly if none of its methods comes to
    return its receiver behind a base method that was not carried, has the same
    name and returns something else. -/
theorem leavesNoneUncovered_iff (r : Resolver) (base c : ClassModel) (baseId : Nat) :
    LeavesNoneUncovered r base c baseId ↔
      ∀ k b, base.methods[k]? = some b → b ∉ (carryFrom r base c baseId).carried →
        ∀ o ∈ c.methods, o.name = b.name → (∃ a ∈ alternatives b.returnText, a ≠ thisType) →
          ∀ j, k < j → j < base.methods.length → ¬ o.TurnsFluent r baseId base.methods j := by
  have hflag : ∀ k b, base.methods[k]? = some b → b ∉ (carryFrom r base c baseId).carried →
      ∀ o ∈ c.methods, ¬ IsFlagged r baseId base.methods k b o := by
    intro k b hb hnot o ho hflag
    exact hnot ((mem_carried_carryFrom r base c baseId b).mpr ⟨k, hb, o, ho, hflag⟩)
  constructor
  · intro hnone k b hb hnot o ho hname hother j hkj hj hturn
    have hown : o.finished r baseId base.methods ∈ (carryFrom r base c baseId).own := by
      rw [own_carryFrom]
      exact List.mem_map_of_mem ho
    refine hnone b (List.mem_of_getElem? hb) hnot _ hown
      ((Method.name_finished r baseId base.methods o).trans hname) ?_
    exact (Method.overloadDecision_finished_iff r baseId base.methods k b o hb
      (hflag k b hb hnot o ho)).mpr ⟨hname, hother, j, hkj, hj, hturn⟩
  · intro hturns b hmem hnot m hm hname hoverload
    rcases List.mem_iff_getElem?.mp hmem with ⟨k, hb⟩
    rw [own_carryFrom, List.mem_map] at hm
    rcases hm with ⟨o, ho, rfl⟩
    rcases (Method.overloadDecision_finished_iff r baseId base.methods k b o hb
      (hflag k b hb hnot o ho)).mp hoverload with ⟨hname', hother, j, hkj, hj, hturn⟩
    exact hturns k b hb hnot o ho hname' hother j hkj hj hturn

end ClassModel

namespace Hierarchy

/-- A class that is finished from its base leaves no pairing uncovered, unless a
    method of it comes to return its receiver too late. -/
theorem leavesNoneUncovered_createOverloads_iff (r : Resolver) (h : Hierarchy) (i b : Nat)
    (c base : ClassModel) (hget : h.get? i = some c) (hbase : c.baseId = some b)
    (hgetb : h.get? b = some base) :
    (createOverloads r h i).1.get? i = some (c.finish (ClassModel.carryFrom r base c b)) ∧
      (ClassModel.LeavesNoneUncovered r base c b ↔
        ∀ k m, base.methods[k]? = some m → m ∉ (ClassModel.carryFrom r base c b).carried →
          ∀ o ∈ c.methods, o.name = m.name → (∃ a ∈ alternatives m.returnText, a ≠ thisType) →
            ∀ j, k < j → j < base.methods.length → ¬ o.TurnsFluent r b base.methods j) := by
  refine ⟨?_, ClassModel.leavesNoneUncovered_iff r base c b⟩
  rw [createOverloads_of_base r h i b c base hget hbase hgetb]
  simp only [get?_modify, if_pos, hget, Option.map_some]

section Example

/-- A class whose method is held first against a base method that it covers, and
    then against one that makes it return its receiver. -/
def accessorSource : Api.Source where
  library := "lib"
  symbols :=
    [{ kind := .class, name := "lib.A",
       methods := [{ name := "value", returnValue := some { type := "number" } },
                   { name := "value", parameters := [{ name := "x", type := "number" }],
                     returnValue := some { type := "this" } }] },
     { kind := .class, name := "lib.B", base := some "lib.A",
       methods := [{ name := "value", returnValue := some { type := "number" } }] }]

/-- The resolver of the two classes. -/
def accessorResolver : Resolver where
  registry := Registry.ofSources [accessorSource]

/-- The two classes. -/
def accessorClasses : Hierarchy :=
  ofSources accessorResolver .class .class [accessorSource]

/-- The class that comes to return its receiver too late. -/
theorem leavesNoneUncovered_accessorClasses_iff :
    ∃ c base, accessorClasses.link.1.get? 1 = some c ∧ c.baseId = some 0 ∧
      accessorClasses.link.1.get? 0 = some base ∧
      (createOverloads accessorResolver accessorClasses.link.1 1).1.get? 1 =
        some (c.finish (ClassModel.carryFrom accessorResolver base c 0)) ∧
      (ClassModel.LeavesNoneUncovered accessorResolver base c 0 ↔
        ∀ k m, base.methods[k]? = some m →
          m ∉ (ClassModel.carryFrom accessorResolver base c 0).carried →
          ∀ o ∈ c.methods, o.name = m.name → (∃ a ∈ alternatives m.returnText, a ≠ thisType) →
            ∀ j, k < j → j < base.methods.length →
              ¬ o.TurnsFluent accessorResolver 0 base.methods j) := by
  have hlink : accessorClasses.link.1.baseId? 1 = some 0 := by decide +kernel
  have hroot : (accessorClasses.link.1.get? 0).isSome = true := by decide +kernel
  rcases (baseId?_eq_some_iff _ 1 0).mp hlink with ⟨c, hget, hbase⟩
  rcases Option.isSome_iff_exists.mp hroot with ⟨base, hgetb⟩
  exact ⟨c, base, hget, hbase, hgetb,
    leavesNoneUncovered_createOverloads_iff accessorResolver accessorClasses.link.1 1 0 c base hget
      hbase hgetb⟩

/-- Finished classes do not always leave no pairing uncovered. The own `value()`
    of the class comes to return its receiver, and the `value()` of its base,
    which returns a number, is not carried. -/
theorem not_forall_leavesNoneUncovered :
    ¬ ∀ (r : Resolver) (h : Hierarchy), h.IsBuilt r → h.link.1.cycle? = none →
      ∀ i b c base, h.link.1.get? i = some c → c.baseId = some b →
        h.link.1.get? b = some base → ClassModel.LeavesNoneUncovered r base c b := by
  intro hall
  have hlink : accessorClasses.link.1.baseId? 1 = some 0 := by decide +kernel
  have hroot : (accessorClasses.link.1.get? 0).isSome = true := by decide +kernel
  rcases (baseId?_eq_some_iff _ 1 0).mp hlink with ⟨c, hget, hbase⟩
  rcases Option.isSome_iff_exists.mp hroot with ⟨base, hgetb⟩
  have hnone := hall accessorResolver accessorClasses (isBuilt_ofSources _ .class .class
    [accessorSource]) (by decide +kernel) 1 0 c base hget hbase hgetb
  -- The number that the base method returns is not among `this` alone.
  have huncovered : ((accessorClasses.link.1.get? 1).any fun c =>
      (accessorClasses.link.1.get? 0).any fun base =>
        base.methods.any fun m =>
          decide (m ∉ (ClassModel.carryFrom accessorResolver base c 0).carried) &&
            (ClassModel.carryFrom accessorResolver base c 0).own.any fun o =>
              decide (o.name = m.name ∧ o.overloadDecision m = .overload)) = true := by
    decide +kernel
  rw [hget, hgetb, Option.any_some, Option.any_some, List.any_eq_true] at huncovered
  rcases huncovered with ⟨m, hm, hboth⟩
  rw [Bool.and_eq_true, decide_eq_true_eq, List.any_eq_true] at hboth
  rcases hboth with ⟨hnot, o, ho, hpair⟩
  rw [decide_eq_true_eq] at hpair
  exact hnone m hm hnot o ho hpair.1 hpair.2

end Example

end Hierarchy

end Typings
