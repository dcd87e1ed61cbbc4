import Typings.Proofs.Hierarchy.Uncovered

/-!
# Base Methods That Are Declared Already

An own method can look just like a base method: the same name, parameters of the same
types and the same return type. Such a twin has no call to add, and held against its
base method it asks for nothing. Still the base method may be carried, because every
own method of the name is held against it and each of them can ask for it alone. An
overload with other parameter types does so wherever a twin stands beside it.

The twin itself can come to ask for it as well. Its return type may have changed when
the turn of the base method comes, and if it has become the receiver type, it no
longer has what the base method returns. These are the only two ways.

Twins of one base method cannot be told apart by any decision. They go through the
turns alike, so it is enough to follow one of them.

## Main definitions

* `Method.IsTwin`: Two methods have the same name, types and return text.

## Theorems

* `Method.IsTwin.meet`, `Method.IsTwin.before`: Twins stay twins.
* `Method.IsTwin.isFlagged_iff_turnsFluent`: When a twin asks for its base method.
* `Method.TurnsFluent.exists_this`: A method comes to return its receiver because some
  method of its name does.
* `ClassModel.mem_carried_iff_of_isTwin`: When a base method with a twin is carried.
* `ClassModel.not_mem_carried_of_isTwin`: When twins are all there is.
* `Hierarchy.createOverloads_of_isTwin`: The same for a class of a hierarchy.
-/

namespace Typings

namespace Method

/-- Two methods have the same name, parameters of the same types and the same return
    text. -/
structure IsTwin (own base : Method) : Prop where
  name : own.name = base.name
  types : own.parameters.map (·.type) = base.parameters.map (·.type)
  returnText : own.returnText = base.returnText

theorem isTwin_iff (own base : Method) :
    own.IsTwin base ↔ own.name = base.name ∧
      own.parameters.map (·.type) = base.parameters.map (·.type) ∧
      own.returnText = base.returnText :=
  ⟨fun h => ⟨h.name, h.types, h.returnText⟩, fun h => ⟨h.1, h.2.1, h.2.2⟩⟩

instance (own base : Method) : Decidable (own.IsTwin base) :=
  decidable_of_iff _ (isTwin_iff own base).symm

namespace IsTwin

variable {own other : Method}

/-- Two twins of a base method are twins of each other. -/
theorem trans_symm {base : Method} (h : own.IsTwin base) (h' : other.IsTwin base) :
    own.IsTwin other where
  name := h.name.trans h'.name.symm
  types := h.types.trans h'.types.symm
  returnText := h.returnText.trans h'.returnText.symm

theorem overloadDecision_eq (h : own.IsTwin other) (base : Method) :
    own.overloadDecision base = other.overloadDecision base :=
  overloadDecision_congr own other base h.name h.types h.returnText

variable (r : Resolver)

/-- Twins stay twins when a base method is held against both. -/
theorem meet (h : own.IsTwin other) (base : Method) (origin : MethodRef) :
    (Method.meet r base origin own).1.IsTwin (Method.meet r base origin other).1 := by
  have hdecision := h.overloadDecision_eq base
  have htext : (Method.meet r base origin own).1.returnText =
      (Method.meet r base origin other).1.returnText := by
    by_cases hoverload : own.overloadDecision base = .overload
    · rw [meet_of_overload r base origin own hoverload,
        meet_of_overload r base origin other (hdecision ▸ hoverload)]
      rcases hbase : base.returnType with _ | baseReturn
      · rw [mergeBase_of_none r base origin own hbase, mergeBase_of_none r base origin other hbase]
        exact h.returnText
      · -- What is merged depends on the two return texts alone.
        rw [mergeBase_of_some r base origin own baseReturn hbase,
          mergeBase_of_some r base origin other baseReturn hbase, h.returnText]
        by_cases hthis : thisType ∈ mergedAlternatives other.returnText base.returnText
        · rw [if_pos hthis, if_pos hthis]
          rfl
        · rw [if_neg hthis, if_neg hthis]
          rfl
    · by_cases hadopt : own.overloadDecision base = .adoptThis
      · rw [meet_of_adoptThis r base origin own hadopt,
          meet_of_adoptThis r base origin other (hdecision ▸ hadopt)]
        rfl
      · rw [meet_of_settled r base origin own hoverload hadopt,
          meet_of_settled r base origin other (hdecision ▸ hoverload) (hdecision ▸ hadopt)]
        exact h.returnText
  rcases meet_frame r base origin own with ⟨t, ref, hown⟩
  rcases meet_frame r base origin other with ⟨t', ref', hother⟩
  refine ⟨?_, ?_, htext⟩
  · rw [hown, hother]
    exact h.name
  · rw [hown, hother]
    exact h.types

variable (baseId : Nat) (base : List Method)

theorem after (h : own.IsTwin other) (met : List (Nat × Method)) :
    (own.after r baseId met).IsTwin (other.after r baseId met) := by
  induction met generalizing own other with
  | nil => exact h
  | cons b rest ih => exact ih (h.meet r b.2 ⟨baseId, b.1⟩)

/-- Twins are twins at every turn. -/
theorem before (h : own.IsTwin other) (k : Nat) :
    (own.before r baseId base k).IsTwin (other.before r baseId base k) :=
  h.after r baseId ((numbered base).take k)

/-- Twins ask for the same base methods. -/
theorem isFlagged_iff (h : own.IsTwin other) (k : Nat) (b : Method) :
    IsFlagged r baseId base k b own ↔ IsFlagged r baseId base k b other := by
  unfold IsFlagged
  rw [(h.before r baseId base k).overloadDecision_eq b]

/-- A twin asks for its base method only if it returns its receiver by then, and the
    base method something else. -/
theorem isFlagged_iff_this {b : Method} (h : own.IsTwin b) (k : Nat) :
    IsFlagged r baseId base k b own ↔
      (own.before r baseId base k).returnText = thisType ∧
        ∃ a ∈ alternatives b.returnText, a ≠ thisType := by
  have hname : (own.before r baseId base k).name = b.name :=
    (name_before r baseId base k own).trans h.name
  constructor
  · intro hflag
    rcases (overloadDecision_eq_overload_iff _ b).mp hflag with ⟨_, hconflict | ⟨hb, hcovers⟩⟩
    · -- The parameters are what they were, and those do not conflict.
      rw [Method.before, hasTypeConflict_after, hasTypeConflict_eq_true_iff] at hconflict
      exact absurd h.types hconflict.2
    · have hother : ∃ a ∈ alternatives b.returnText,
          a ∉ alternatives (own.before r baseId base k).returnText := by
        rw [Bool.eq_false_iff, Ne, coversReturn_iff] at hcovers
        simpa only [not_forall, exists_prop] using hcovers
      rcases hother with ⟨a, ha, hmissing⟩
      rcases after_widens r baseId own ((numbered base).take k) with hthis | hwide
      · refine ⟨hthis, a, ha, fun heq => hmissing ?_⟩
        rw [Method.before, hthis, alternatives_thisType, heq]
        exact List.mem_singleton_self _
      · -- A return type that only grew has all that the base method returns.
        exact absurd (hwide a (by rwa [h.returnText])) hmissing
  · rintro ⟨hthis, hother⟩
    exact overloadDecision_of_this _ b hname hthis hother

end IsTwin

section Receiver

variable (r : Resolver)

/-- The receiver type comes into a return type from a base method of the name. -/
theorem this_of_meet (base : Method) (origin : MethodRef) (own : Method)
    (hthis : thisType ∈ alternatives (meet r base origin own).1.returnText) :
    thisType ∈ alternatives own.returnText ∨
      base.name = own.name ∧ thisType ∈ alternatives base.returnText := by
  have hmet := met_meet r base origin own
  generalize meet r base origin own = result at hmet hthis
  cases hmet with
  | noted _ _ => exact Or.inl hthis
  | fluent hoverload hmerged =>
      have hname := ((overloadDecision_eq_overload_iff own base).mp hoverload).1
      exact ((mem_mergedAlternatives _ _ _).mp hmerged).imp_right fun h => ⟨hname.symm, h⟩
  | grown _ _ _ hmerged =>
      change thisType ∈ alternatives (union (mergedAlternatives own.returnText base.returnText))
        at hthis
      rw [alternatives_union_mergedAlternatives] at hthis
      exact absurd hthis hmerged
  | adopted hadopt =>
      rcases (overloadDecision_eq_adoptThis_iff own base).mp hadopt with ⟨hname, _, hbase⟩
      rw [hbase, alternatives_thisType]
      exact Or.inr ⟨hname.symm, List.mem_singleton_self _⟩
  | settled _ _ => exact Or.inl hthis

variable (baseId : Nat) (base : List Method)

theorem this_of_after (own : Method) (met : List (Nat × Method))
    (hthis : thisType ∈ alternatives (own.after r baseId met).returnText) :
    thisType ∈ alternatives own.returnText ∨
      ∃ b ∈ met, b.2.name = own.name ∧ thisType ∈ alternatives b.2.returnText := by
  induction met generalizing own with
  | nil => exact Or.inl hthis
  | cons first rest ih =>
      rcases ih (meet r first.2 ⟨baseId, first.1⟩ own).1 hthis with hfirst | ⟨b, hb, hname, hthis⟩
      · refine (this_of_meet r first.2 _ own hfirst).imp_right fun h => ?_
        exact ⟨first, List.mem_cons_self, h⟩
      · rcases meet_frame r first.2 ⟨baseId, first.1⟩ own with ⟨t, ref, hmeet⟩
        rw [hmeet] at hname
        exact Or.inr ⟨b, List.mem_cons_of_mem _ hb, hname, hthis⟩

variable {r baseId base}

/-- A method comes to return its receiver because that was one of its alternatives, or
    one of a base method of its name. -/
theorem TurnsFluent.exists_this {own : Method} {k : Nat}
    (hturn : own.TurnsFluent r baseId base k) :
    thisType ∈ alternatives own.returnText ∨
      ∃ b ∈ base, b.name = own.name ∧ thisType ∈ alternatives b.returnText := by
  have hthis : thisType ∈ alternatives (own.before r baseId base (k + 1)).returnText := by
    rw [hturn.2, alternatives_thisType]
    exact List.mem_singleton_self _
  refine (this_of_after r baseId own _ hthis).imp_right ?_
  rintro ⟨b, hb, hname, hthis⟩
  refine ⟨b.2, ?_, hname, hthis⟩
  rw [← map_snd_numbered base]
  exact List.mem_map_of_mem (List.mem_of_mem_take hb)

/-- A method that returned its receiver after some turn does so ever after. -/
theorem TurnsFluent.returnText_before {own : Method} {j k : Nat}
    (hturn : own.TurnsFluent r baseId base j) (hjk : j < k) :
    (own.before r baseId base k).returnText = thisType := by
  have hsplit : k = j + 1 + (k - (j + 1)) := by omega
  rw [hsplit, before_add]
  exact returnText_after_of_this r baseId _ _ hturn.2

end Receiver

/-- A twin asks for its base method exactly if a turn before made it return its
    receiver, and the base method returns something else. -/
theorem IsTwin.isFlagged_iff_turnsFluent (r : Resolver) (baseId : Nat) (base : List Method)
    {own b : Method} (h : own.IsTwin b) (k : Nat) :
    IsFlagged r baseId base k b own ↔
      (∃ a ∈ alternatives b.returnText, a ≠ thisType) ∧
        ∃ j, j < k ∧ own.TurnsFluent r baseId base j := by
  rw [h.isFlagged_iff_this r baseId base k, and_comm]
  refine and_congr_right fun hother => ⟨fun hthis => ?_, ?_⟩
  · -- It did not return its receiver to begin with, as the base method does not.
    have hstart : (own.before r baseId base 0).returnText ≠ thisType := by
      show own.returnText ≠ thisType
      rcases hother with ⟨a, ha, hne⟩
      intro hown
      rw [← h.returnText, hown, alternatives_thisType, List.mem_singleton] at ha
      exact hne ha
    rcases exists_turnsFluent r baseId base own 0 k (Nat.zero_le k) hstart hthis with
      ⟨j, _, hjk, hturn⟩
    exact ⟨j, hjk, hturn⟩
  · rintro ⟨j, hjk, hturn⟩
    exact hturn.returnText_before hjk

end Method

namespace ClassModel

variable (r : Resolver) (base c : ClassModel) (baseId : Nat) (m o : Method)

/-- A base method with a twin is carried exactly if a method that is no twin asks for
    it, or a turn before made the twin return its receiver. -/
theorem mem_carried_iff_of_isTwin (ho : o ∈ c.methods) (htwin : o.IsTwin m) :
    m ∈ (carryFrom r base c baseId).carried ↔
      ∃ k, base.methods[k]? = some m ∧
        ((∃ p ∈ c.methods, ¬ p.IsTwin m ∧ IsFlagged r baseId base.methods k m p) ∨
          (∃ a ∈ alternatives m.returnText, a ≠ thisType) ∧
            ∃ j, j < k ∧ o.TurnsFluent r baseId base.methods j) := by
  rw [mem_carried_carryFrom]
  refine exists_congr fun k => and_congr_right fun _ => ?_
  rw [← htwin.isFlagged_iff_turnsFluent r baseId base.methods k]
  constructor
  · rintro ⟨p, hp, hflag⟩
    by_cases hp' : p.IsTwin m
    · -- All twins ask for it or none does.
      have halike := (hp'.trans_symm htwin).isFlagged_iff r baseId base.methods k m
      exact Or.inr (halike.mp hflag)
    · exact Or.inl ⟨p, hp, hp', hflag⟩
  · rintro (⟨p, hp, _, hflag⟩ | hflag)
    · exact ⟨p, hp, hflag⟩
    · exact ⟨o, ho, hflag⟩

/-- A base method is not carried if all own methods of its name are twins of it, and
    it returns its receiver or no base method of the name does. -/
theorem not_mem_carried_of_isTwin (ho : o ∈ c.methods) (htwin : o.IsTwin m)
    (hall : ∀ p ∈ c.methods, p.name = m.name → p.IsTwin m)
    (hthis : m.returnText = thisType ∨
      ∀ b ∈ base.methods, b.name = m.name → thisType ∉ alternatives b.returnText) :
    m ∉ (carryFrom r base c baseId).carried := by
  rw [mem_carried_iff_of_isTwin r base c baseId m o ho htwin]
  rintro ⟨k, hk, ⟨p, hp, hnot, hflag⟩ | ⟨⟨a, ha, hne⟩, j, _, hturn⟩⟩
  · -- Only a method of the name can ask for it.
    have hname := ((Method.overloadDecision_eq_overload_iff _ m).mp hflag).1
    rw [Method.name_before] at hname
    exact hnot (hall p hp hname)
  · rcases hthis with hthis | hnone
    · rw [hthis, alternatives_thisType, List.mem_singleton] at ha
      exact hne ha
    · rcases hturn.exists_this with hown | ⟨b, hb, hname, hmem⟩
      · rw [htwin.returnText] at hown
        exact hnone m (List.mem_of_getElem? hk) rfl hown
      · exact hnone b hb (hname.trans htwin.name) hmem

end ClassModel

namespace Hierarchy

/-- A base method that has a twin in a class is carried into it only because of
    another overload there, or because the twin came to return its receiver at an
    earlier turn. Where twins are all there is, and the base method returns its receiver
    or no base method of the name does, it is not carried. -/
theorem createOverloads_of_isTwin (r : Resolver) (h : Hierarchy) (i b : Nat)
    (c base : ClassModel) (hget : h.get? i = some c) (hbase : c.baseId = some b)
    (hgetb : h.get? b = some base) (o m : Method) (ho : o ∈ c.methods) (htwin : o.IsTwin m) :
    (createOverloads r h i).1.get? i = some (c.finish (ClassModel.carryFrom r base c b)) ∧
      (m ∈ (ClassModel.carryFrom r base c b).carried ↔
        ∃ k, base.methods[k]? = some m ∧
          ((∃ p ∈ c.methods, ¬ p.IsTwin m ∧ IsFlagged r b base.methods k m p) ∨
            (∃ a ∈ alternatives m.returnText, a ≠ thisType) ∧
              ∃ j, j < k ∧ o.TurnsFluent r b base.methods j)) ∧
      ((∀ p ∈ c.methods, p.name = m.name → p.IsTwin m) →
        (m.returnText = thisType ∨
          ∀ b' ∈ base.methods, b'.name = m.name → thisType ∉ alternatives b'.returnText) →
        m ∉ (ClassModel.carryFrom r base c b).carried) := by
  have hfinal := get?_createOverloads_of_base r h i b c base hget hbase hgetb
  exact ⟨hfinal, ClassModel.mem_carried_iff_of_isTwin r base c b m o ho htwin,
    ClassModel.not_mem_carried_of_isTwin r base c b m o ho htwin⟩

section Example

/-- A class that repeats the methods of its base and adds an overload of one of them
    with another parameter type. -/
def boxSource : Api.Source where
  library := "lib"
  symbols :=
    [{ kind := .class, name := "lib.Base",
       methods := [{ name := "getWidth", returnValue := some { type := "string" } },
                   { name := "setWidth", parameters := [{ name := "w", type := "string" }],
                     returnValue := some { type := "void" } }] },
     { kind := .class, name := "lib.Box", base := some "lib.Base",
       methods := [{ name := "getWidth", returnValue := some { type := "string" } },
                   { name := "setWidth", parameters := [{ name := "w", type := "string" }],
                     returnValue := some { type := "void" } },
                   { name := "setWidth", parameters := [{ name := "w", type := "number" }],
                     returnValue := some { type := "void" } }] }]

/-- The resolver of the two classes. -/
def boxResolver : Resolver where
  registry := Registry.ofSources [boxSource]

/-- The two classes. -/
def boxClasses : Hierarchy :=
  ofSources boxResolver .class .class [boxSource]

/-- The box has one method of the name of the first, and that one is not carried. -/
theorem createOverloads_boxClasses :
    ∃ c base o m, boxClasses.link.1.get? 1 = some c ∧ c.baseId = some 0 ∧
      boxClasses.link.1.get? 0 = some base ∧ o ∈ c.methods ∧ m ∈ base.methods ∧ o.IsTwin m ∧
      (createOverloads boxResolver boxClasses.link.1 1).1.get? 1 =
        some (c.finish (ClassModel.carryFrom boxResolver base c 0)) ∧
      (m ∈ (ClassModel.carryFrom boxResolver base c 0).carried ↔
        ∃ k, base.methods[k]? = some m ∧
          ((∃ p ∈ c.methods, ¬ p.IsTwin m ∧ IsFlagged boxResolver 0 base.methods k m p) ∨
            (∃ a ∈ alternatives m.returnText, a ≠ thisType) ∧
              ∃ j, j < k ∧ o.TurnsFluent boxResolver 0 base.methods j)) ∧
      m ∉ (ClassModel.carryFrom boxResolver base c 0).carried := by
  have hlink : boxClasses.link.1.baseId? 1 = some 0 := by decide +kernel
  rcases exists_methods_of_any boxClasses.link.1 1 0 hlink
    (fun c base o m => decide (o.IsTwin m ∧ (∀ p ∈ c.methods, p.name = m.name → p.IsTwin m) ∧
      ∀ b' ∈ base.methods, b'.name = m.name → thisType ∉ alternatives b'.returnText))
    (by decide +kernel) with ⟨c, base, o, m, hget, hbase, hgetb, ho, hm, hall⟩
  rw [decide_eq_true_eq] at hall
  rcases hall with ⟨htwin, hown, hnone⟩
  rcases createOverloads_of_isTwin boxResolver boxClasses.link.1 1 0 c base hget hbase hgetb o m
    ho htwin with ⟨hfinal, hcarried, hnot⟩
  exact ⟨c, base, o, m, hget, hbase, hgetb, ho, hm, htwin, hfinal, hcarried,
    hnot hown (Or.inr hnone)⟩

/-- A base method can be carried into a class that has a twin of it. The box repeats
    the second method of its base, and its other overload asks for it. -/
theorem not_forall_isTwin_not_mem_carried :
    ¬ ∀ (r : Resolver) (h : Hierarchy), h.IsBuilt r → h.link.1.cycle? = none →
      ∀ i b c base, h.link.1.get? i = some c → c.baseId = some b →
        h.link.1.get? b = some base → ∀ m ∈ base.methods, (∃ o ∈ c.methods, o.IsTwin m) →
          m ∉ (ClassModel.carryFrom r base c b).carried := by
  intro hall
  have hlink : boxClasses.link.1.baseId? 1 = some 0 := by decide +kernel
  rcases exists_methods_of_any boxClasses.link.1 1 0 hlink
    (fun c base o m =>
      decide (o.IsTwin m ∧ m ∈ (ClassModel.carryFrom boxResolver base c 0).carried))
    (by decide +kernel) with ⟨c, base, o, m, hget, hbase, hgetb, ho, hm, hboth⟩
  rw [decide_eq_true_eq] at hboth
  exact hall boxResolver boxClasses (isBuilt_ofSources _ .class .class [boxSource])
    (by decide +kernel) 1 0 c base hget hbase hgetb m hm ⟨o, ho, hboth.1⟩ hboth.2

end Example

end Hierarchy

end Typings
