import Typings.Proofs.Hierarchy.Sources

/-!
# Methods That Return Their Receiver

A call on the receiver that a method returns has to find the methods of the
class, not those of its base. So where a base method returns its receiver, the
methods of its name in the class below have to return theirs.

There are two ways to it. With the same types at every place of the parameter
lists, or lists of different lengths, the method is made to return its receiver.
With different types it is merged with the base method, and a merge in which the
receiver type takes part comes to that type. Whatever else the base has under
the name can come before, but nothing that comes after undoes it.

## Theorems

* `Method.overloadDecision_of_fluent_base`: What a base method that returns its
  receiver asks of methods of its name.
* `Method.returnText_meet_of_fluent_base`: What comes of its turn.
* `Method.returnText_finished_of_fluent_base`: What is left of it in the end.
* `Hierarchy.returnText_own_of_fluent_base`: The same for the classes of a
  finished hierarchy.
-/

namespace Typings

namespace Method

/-- A base method that returns its receiver asks something of every method of its
    name. -/
theorem overloadDecision_of_fluent_base (own base : Method) (hname : own.name = base.name)
    (hthis : base.returnText = thisType) :
    own.overloadDecision base = .overload ∨ own.overloadDecision base = .adoptThis := by
  unfold overloadDecision
  rw [if_neg (not_not_intro hname)]
  by_cases hconflict : own.hasTypeConflict base = true
  · exact Or.inl (if_pos hconflict)
  · rw [if_neg hconflict, if_pos hthis]
    exact Or.inr rfl

variable (r : Resolver)

/-- When a base method that returns its receiver has its turn, methods of its
    name come to return theirs. -/
theorem returnText_meet_of_fluent_base (base : Method) (origin : MethodRef) (own : Method)
    (hname : own.name = base.name) (hthis : base.returnText = thisType) :
    (meet r base origin own).1.returnText = thisType := by
  have hmet := met_meet r base origin own
  generalize meet r base origin own = result at hmet ⊢
  cases hmet with
  | noted _ hnone =>
      -- Without a return type the base method would not return its receiver.
      have hany : base.returnText = anyType := by
        unfold returnText
        rw [hnone]
      rw [hany] at hthis
      exact absurd hthis (by decide)
  | fluent _ _ => rfl
  | grown _ _ _ hnot =>
      refine absurd ?_ hnot
      rw [mem_mergedAlternatives, hthis, alternatives_thisType]
      exact Or.inr (List.mem_singleton_self _)
  | adopted _ => rfl
  | settled hoverload hadopt =>
      rcases overloadDecision_of_fluent_base own base hname hthis with hd | hd
      · exact absurd hd hoverload
      · exact absurd hd hadopt

/-- A method returns its receiver in the end if any base method of its name does,
    whatever comes before that one and after it. -/
theorem returnText_finished_of_fluent_base (baseId : Nat) (base : List Method) (b own : Method)
    (hb : b ∈ base) (hname : own.name = b.name) (hthis : b.returnText = thisType) :
    (own.finished r baseId base).returnText = thisType := by
  rcases List.mem_iff_getElem?.mp hb with ⟨k, hk⟩
  have hbefore : (own.before r baseId base k).name = b.name :=
    (name_before r baseId base k own).trans hname
  have hturn := returnText_meet_of_fluent_base r b ⟨baseId, k⟩ _ hbefore hthis
  rw [finished_eq r baseId base k b own hk]
  exact returnText_after_of_this r baseId _ _ hturn

end Method

namespace Hierarchy

variable (r : Resolver) (h : Hierarchy)

/-- In a finished hierarchy the own methods of a class return their receiver if
    any method of that name in the finished base does. -/
theorem returnText_own_of_fluent_base (hc : h.Consistent) (hacyclic : h.link.1.cycle? = none)
    (i b : Nat) (c : ClassModel) (hget : h.link.1.get? i = some c) (hbase : c.baseId = some b) :
    ∃ base, (h.link.1.propagate r).1.get? b = some base ∧
      (h.link.1.propagate r).1.get? i = some (c.finish (ClassModel.carryFrom r base c b)) ∧
      ∀ m ∈ base.methods, m.returnText = thisType →
        ∀ o ∈ (ClassModel.carryFrom r base c b).own, o.name = m.name →
          o.returnText = thisType := by
  rcases exists_finish_of_acyclic r h.link.1 hc.link hacyclic i b c hget hbase with
    ⟨base, hgetb, hgetf⟩
  refine ⟨base, hgetb, hgetf, ?_⟩
  intro m hm hthis o ho hname
  rw [ClassModel.own_carryFrom, List.mem_map] at ho
  rcases ho with ⟨own, _, rfl⟩
  rw [Method.name_finished] at hname
  exact Method.returnText_finished_of_fluent_base r b base.methods m own hm hname hthis

section Example

/-- A class with a method that returns its receiver and an overload that does
    not, and two classes below it that override them with other lists of
    parameters. -/
def receiverChainSource : Api.Source where
  library := "lib"
  symbols :=
    [{ kind := .class, name := "lib.A",
       methods :=
         [{ name := "value", returnValue := some { type := "this" } },
          { name := "value", parameters := [{ name := "x", type := "number" }],
            returnValue := some { type := "number" } }] },
     { kind := .class, name := "lib.B", base := some "lib.A",
       methods :=
         [{ name := "value", parameters := [{ name := "x", type := "string" }],
            returnValue := some { type := "void" } },
          { name := "value", returnValue := some { type := "boolean" } }] },
     { kind := .class, name := "lib.C", base := some "lib.B",
       methods :=
         [{ name := "value", parameters := [{ name := "x", type := "boolean" }],
            returnValue := some { type := "string" } }] }]

/-- The resolver of the three classes. -/
def receiverChainResolver : Resolver where
  registry := Registry.ofSources [receiverChainSource]

/-- The three classes. -/
def receiverChain : Hierarchy :=
  ofSources receiverChainResolver .class .class [receiverChainSource]

/-- The own method of the last class returns its receiver, although the base of
    that class has an overload that does not. -/
theorem returnText_receiverChain :
    receiverChain.Consistent ∧ receiverChain.link.1.cycle? = none ∧
      ∃ c base, receiverChain.link.1.get? 2 = some c ∧ c.baseId = some 1 ∧
        (receiverChain.link.1.propagate receiverChainResolver).1.get? 1 = some base ∧
        base.methods.map (·.returnText) = [thisType, thisType, "number"] ∧
        ∀ m ∈ base.methods, m.returnText = thisType →
          ∀ o ∈ (ClassModel.carryFrom receiverChainResolver base c 1).own, o.name = m.name →
            o.returnText = thisType := by
  have hconsistent : receiverChain.Consistent :=
    (isBuilt_ofSources receiverChainResolver .class .class [receiverChainSource]).consistent
  have hacyclic : receiverChain.link.1.cycle? = none := by decide +kernel
  have hclass : (receiverChain.link.1.get? 2).map (·.baseId) = some (some 1) := by decide +kernel
  have htexts : ((receiverChain.link.1.propagate receiverChainResolver).1.get? 1).map
      (fun base => base.methods.map (·.returnText)) = some [thisType, thisType, "number"] := by
    decide +kernel
  rcases Option.map_eq_some_iff.mp hclass with ⟨c, hget, hbase⟩
  rcases returnText_own_of_fluent_base receiverChainResolver receiverChain hconsistent hacyclic 2 1
    c hget hbase with ⟨base, hgetb, _, hfluent⟩
  rw [hgetb, Option.map_some, Option.some_inj] at htexts
  exact ⟨hconsistent, hacyclic, c, base, hget, hbase, hgetb, htexts, hfluent⟩

end Example

end Hierarchy

end Typings
