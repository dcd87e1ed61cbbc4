import Typings.Proofs.Hierarchy.Sources

/-!
# References Into Method Lists

A method that was merged notes the base method it was merged with last, as a
class and an index into the method list of that class. The note is taken while
lists are still growing and being sorted, so it is not plain that it means
anything in the end.

It does because of the order in which classes are finished. When a method is
held against the methods of its base, the base is finished, and nobody touches
its list again. A carried method brings the note it has in the base, which leads
further up, again into a list that is finished.

## Main definitions

* `Hierarchy.LeadsUp`: A reference leads to a method of a given name in a
  finished class above.

## Theorems

* `Method.overloaded_meet`, `Method.overloaded_after`: What is noted at one turn
  and after any number of turns.
* `Method.overloaded_finished`: A method that had no note leads into the base.
* `Hierarchy.leadsUp_of_finished`: All references of finished classes lead up.
* `Hierarchy.overloaded_propagate`: The references of a finished hierarchy.
-/

namespace Typings

namespace Method

theorem overloaded_build (owner : Owner) (raw : Api.Method) (options : BuildOptions) :
    (build owner raw options).overloaded = none := by
  rw [build]
  cases subscribedEvent? raw.name owner.events with
  | none =>
      simp only [buildPlain]
      by_cases hnone : options.hasNoReturn = true
      · rw [if_pos hnone]
        rfl
      · rw [if_neg hnone]
        rfl
  | some event => rfl

section Turns

variable (r : Resolver)

/-- At one turn a method goes on with the note it has, or it notes the base
    method, which then has its name. -/
theorem overloaded_meet (base : Method) (origin : MethodRef) (own : Method) :
    (meet r base origin own).1.overloaded = own.overloaded ∨
      ((meet r base origin own).1.overloaded = some origin ∧ own.name = base.name) := by
  have hmet := met_meet r base origin own
  generalize meet r base origin own = result at hmet ⊢
  -- Only a base method that is not covered is noted, and such a one has the name.
  cases hmet with
  | noted hoverload _ =>
      exact Or.inr ⟨rfl, ((overloadDecision_eq_overload_iff own base).mp hoverload).1⟩
  | fluent hoverload _ =>
      exact Or.inr ⟨rfl, ((overloadDecision_eq_overload_iff own base).mp hoverload).1⟩
  | grown _ hoverload _ _ =>
      exact Or.inr ⟨rfl, ((overloadDecision_eq_overload_iff own base).mp hoverload).1⟩
  | adopted _ => exact Or.inl rfl
  | settled _ _ => exact Or.inl rfl

variable (baseId : Nat)

/-- After any number of turns a method has the note it had, or it has noted one
    of the base methods it was held against. -/
theorem overloaded_after (own : Method) (met : List (Nat × Method)) :
    (own.after r baseId met).overloaded = own.overloaded ∨
      ∃ b ∈ met, (own.after r baseId met).overloaded = some ⟨baseId, b.1⟩ ∧
        own.name = b.2.name := by
  induction met generalizing own with
  | nil => exact Or.inl rfl
  | cons b rest ih =>
      have hname : (meet r b.2 ⟨baseId, b.1⟩ own).1.name = own.name :=
        name_after r baseId own [b]
      rw [after_cons]
      rcases ih (meet r b.2 ⟨baseId, b.1⟩ own).1 with hkept | ⟨b', hb', hnoted, hname'⟩
      · rcases overloaded_meet r b.2 ⟨baseId, b.1⟩ own with hsame | ⟨hnoted, hname'⟩
        · exact Or.inl (hkept.trans hsame)
        · exact Or.inr ⟨b, List.mem_cons_self, hkept.trans hnoted, hname'⟩
      · exact Or.inr ⟨b', List.mem_cons_of_mem b hb', hnoted, hname.symm.trans hname'⟩

/-- A method that had no note leads into the method list of the base, to a method
    of its name. -/
theorem overloaded_finished (base : List Method) (own : Method) (hown : own.overloaded = none)
    (ref : MethodRef) (href : (own.finished r baseId base).overloaded = some ref) :
    ref.classId = baseId ∧ ∃ b, base[ref.index]? = some b ∧ b.name = own.name := by
  rcases overloaded_after r baseId own (numbered base) with hkept | ⟨b, hb, hnoted, hname⟩
  · rw [finished, hkept, hown] at href
    contradiction
  · rw [finished, hnoted, Option.some_inj] at href
    subst href
    rcases List.mem_iff_getElem?.mp hb with ⟨k, hk⟩
    rcases (getElem?_numbered_eq_some base k b).mp hk with ⟨hplace, hget⟩
    exact ⟨rfl, b.2, by rw [hplace, hget], hname.symm⟩

end Turns

end Method

namespace ClassModel

theorem overloaded_of_mem_build (r : Resolver) (id : Nat) (kind : ClassKind) (library : String)
    (s : Api.Symbol) (m : Method) (hm : m ∈ (build r id kind library s).methods) :
    m.overloaded = none := by
  rcases mem_methods_build r id kind library s m hm with ⟨owner, raw, _, _, rfl⟩
  exact Method.overloaded_build owner raw {}

variable (r : Resolver) (base c : ClassModel) (baseId : Nat)

/-- What the own methods of a class note is found in the base. -/
theorem overloaded_own_carryFrom (hown : ∀ o ∈ c.methods, o.overloaded = none) (m : Method)
    (hm : m ∈ (carryFrom r base c baseId).own) (ref : MethodRef)
    (href : m.overloaded = some ref) :
    ref.classId = baseId ∧ ∃ b, base.methods[ref.index]? = some b ∧ b.name = m.name := by
  rw [own_carryFrom, List.mem_map] at hm
  rcases hm with ⟨o, ho, rfl⟩
  rw [Method.name_finished]
  exact Method.overloaded_finished r baseId base.methods o (hown o ho) ref href

/-- The methods carried are entries of the base's list, in its order. -/
theorem carried_sublist : (carryFrom r base c baseId).carried.Sublist base.methods := by
  rw [carried_carryFrom]
  conv_rhs => rw [← map_snd_numbered base.methods]
  exact List.filter_sublist.map _

end ClassModel

namespace Hierarchy

variable (r : Resolver)

/-- A reference leads from a class to a method of a given name in a finished
    class above. -/
def LeadsUp (h : Hierarchy) (i : Nat) (name : String) (ref : MethodRef) : Prop :=
  (∃ levels, h.ancestor? (levels + 1) i = some ref.classId) ∧
    ∃ a m, h.Finished r ref.classId a ∧ a.methods[ref.index]? = some m ∧ m.name = name

variable {h : Hierarchy}

/-- What leads up from the base leads up from the class. -/
theorem LeadsUp.of_base {i b : Nat} {name : String} {ref : MethodRef}
    (hup : LeadsUp r h b name ref) (hbase : h.baseId? i = some b) : LeadsUp r h i name ref := by
  rcases hup with ⟨⟨levels, hlevels⟩, htarget⟩
  exact ⟨⟨levels + 1, by rw [ancestor?_succ_of_base h (levels + 1) i b hbase, hlevels]⟩, htarget⟩

/-- All references of a finished class lead up, if its methods had none to begin
    with. -/
theorem leadsUp_of_finished
    (hfresh : ∀ i c, h.get? i = some c → ∀ o ∈ c.methods, o.overloaded = none) (i : Nat)
    (f : ClassModel) (hf : h.Finished r i f) :
    ∀ m ∈ f.methods, ∀ ref, m.overloaded = some ref → LeadsUp r h i m.name ref := by
  -- From the roots down: own methods lead into the finished base, and carried ones
  -- lead where they led from there.
  induction hf with
  | root i c hget _ =>
      intro m hm ref href
      rw [hfresh i c hget m hm] at href
      contradiction
  | derived i b c base hget hbase hb ih =>
      have hlink : h.baseId? i = some b := (h.baseId?_eq_some_iff i b).mpr ⟨c, hget, hbase⟩
      intro m hm ref href
      rcases (ClassModel.mem_finish_methods c _ m).mp hm with hown | hcarried
      · rcases ClassModel.overloaded_own_carryFrom r base c b (hfresh i c hget) m hown ref href
          with ⟨hclass, t, ht, hname⟩
        refine ⟨⟨0, ?_⟩, base, t, ?_, ht, hname⟩
        · rw [ancestor?_succ_of_base h 0 i b hlink, ancestor?_zero, hclass]
        · rwa [hclass]
      · have hentry : m ∈ base.methods := (ClassModel.carried_sublist r base c b).subset hcarried
        exact (ih m hentry ref href).of_base r hlink

/-- Classes that are built and linked have no references. -/
theorem IsBuilt.overloaded_link (hb : h.IsBuilt r) (i : Nat) (c : ClassModel)
    (hget : h.link.1.get? i = some c) : ∀ o ∈ c.methods, o.overloaded = none := by
  rcases hb.get?_link i c hget with ⟨kind, library, s, hc⟩
  have hmethods : c.methods = (ClassModel.build r i kind library s).methods :=
    congrArg (·.methods) hc
  rw [hmethods]
  exact ClassModel.overloaded_of_mem_build r i kind library s

/-- In a finished hierarchy every reference of a class leads to a class above it,
    and there to a method of the same name. Own methods of the class lead to its
    base, and carried ones are the entries of the base's list. -/
theorem overloaded_propagate (hb : h.IsBuilt r) (hacyclic : h.link.1.cycle? = none) (i : Nat)
    (c : ClassModel) (hget : h.link.1.get? i = some c) :
    ∃ f, (h.link.1.propagate r).1.get? i = some f ∧
      (∀ m ∈ f.methods, ∀ ref, m.overloaded = some ref →
        (∃ levels, h.link.1.ancestor? (levels + 1) i = some ref.classId) ∧ ref.classId ≠ i ∧
          ∃ a t, (h.link.1.propagate r).1.get? ref.classId = some a ∧
            a.methods[ref.index]? = some t ∧ t.name = m.name) ∧
      ∀ b, c.baseId = some b → ∃ base, (h.link.1.propagate r).1.get? b = some base ∧
        f = c.finish (ClassModel.carryFrom r base c b) ∧
        (∀ m ∈ (ClassModel.carryFrom r base c b).own, ∀ ref, m.overloaded = some ref →
          ref.classId = b) ∧
        (ClassModel.carryFrom r base c b).carried.Sublist base.methods := by
  have hc : h.link.1.Consistent := hb.consistent.link
  have hr : h.link.1.Rooted i := rooted_of_acyclic h.link.1 hc hacyclic i c hget
  rcases exists_finished_of_acyclic r h.link.1 hc hacyclic i c hget with ⟨f, hfinished, hgetf⟩
  refine ⟨f, hgetf, ?_, ?_⟩
  · intro m hm ref href
    rcases leadsUp_of_finished r (hb.overloaded_link r) i f hfinished m hm ref href with
      ⟨⟨levels, hlevels⟩, a, t, ha, ht, hname⟩
    have hproper : ref.classId ≠ i := by
      intro hself
      rw [hself] at hlevels
      exact hr.ancestor?_ne_self levels hlevels
    -- The class that is led to is found at its place in the end.
    have hgeta := get?_propagate_of_finished r h.link.1 hc ref.classId
      (hr.ancestor (levels + 1) ref.classId hlevels) a ha
    exact ⟨⟨levels, hlevels⟩, hproper, a, t, hgeta, ht, hname⟩
  · intro b hbase
    rcases exists_finish_of_acyclic r h.link.1 hc hacyclic i b c hget hbase with
      ⟨base, hgetb, hfinish⟩
    rw [hgetf, Option.some_inj] at hfinish
    refine ⟨base, hgetb, hfinish, ?_, ClassModel.carried_sublist r base c b⟩
    intro m hm ref href
    exact (ClassModel.overloaded_own_carryFrom r base c b (hb.overloaded_link r i c hget) m hm ref
      href).1

section Example

/-- Three classes, each of which extends the one before and overrides its method
    with another return type. -/
def overridingChainSource : Api.Source where
  library := "lib"
  symbols :=
    [{ kind := .class, name := "lib.A",
       methods := [{ name := "foo", returnValue := some { type := "number" } }] },
     { kind := .class, name := "lib.B", base := some "lib.A",
       methods := [{ name := "foo", returnValue := some { type := "string" } }] },
     { kind := .class, name := "lib.C", base := some "lib.B",
       methods := [{ name := "foo", returnValue := some { type := "boolean" } }] }]

/-- The resolver of the three classes. -/
def overridingChainResolver : Resolver where
  registry := Registry.ofSources [overridingChainSource]

/-- The three classes. -/
def overridingChain : Hierarchy :=
  ofSources overridingChainResolver .class .class [overridingChainSource]

/-- The references of the last class. The method carried from the second class
    leads on to the first one. -/
theorem overloaded_overridingChain :
    overridingChain.IsBuilt overridingChainResolver ∧
      overridingChain.link.1.cycle? = none ∧
      ∃ c f, overridingChain.link.1.get? 2 = some c ∧
        (overridingChain.link.1.propagate overridingChainResolver).1.get? 2 = some f ∧
        f.methods.map (·.overloaded) = [some ⟨1, 0⟩, some ⟨0, 0⟩] ∧
        ∀ m ∈ f.methods, ∀ ref, m.overloaded = some ref →
          (∃ levels, overridingChain.link.1.ancestor? (levels + 1) 2 = some ref.classId) ∧
            ref.classId ≠ 2 ∧
            ∃ a t, (overridingChain.link.1.propagate overridingChainResolver).1.get? ref.classId =
                some a ∧ a.methods[ref.index]? = some t ∧ t.name = m.name := by
  have hbuilt : overridingChain.IsBuilt overridingChainResolver :=
    isBuilt_ofSources overridingChainResolver .class .class [overridingChainSource]
  have hacyclic : overridingChain.link.1.cycle? = none := by decide +kernel
  have hclass : (overridingChain.link.1.get? 2).isSome = true := by decide +kernel
  have hreferences :
      ((overridingChain.link.1.propagate overridingChainResolver).1.get? 2).map
        (fun f => f.methods.map (·.overloaded)) = some [some ⟨1, 0⟩, some ⟨0, 0⟩] := by
    decide +kernel
  rcases Option.isSome_iff_exists.mp hclass with ⟨c, hget⟩
  rcases overloaded_propagate overridingChainResolver hbuilt hacyclic 2 c hget with
    ⟨f, hgetf, hvalid, _⟩
  rw [hgetf, Option.map_some, Option.some_inj] at hreferences
  exact ⟨hbuilt, hacyclic, c, f, hget, hgetf, hreferences, hvalid⟩

end Example

end Hierarchy

end Typings
