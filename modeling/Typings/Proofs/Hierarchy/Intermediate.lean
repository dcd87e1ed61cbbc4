import Typings.Proofs.Hierarchy.Sources
import Typings.Proofs.Method.Settling

/-!
# Classes in Between

Methods from further up a hierarchy reach a class through the classes in
between, and only in so far as these classes have them. A class without methods
has nothing that a base method could be incompatible with, so nothing is carried
into it, and nothing comes out of it: for the classes below, the hierarchy above
it might as well not exist.

Put between a class and its base, such a class therefore changes nothing exactly
if there was nothing to pass on, that is, if every method of the base settles
with every method of the class.

## Main definitions

* `Hierarchy.insertBetween`: A class put between a class and its base.
* `Hierarchy.finalSignatures`: The signatures of a class in the end.

## Theorems

* `ClassModel.methods_finish_of_no_methods`: Nothing is carried into a class
  without methods.
* `ClassModel.methods_finish_of_empty_base`: A base without methods passes
  nothing on.
* `Hierarchy.baseId?_insertBetween`: The links around the inserted class.
* `Hierarchy.finalSignatures_insertBetween`: What is left of a class behind a
  class without methods.
* `Hierarchy.finalSignatures_insertBetween_iff`: When inserting a class without
  methods changes nothing.
-/

namespace Typings

namespace ClassModel

variable (r : Resolver) (base c : ClassModel) (baseId : Nat)

/-- Nothing is carried into a class without methods. -/
theorem methods_finish_of_no_methods (hnone : c.methods = []) :
    (c.finish (carryFrom r base c baseId)).methods = [] := by
  have hcarried : (carryFrom r base c baseId).carried = [] := by
    rw [carried_carryFrom_eq_nil_iff, hnone]
    exact fun o ho => absurd ho List.not_mem_nil
  rw [methods_finish_of_carried_nil r base c baseId hcarried, hnone]
  rfl

/-- A base without methods passes nothing on. -/
theorem methods_finish_of_empty_base (hnone : base.methods = []) :
    (c.finish (carryFrom r base c baseId)).methods = Text.sortBy (·.name) c.methods := by
  have hcarried : (carryFrom r base c baseId).carried = [] := by
    rw [carried_carryFrom_eq_nil_iff, hnone]
    intro o _ k b hb
    rw [List.getElem?_nil] at hb
    contradiction
  rw [methods_finish_of_carried_nil r base c baseId hcarried, hnone]
  exact List.map_id _

end ClassModel

namespace Hierarchy

/-- A class put between a class and its base. -/
def insertBetween (g : Hierarchy) (child base : Nat) (b : ClassModel) : Hierarchy :=
  ((g.push b).setBase g.size base).setBase child g.size

/-- The signatures of a class in the end. -/
def finalSignatures (r : Resolver) (style : SignatureStyle) (g : Hierarchy) (i : Nat) :
    Option (List String) :=
  ((g.propagate r).1.get? i).map fun c => c.methods.map (·.signature style)

section Insert

variable {g : Hierarchy} {child base : Nat} {b : ClassModel}

theorem consistent_insertBetween (hc : g.Consistent) (hbase : g.baseId? child = some base)
    (hid : b.id = g.size) (hroot : b.baseId = none) (hchildren : b.children = []) :
    (g.insertBetween child base b).Consistent := by
  have hpush := hc.push b hid hroot hchildren
  have hsize := g.size_push b
  have hlt := hc.base_lt child base hbase
  have hlt' := g.lt_size_of_baseId? child base hbase
  have hinner : ((g.push b).setBase g.size base).Consistent := by
    refine hpush.setBase g.size base ?_ ?_
    · omega
    · omega
  refine hinner.setBase child g.size ?_ ?_
  · rw [size_setBase]
    omega
  · rw [size_setBase]
    omega

/-- The links around the inserted class; all others are as they were. -/
theorem baseId?_insertBetween (hbase : g.baseId? child = some base) (hroot : b.baseId = none)
    (i : Nat) :
    (g.insertBetween child base b).baseId? i =
      if i = child then some g.size else if i = g.size then some base else g.baseId? i := by
  have hsize := g.size_push b
  have hlt := g.lt_size_of_baseId? child base hbase
  rw [insertBetween, baseId?_setBase _ child g.size (by rw [size_setBase]; omega),
    baseId?_setBase _ g.size base (by omega), baseId?_push g b hroot]

/-- Linking changes no methods. -/
theorem methods_insertBetween (i : Nat) (c : ClassModel)
    (hget : (g.insertBetween child base b).get? i = some c) :
    ∃ c', (g.push b).get? i = some c' ∧ c'.methods = c.methods := by
  rw [insertBetween, get?_setBase, get?_setBase, Option.map_map, Option.map_eq_some_iff] at hget
  rcases hget with ⟨c', hget', heq⟩
  exact ⟨c', hget', congrArg (·.methods) heq⟩

/-- What does not inherit from the class below goes on coming to an end. -/
theorem rooted_insertBetween (hbase : g.baseId? child = some base) (hroot : b.baseId = none)
    (i : Nat) (hr : g.Rooted i) (hnot : ∀ k, g.ancestor? k i ≠ some child) :
    (g.insertBetween child base b).Rooted i := by
  -- On the way up from such a class no link was changed.
  have hsame : ∀ j, g.Rooted j → j ≠ child →
      (g.insertBetween child base b).baseId? j = g.baseId? j := by
    intro j hj hne
    rw [baseId?_insertBetween hbase hroot, if_neg hne, if_neg (Nat.ne_of_lt hj.lt_size)]
  have hsize : (g.insertBetween child base b).size = g.size + 1 := by
    rw [insertBetween, size_setBase, size_setBase, size_push]
  induction hr with
  | root i hi hnone =>
      have hne : i ≠ child := fun heq => hnot 0 (congrArg some heq)
      refine Rooted.root i (by omega) ?_
      rw [hsame i (Rooted.root i hi hnone) hne, hnone]
  | derived i a hlink ha ih =>
      have hne : i ≠ child := fun heq => hnot 0 (congrArg some heq)
      refine Rooted.derived i a ?_ (ih fun k hk => hnot (k + 1) ?_)
      · rw [hsame i (Rooted.derived i a hlink ha) hne, hlink]
      · rw [ancestor?_succ_of_base g k i a hlink, hk]

/-- The class below comes to an end by way of the inserted class. -/
theorem rooted_child_insertBetween (hbase : g.baseId? child = some base) (hroot : b.baseId = none)
    (hr : g.Rooted child) : (g.insertBetween child base b).Rooted child := by
  have hlt := hr.lt_size
  have hmiddle : (g.insertBetween child base b).Rooted g.size := by
    refine Rooted.derived g.size base ?_ ?_
    · rw [baseId?_insertBetween hbase hroot, if_neg (by omega), if_pos rfl]
    · -- The way up from the base does not lead back to the class below it.
      refine rooted_insertBetween hbase hroot base (hr.base base hbase) fun k hk => ?_
      refine hr.ancestor?_ne_self k ?_
      rw [ancestor?_succ_of_base g k child base hbase, hk]
  refine Rooted.derived child g.size ?_ hmiddle
  rw [baseId?_insertBetween hbase hroot, if_pos rfl]

variable (r : Resolver)

/-- Behind a class without methods a class has its own methods alone, as they
    were built. -/
theorem finalSignatures_insertBetween (hc : g.Consistent) (hacyclic : g.cycle? = none)
    (hbase : g.baseId? child = some base) (hid : b.id = g.size) (hroot : b.baseId = none)
    (hchildren : b.children = []) (hmethods : b.methods = []) (style : SignatureStyle)
    (c : ClassModel) (hchild : g.get? child = some c) :
    finalSignatures r style (g.insertBetween child base b) child =
      some ((Text.sortBy (·.name) c.methods).map (·.signature style)) := by
  have hc' := consistent_insertBetween hc hbase hid hroot hchildren
  have hrooted : g.Rooted child :=
    (cycle?_eq_none_iff g hc).mp hacyclic child (g.lt_size_of_get? child c hchild)
  have hlt := hrooted.lt_size
  have hchildBase : (g.insertBetween child base b).baseId? child = some g.size := by
    rw [baseId?_insertBetween hbase hroot, if_pos rfl]
  have hmiddleBase : (g.insertBetween child base b).baseId? g.size = some base := by
    rw [baseId?_insertBetween hbase hroot, if_neg (by omega), if_pos rfl]
  -- The class is finished from the one in between, and that one from the base.
  rcases get?_propagate_of_rooted r _ hc' child (rooted_child_insertBetween hbase hroot hrooted)
    with ⟨f, hfinished, hget⟩
  rcases hfinished.exists_base r g.size hchildBase with ⟨d, middle, hd, _, hmiddle, rfl⟩
  rcases hmiddle.exists_base r base hmiddleBase with ⟨e, top, he, _, _, rfl⟩
  have hempty : e.methods = [] := by
    rcases methods_insertBetween g.size e he with ⟨e', he', hsame⟩
    rw [get?_push, if_pos rfl, Option.some_inj] at he'
    rw [← hsame, ← he', hmethods]
  have hown : d.methods = c.methods := by
    rcases methods_insertBetween child d hd with ⟨d', hd', hsame⟩
    rw [get?_push, if_neg (Nat.ne_of_lt hlt), hchild, Option.some_inj] at hd'
    rw [← hsame, ← hd']
  rw [finalSignatures, hget, Option.map_some,
    ClassModel.methods_finish_of_empty_base r _ d g.size
      (ClassModel.methods_finish_of_no_methods r top e base hempty), hown]

/-- A class without methods between a class and its base changes no signature of
    the class exactly if every method of the finished base settles with every
    method of the class. -/
theorem finalSignatures_insertBetween_iff (hc : g.Consistent) (hacyclic : g.cycle? = none)
    (hbase : g.baseId? child = some base) (hid : b.id = g.size) (hroot : b.baseId = none)
    (hchildren : b.children = []) (hmethods : b.methods = []) (style : SignatureStyle)
    (c a : ClassModel) (hchild : g.get? child = some c)
    (ha : (g.propagate r).1.get? base = some a) :
    finalSignatures r style (g.insertBetween child base b) child =
        finalSignatures r style g child ↔
      ∀ o ∈ c.methods, ∀ m ∈ a.methods, o.Settles m := by
  have hrooted := (cycle?_eq_none_iff g hc).mp hacyclic
  have hchildRooted := hrooted child (g.lt_size_of_get? child c hchild)
  have hfinished := finished_of_get?_propagate r g hc base (hrooted base (hc.base_lt child base
    hbase)) a ha
  rcases (g.baseId?_eq_some_iff child base).mp hbase with ⟨c', hget', hlink⟩
  rw [hchild, Option.some_inj] at hget'
  subst hget'
  -- Without the class in between, the class is finished from the base itself.
  have hget := get?_propagate_of_finished r g hc child hchildRooted _
    (Finished.derived child base c a hchild hlink hfinished)
  rw [finalSignatures_insertBetween r hc hacyclic hbase hid hroot hchildren hmethods style c hchild,
    finalSignatures, hget, Option.map_some, Option.some_inj, eq_comm]
  exact ClassModel.signatures_finish_iff r a c base style

end Insert

section Example

/-- A class that overrides the method of its base with another parameter
    type. -/
def overridingSource : Api.Source where
  library := "lib"
  symbols :=
    [{ kind := .class, name := "lib.A",
       methods := [{ name := "foo", parameters := [{ name := "x", type := "number" }],
                     returnValue := some { type := "void" } }] },
     { kind := .class, name := "lib.C", base := some "lib.A",
       methods := [{ name := "foo", parameters := [{ name := "x", type := "string" }],
                     returnValue := some { type := "void" } }] }]

/-- The resolver of the overriding class and its base. -/
def overridingResolver : Resolver where
  registry := Registry.ofSources [overridingSource]

/-- The overriding class and its base. -/
def overridingClasses : Hierarchy :=
  ofSources overridingResolver .class .class [overridingSource]

/-- A class without methods that inherits from the base. -/
def emptySymbol : Api.Symbol where
  kind := .class
  name := "lib.B"
  base := some "lib.A"

/-- The class without methods, to be put into the hierarchy of the two others. -/
def emptyClass : ClassModel :=
  ClassModel.build overridingResolver overridingClasses.link.1.size .class "lib" emptySymbol

/-- A base method that does not settle with the class. -/
theorem finalSignatures_overridingClasses_iff :
    overridingClasses.link.1.Consistent ∧ overridingClasses.link.1.cycle? = none ∧
      overridingClasses.link.1.baseId? 1 = some 0 ∧ emptyClass.methods = [] ∧
      ∃ c a, overridingClasses.link.1.get? 1 = some c ∧
        (overridingClasses.link.1.propagate overridingResolver).1.get? 0 = some a ∧
        (finalSignatures overridingResolver .member
            (overridingClasses.link.1.insertBetween 1 0 emptyClass) 1 =
          finalSignatures overridingResolver .member overridingClasses.link.1 1 ↔
            ∀ o ∈ c.methods, ∀ m ∈ a.methods, o.Settles m) := by
  have hconsistent : overridingClasses.link.1.Consistent :=
    (isBuilt_ofSources overridingResolver .class .class [overridingSource]).consistent.link
  have hacyclic : overridingClasses.link.1.cycle? = none := by decide +kernel
  have hbase : overridingClasses.link.1.baseId? 1 = some 0 := by decide +kernel
  have hchild : (overridingClasses.link.1.get? 1).isSome = true := by decide +kernel
  have hfinal : ((overridingClasses.link.1.propagate overridingResolver).1.get? 0).isSome = true :=
    by decide +kernel
  rcases Option.isSome_iff_exists.mp hchild with ⟨c, hc⟩
  rcases Option.isSome_iff_exists.mp hfinal with ⟨a, ha⟩
  exact ⟨hconsistent, hacyclic, hbase, rfl, c, a, hc, ha,
    finalSignatures_insertBetween_iff overridingResolver hconsistent hacyclic hbase rfl rfl rfl rfl
      .member c a hc ha⟩

/-- A class without methods between a class and its base is not always without
    effect. Behind it, the overriding class lacks the signature of its base. -/
theorem not_forall_finalSignatures_insertBetween :
    ¬ ∀ (r : Resolver) (h : Hierarchy), h.IsBuilt r → h.link.1.cycle? = none →
      ∀ child base, h.link.1.baseId? child = some base →
        ∀ library s, s.methods = [] →
          finalSignatures r .member (h.link.1.insertBetween child base
              (ClassModel.build r h.link.1.size .class library s)) child =
            finalSignatures r .member h.link.1 child := by
  intro hall
  have hsame := hall overridingResolver overridingClasses
    (isBuilt_ofSources _ .class .class [overridingSource]) (by decide +kernel) 1 0 (by decide +kernel)
    "lib" emptySymbol rfl
  have hbehind : finalSignatures overridingResolver .member
      (overridingClasses.link.1.insertBetween 1 0 emptyClass) 1 =
        some ["foo(x: string): void"] := by
    decide +kernel
  have hdirect : finalSignatures overridingResolver .member overridingClasses.link.1 1 =
      some ["foo(x: string): void", "foo(x: number): void"] := by
    decide +kernel
  rw [← emptyClass, hbehind, hdirect] at hsame
  exact absurd hsame (by decide)

end Example

end Hierarchy

end Typings
