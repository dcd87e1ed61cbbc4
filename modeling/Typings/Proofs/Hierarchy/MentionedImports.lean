import Typings.Proofs.Hierarchy.Sources

/-!
# Imports of Finished Classes

A finished class has methods of two kinds, and it has to import what both
mention. Its own methods may have grown, and whatever a merge adds to a return
type is taken in at that turn. A carried method brings what it required when it
was built; but its return type may have grown since, in the class it comes from,
and of that nothing is noted in the method itself.

Such a method is not left to its luck as a rule. At the turn at which it is
carried some own method merges its return type in, and the merge hands out what
that type needs. The exception is a turn at which every method that does not
cover the base method comes to return its receiver: then nothing is handed out,
and the base method is carried with only what it required when it was built.

So imports can be missing only for what such a method has gained further up.

## Main definitions

* `ClassModel.ImportsMentioned`: A class imports what its methods mention.
* `IsCarriedSilently`: A method is carried at a turn at which nothing is handed
  out.
* `Carrying.ReturnsCovered`: What own return types mention is imported.

## Theorems

* `Carrying.returnsCovered_foldl_meet`: Own return types stay covered.
* `ClassModel.covers_carryFrom_of_needs`,
  `ClassModel.covers_carryFrom_of_isCarried`: What a turn contributes.
* `ClassModel.covers_carryFrom_of_own`,
  `ClassModel.covers_carryFrom_of_not_silent`: What is imported in any case.
* `ClassModel.importsMentioned_finish_iff`: When a class imports what its
  methods mention, given its base.
* `Hierarchy.importsMentioned_propagate_iff`: The same for a whole hierarchy.
-/

namespace Typings

/-- A class imports what its methods mention. -/
def ClassModel.ImportsMentioned (r : Resolver) (c : ClassModel) : Prop :=
  ∀ m ∈ c.methods, ∀ token, m.Mentions token →
    ∀ i ∈ (r.resolve token).requirements.imports, c.dependencies.imports.Covers i

/-- A base method is carried, and every own method that does not cover it comes
    to return its receiver instead of growing by its return type. -/
def IsCarriedSilently (r : Resolver) (baseId : Nat) (base own : List Method) (k : Nat)
    (m : Method) : Prop :=
  IsCarried r baseId base own k m ∧
    ∀ o ∈ own, IsFlagged r baseId base k m o →
      (Method.meet r m ⟨baseId, k⟩ (o.before r baseId base k)).1.returnText = thisType

namespace Method

/-- Base methods change neither what a method requires nor its parameters. -/
theorem requiresParameters_after (r : Resolver) (baseId : Nat) (own : Method)
    (met : List (Nat × Method)) (h : own.RequiresParameters r) :
    (own.after r baseId met).RequiresParameters r := by
  rcases after_frame r baseId own met with ⟨t, o, hafter⟩
  rw [hafter]
  exact h

end Method

namespace Carrying

/-- What the tokens of own return types need is not missing. -/
def ReturnsCovered (r : Resolver) (c : Carrying) : Prop :=
  ∀ o ∈ c.own, ∀ t, o.returnType = some t → ∀ a token, t.rawTypes.get? a = some token →
    ∀ i ∈ (r.resolve token).requirements.imports, c.dependencies.imports.Covers i

variable (r : Resolver) (baseId : Nat)

theorem returnsCovered_meet (c : Carrying) (b : Nat × Method) (h : c.ReturnsCovered r) :
    (meet r baseId c b).ReturnsCovered r := by
  intro m hm t ht a token htoken i hi
  rw [own_meet, List.mem_map] at hm
  rcases hm with ⟨o, ho, rfl⟩
  rcases Method.rawType_meet r b.2 ⟨baseId, b.1⟩ o t a token ht htoken with
    ⟨t', ht', htoken'⟩ | ⟨needs, hneeds, hmem⟩
  · exact covers_meet r baseId c b i (h o ho t' ht' a token htoken' i hi)
  · exact covers_of_needs r baseId c b o ho needs hneeds i (hmem i hi)

/-- Own return types grow turn by turn, and stay covered. -/
theorem returnsCovered_foldl_meet (met : List (Nat × Method)) (c : Carrying)
    (h : c.ReturnsCovered r) : (met.foldl (meet r baseId) c).ReturnsCovered r := by
  induction met generalizing c with
  | nil => exact h
  | cons b rest ih => exact ih _ (returnsCovered_meet r baseId c b h)

end Carrying

namespace ClassModel

variable (r : Resolver) (base c : ClassModel) (baseId : Nat)

/-- The class before the turn of a base method. -/
def carryBefore (k : Nat) : Carrying :=
  ((numbered base.methods).take k).foldl (Carrying.meet r baseId)
    { own := c.methods, dependencies := c.dependencies }

theorem own_carryBefore (k : Nat) :
    (carryBefore r base c baseId k).own =
      c.methods.map fun o => o.before r baseId base.methods k :=
  Carrying.own_foldl_meet r baseId _ _

/-- The turn of a base method, and then those of the base methods behind it. -/
theorem carryFrom_eq (k : Nat) (b : Method) (hb : base.methods[k]? = some b) :
    carryFrom r base c baseId =
      ((numbered base.methods).drop (k + 1)).foldl (Carrying.meet r baseId)
        (Carrying.meet r baseId (carryBefore r base c baseId k) (k, b)) := by
  show (numbered base.methods).foldl (Carrying.meet r baseId) _ = _
  rw [carryBefore, ← List.foldl_cons, ← List.foldl_append, ← numbered_split base.methods k b hb]

/-- What is handed out at a turn is imported in the end. -/
theorem covers_carryFrom_of_needs (k : Nat) (b : Method) (hb : base.methods[k]? = some b)
    (o : Method) (ho : o ∈ c.methods) (needs : Requirements)
    (hneeds : (Method.meet r b ⟨baseId, k⟩ (o.before r baseId base.methods k)).2 = some needs)
    (i : TypeImport) (hi : i ∈ needs.imports) :
    (carryFrom r base c baseId).dependencies.imports.Covers i := by
  rw [carryFrom_eq r base c baseId k b hb]
  refine Carrying.covers_foldl_meet r baseId _ _ i ?_
  refine Carrying.covers_of_needs r baseId _ (k, b) (o.before r baseId base.methods k) ?_
    needs hneeds i hi
  rw [own_carryBefore]
  exact List.mem_map_of_mem ho

/-- What a carried method requires is imported in the end. -/
theorem covers_carryFrom_of_isCarried (k : Nat) (b : Method)
    (hcarried : IsCarried r baseId base.methods c.methods k b) (i : TypeImport)
    (hi : i ∈ b.requirements.imports) :
    (carryFrom r base c baseId).dependencies.imports.Covers i := by
  rcases hcarried with ⟨hb, o, ho, hflag⟩
  rw [carryFrom_eq r base c baseId k b hb]
  refine Carrying.covers_foldl_meet r baseId _ _ i ?_
  refine Carrying.covers_of_flagged r baseId _ (k, b) (o.before r baseId base.methods k) ?_
    hflag i hi
  rw [own_carryBefore]
  exact List.mem_map_of_mem ho

/-- What a class imports before carrying it imports afterwards. -/
theorem covers_carryFrom (i : TypeImport) (h : c.dependencies.imports.Covers i) :
    (carryFrom r base c baseId).dependencies.imports.Covers i :=
  Carrying.covers_foldl_meet r baseId _ _ i h

/-- A class whose methods require what their tokens need, and which imports what
    its methods require, imports what its methods mention. -/
theorem importsMentioned_of_requires (hparameters : ∀ o ∈ c.methods, o.RequiresParameters r)
    (hreturns : ∀ o ∈ c.methods, o.RequiresReturn r)
    (hcovers : ∀ o ∈ c.methods, ∀ i ∈ o.requirements.imports, c.dependencies.imports.Covers i) :
    c.ImportsMentioned r := by
  intro m hm token hmentions i hi
  rcases hmentions with ⟨p, hp, hraw, rfl⟩ | ⟨t, ht, a, _, htoken⟩
  · exact hcovers m hm i (hparameters m hm p hp hraw i hi)
  · exact hcovers m hm i (hreturns m hm t ht a token htoken i hi)

/-- What an own method mentions in the end is imported. -/
theorem covers_carryFrom_of_own (hparameters : ∀ o ∈ c.methods, o.RequiresParameters r)
    (hreturns : ∀ o ∈ c.methods, o.RequiresReturn r)
    (hcovers : ∀ o ∈ c.methods, ∀ i ∈ o.requirements.imports, c.dependencies.imports.Covers i)
    (m : Method) (hown : m ∈ (carryFrom r base c baseId).own) (token : String)
    (hmentions : m.Mentions token) (i : TypeImport)
    (hi : i ∈ (r.resolve token).requirements.imports) :
    (carryFrom r base c baseId).dependencies.imports.Covers i := by
  rcases hmentions with ⟨p, hp, hraw, rfl⟩ | ⟨t, ht, a, _, htoken⟩
  · -- Parameters are those the method was built with.
    rw [own_carryFrom, List.mem_map] at hown
    rcases hown with ⟨o, ho, rfl⟩
    rw [Method.finished, Method.parameters_after] at hp
    exact covers_carryFrom r base c baseId i (hcovers o ho i (hparameters o ho p hp hraw i hi))
  · -- The return type may have grown, which the invariant accounts for.
    refine Carrying.returnsCovered_foldl_meet r baseId (numbered base.methods)
      { own := c.methods, dependencies := c.dependencies } ?_ m hown t ht a token htoken i hi
    intro o ho t' ht' a' token' htoken' j hj
    exact hcovers o ho j (hreturns o ho t' ht' a' token' htoken' j hj)

/-- What the return type of a carried method mentions is imported, if some own
    method grew by it. -/
theorem covers_carryFrom_of_not_silent (k : Nat) (m : Method)
    (hk : IsCarried r baseId base.methods c.methods k m)
    (hgrown : ¬ IsCarriedSilently r baseId base.methods c.methods k m) (token : String)
    (hreturn : m.ReturnMentions token) (i : TypeImport)
    (hi : i ∈ (r.resolve token).requirements.imports) :
    (carryFrom r base c baseId).dependencies.imports.Covers i := by
  simp only [IsCarriedSilently, hk, true_and, not_forall] at hgrown
  rcases hgrown with ⟨o, ho, hflag, hother⟩
  rcases Method.needs_meet_of_mentions r m ⟨baseId, k⟩ _ token hreturn hflag hother with
    ⟨needs, hneeds, hmem⟩
  exact covers_carryFrom_of_needs r base c baseId k m hk.1 o ho needs hneeds i (hmem i hi)

/-- A class whose own methods are covered, and whose base's methods require what
    their parameters need, imports what its methods mention exactly if it
    imports what silently carried methods have gained. -/
theorem importsMentioned_finish_iff
    (hparameters : ∀ o ∈ c.methods, o.RequiresParameters r)
    (hreturns : ∀ o ∈ c.methods, o.RequiresReturn r)
    (hcovers : ∀ o ∈ c.methods, ∀ i ∈ o.requirements.imports, c.dependencies.imports.Covers i)
    (hbase : ∀ b ∈ base.methods, b.RequiresParameters r) :
    (c.finish (carryFrom r base c baseId)).ImportsMentioned r ↔
      ∀ k m, IsCarriedSilently r baseId base.methods c.methods k m →
        ∀ token, m.ReturnMentions token →
          ∀ i ∈ (r.resolve token).requirements.imports, i ∉ m.requirements.imports →
            (carryFrom r base c baseId).dependencies.imports.Covers i := by
  constructor
  · intro h k m hsilent token hmentions i hi _
    refine h m ?_ token (Or.inr hmentions) i hi
    rw [mem_finish_methods, mem_carried_carryFrom]
    exact Or.inr ⟨k, hsilent.1⟩
  · intro h m hm token hmentions i hi
    show (carryFrom r base c baseId).dependencies.imports.Covers i
    rcases (mem_finish_methods c _ m).mp hm with hown | hcarried
    · exact covers_carryFrom_of_own r base c baseId hparameters hreturns hcovers m hown token
        hmentions i hi
    · rcases (mem_carried_carryFrom r base c baseId m).mp hcarried with ⟨k, hk⟩
      by_cases hrequired : i ∈ m.requirements.imports
      · exact covers_carryFrom_of_isCarried r base c baseId k m hk i hrequired
      · rcases hmentions with ⟨p, hp, hraw, rfl⟩ | hreturn
        · exact absurd (hbase m (List.mem_of_getElem? hk.1) p hp hraw i hi) hrequired
        · by_cases hsilent : IsCarriedSilently r baseId base.methods c.methods k m
          · exact h k m hsilent token hreturn i hi hrequired
          · exact covers_carryFrom_of_not_silent r base c baseId k m hk hsilent token hreturn i hi

end ClassModel

namespace Hierarchy

variable (r : Resolver) (h : Hierarchy)

/-- A linked class is covered for what its methods mention. -/
theorem covers_of_get?_link (hb : h.IsBuilt r) (i : Nat) (c : ClassModel)
    (hget : h.link.1.get? i = some c) :
    (∀ o ∈ c.methods, o.RequiresParameters r) ∧ (∀ o ∈ c.methods, o.RequiresReturn r) ∧
      ∀ o ∈ c.methods, ∀ j ∈ o.requirements.imports, c.dependencies.imports.Covers j := by
  rcases hb.get?_link i c hget with ⟨kind, library, s, hc⟩
  have hmethods : c.methods = (ClassModel.build r i kind library s).methods :=
    congrArg (·.methods) hc
  have hdependencies : c.dependencies = (ClassModel.build r i kind library s).dependencies :=
    congrArg (·.dependencies) hc
  rw [hmethods, hdependencies]
  exact ⟨ClassModel.requiresParameters_of_mem_build r i kind library s,
    ClassModel.requiresReturn_of_mem_build r i kind library s,
    ClassModel.covers_build r i kind library s⟩

/-- In a finished hierarchy every method requires what its parameters need. -/
theorem requiresParameters_of_finished (hb : h.IsBuilt r) (i : Nat) (f : ClassModel)
    (hf : h.link.1.Finished r i f) : ∀ m ∈ f.methods, m.RequiresParameters r := by
  induction hf with
  | root i c hget _ => exact (covers_of_get?_link r h hb i c hget).1
  | derived i b c base hget _ _ ih =>
      intro m hm
      rcases (ClassModel.mem_finish_methods c _ m).mp hm with hown | hcarried
      · rw [ClassModel.own_carryFrom, List.mem_map] at hown
        rcases hown with ⟨o, ho, rfl⟩
        exact Method.requiresParameters_after r b o _
          ((covers_of_get?_link r h hb i c hget).1 o ho)
      · rcases (ClassModel.mem_carried_carryFrom r base c b m).mp hcarried with ⟨k, hk⟩
        exact ih m (List.mem_of_getElem? hk.1)

/-- A class of a finished hierarchy imports what its methods mention exactly if
    it imports what the return types of its silently carried methods have gained
    in the class they come from. -/
theorem importsMentioned_propagate_iff (hb : h.IsBuilt r) (hacyclic : h.link.1.cycle? = none)
    (i : Nat) (f : ClassModel) (hget : (h.link.1.propagate r).1.get? i = some f) :
    f.ImportsMentioned r ↔
      ∀ c b base, h.link.1.get? i = some c → c.baseId = some b →
        (h.link.1.propagate r).1.get? b = some base →
        ∀ k m, IsCarriedSilently r b base.methods c.methods k m →
          ∀ token, m.ReturnMentions token →
            ∀ j ∈ (r.resolve token).requirements.imports, j ∉ m.requirements.imports →
              f.dependencies.imports.Covers j := by
  have hc : h.link.1.Consistent := hb.consistent.link
  have hrooted := (cycle?_eq_none_iff h.link.1 hc).mp hacyclic
  have hi : i < h.link.1.size := by
    rw [← size_of_skeleton _ _ (sameSkeleton_propagate r h.link.1)]
    exact lt_size_of_get? _ i f hget
  have hfinished := finished_of_get?_propagate r h.link.1 hc i (hrooted i hi) f hget
  cases hfinished with
  | root _ _ hlinked hbase =>
      rcases covers_of_get?_link r h hb i f hlinked with ⟨hparameters, hreturns, hcovers⟩
      constructor
      · -- A root has no base that anything could be carried from.
        intro _ c b base hlinked' hbase'
        rw [hlinked, Option.some_inj] at hlinked'
        rw [← hlinked', hbase] at hbase'
        contradiction
      · exact fun _ => ClassModel.importsMentioned_of_requires r f hparameters hreturns hcovers
  | derived _ b c base hlinked hbase hfinished =>
      rcases covers_of_get?_link r h hb i c hlinked with ⟨hparameters, hreturns, hcovers⟩
      have hb' : b < h.link.1.size := hc.base_lt i b
        ((h.link.1.baseId?_eq_some_iff i b).mpr ⟨c, hlinked, hbase⟩)
      -- The base in the hierarchy is the one that the class was finished from.
      have hgetb := get?_propagate_of_finished r h.link.1 hc b (hrooted b hb') base hfinished
      rw [ClassModel.importsMentioned_finish_iff r base c b hparameters hreturns hcovers
        (requiresParameters_of_finished r h hb b base hfinished)]
      constructor
      · intro hall c' b' base' hlinked' hbase' hget'
        rw [hlinked, Option.some_inj] at hlinked'
        subst hlinked'
        rw [hbase, Option.some_inj] at hbase'
        subst hbase'
        rw [hgetb, Option.some_inj] at hget'
        subst hget'
        exact hall
      · exact fun hall => hall c b base hlinked hbase hgetb

section Chain

/-- Three levels of `foo` that return different types, and at the end a class
    whose `foo` returns its receiver. -/
def fluentChain : Api.Source where
  library := "lib"
  symbols :=
    [{ kind := .enum, name := "x.A" },
     { kind := .enum, name := "x.B" },
     { kind := .enum, name := "x.E" },
     { kind := .class, name := "lib.G",
       methods := [{ name := "foo", returnValue := some { type := "x.B" } }] },
     { kind := .class, name := "lib.P", base := some "lib.G",
       methods := [{ name := "foo", returnValue := some { type := "x.A" } }] },
     { kind := .class, name := "lib.C", base := some "lib.P",
       methods := [{ name := "foo", returnValue := some { type := "x.E" } }] },
     { kind := .class, name := "lib.D", base := some "lib.C",
       methods := [{ name := "foo", returnValue := some { type := "this" } }] }]

/-- The resolver of the chain. -/
def fluentResolver : Resolver where
  registry := Registry.ofSources [fluentChain]

/-- The classes of the chain. -/
def fluentClasses : Hierarchy :=
  ofSources fluentResolver .class .class [fluentChain]

/-- The finished class of the chain at a place. -/
def fluentClass (i : Nat) : ClassModel :=
  ((fluentClasses.link.1.propagate fluentResolver).1.get? i).getD default

theorem get?_fluentClasses (i : Nat)
    (hi : ((fluentClasses.link.1.propagate fluentResolver).1.get? i).isSome = true) :
    (fluentClasses.link.1.propagate fluentResolver).1.get? i = some (fluentClass i) := by
  rcases Option.isSome_iff_exists.mp hi with ⟨f, hf⟩
  rw [fluentClass, hf, Option.getD_some]

/-- The last class of the chain. -/
theorem importsMentioned_fluentClass_iff :
    fluentClasses.IsBuilt fluentResolver ∧ fluentClasses.link.1.cycle? = none ∧
      ((fluentClass 3).ImportsMentioned fluentResolver ↔
        ∀ c b base, fluentClasses.link.1.get? 3 = some c → c.baseId = some b →
          (fluentClasses.link.1.propagate fluentResolver).1.get? b = some base →
          ∀ k m, IsCarriedSilently fluentResolver b base.methods c.methods k m →
            ∀ token, m.ReturnMentions token →
              ∀ j ∈ (fluentResolver.resolve token).requirements.imports,
                j ∉ m.requirements.imports → (fluentClass 3).dependencies.imports.Covers j) := by
  have hbuilt : fluentClasses.IsBuilt fluentResolver :=
    isBuilt_ofSources _ .class .class [fluentChain]
  have hacyclic : fluentClasses.link.1.cycle? = none := by decide +kernel
  have hget := get?_fluentClasses 3 (by decide +kernel)
  exact ⟨hbuilt, hacyclic,
    importsMentioned_propagate_iff fluentResolver fluentClasses hbuilt hacyclic 3 _ hget⟩

/-- Finished classes do not always import what their methods mention. The last
    class of the chain declares a `foo` that returns `E|A|B`, as does its base,
    and does not import `B`. -/
theorem not_forall_importsMentioned :
    ¬ ∀ (r : Resolver) (h : Hierarchy), h.IsBuilt r → h.link.1.cycle? = none →
      ∀ i f, (h.link.1.propagate r).1.get? i = some f → f.ImportsMentioned r := by
  intro hall
  have hmentions : (fluentClass 3).ImportsMentioned fluentResolver :=
    hall fluentResolver fluentClasses (isBuilt_ofSources _ .class .class [fluentChain])
      (by decide +kernel) 3 _ (get?_fluentClasses 3 (by decide +kernel))
  -- The method comes from the base, where it gained `B`.
  have hreturns : (fluentClass 3).methods.any (fun m => m.returnType.any fun t =>
      decide ("B" ∈ alternatives t.type) && decide (t.rawTypes.get? "B" = some "x.B")) = true := by
    decide +kernel
  rcases List.any_eq_true.mp hreturns with ⟨m, hm, hreturn⟩
  rcases (Option.any_eq_true_iff_get _ _).mp hreturn with ⟨hsome, hget⟩
  rw [Bool.and_eq_true, decide_eq_true_eq, decide_eq_true_eq] at hget
  have hneeds : (⟨"B", "x"⟩ : TypeImport) ∈
      (fluentResolver.resolve "x.B").requirements.imports := by
    decide +kernel
  have hcovers := hmentions m hm "x.B"
    (Or.inr ⟨m.returnType.get hsome, (Option.some_get hsome).symm, "B", hget.1, hget.2⟩) _ hneeds
  rcases hcovers with hmodule | hsuppressed | hcontains
  · exact absurd hmodule (by decide)
  · exact absurd hsuppressed (by decide +kernel)
  · exact absurd hcontains (by decide +kernel)

end Chain

end Hierarchy

end Typings
