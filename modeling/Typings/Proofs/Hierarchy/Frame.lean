import Typings.Proofs.Hierarchy.References

/-!
# What Finishing a Class Leaves Alone

Finishing rewrites the method list of a class in place: return types grow, base
methods come in behind the own ones, and in the end everything is sorted. None of
that loses a method or makes one up. Taken apart again, the list is the own methods
in the order they had, which differ from what they were in what they return and in
the note of what they were merged with, and behind them entries of the base's list
in the order they have there.

Two methods of one name are told apart by their order alone, so it matters that the
sorting at the end is stable: own methods stay in front of the carried ones of their
name.

Of everything else in the class only the dependencies change. They grow at the end,
so an import that was there keeps its place and its module whatever is carried, and
every other class of the hierarchy is left as it is.

## Main definitions

* `Method.skeleton`: What finishing leaves alone of a method.
* `ClassModel.Gains`: A class has gained some methods and what they need, and has
  changed in nothing else.

## Theorems

* `Method.skeleton_finished`: Base methods leave the skeleton of a method alone.
* `ClassModel.growsTo_carryFrom`: Carrying extends dependencies at the end.
* `ClassModel.gains_finish`: What finishing makes of a class.
* `Hierarchy.createOverloads_frame`: What finishing a class makes of a hierarchy.
-/

namespace Typings

/-- What finishing leaves alone of a method: everything but what it returns and the
    note of what it was merged with. -/
def Method.skeleton (m : Method) : Method :=
  { m with returnType := none, overloaded := none }

/-- Base methods leave the skeleton of a method alone. -/
theorem Method.skeleton_finished (r : Resolver) (baseId : Nat) (base : List Method)
    (own : Method) : (own.finished r baseId base).skeleton = own.skeleton := by
  unfold finished
  rcases after_frame r baseId own (numbered base) with ⟨t, ref, hafter⟩
  rw [hafter]
  rfl

namespace ClassModel

/-- A class has gained some methods and what they need, and has changed in nothing
    else. Its methods are its own, with their skeletons, and the gained ones behind
    them, sorted by name. -/
structure Gains (c : ClassModel) (gained : List Method) (f : ClassModel) : Prop where
  skeleton : f.skeleton = c.skeleton
  methods : ∃ own : List Method, own.map Method.skeleton = c.methods.map Method.skeleton ∧
    Text.IsStableSort (fun m : Method => m.name) (own ++ gained) f.methods
  dependencies : c.dependencies.GrowsTo f.dependencies

variable (r : Resolver) (base c : ClassModel) (baseId : Nat)

/-- Carrying extends dependencies at the end. -/
theorem growsTo_carryFrom :
    c.dependencies.GrowsTo (carryFrom r base c baseId).dependencies :=
  Carrying.dependencies_foldl_meet_induction r baseId (motive := c.dependencies.GrowsTo)
    (fun _ q hd => hd.absorb q) (numbered base.methods)
    { own := c.methods, dependencies := c.dependencies } (Dependencies.growsTo_refl _)

/-- A finished class has gained the methods that were carried into it. -/
theorem gains_finish :
    c.Gains (carryFrom r base c baseId).carried (c.finish (carryFrom r base c baseId)) := by
  refine ⟨rfl, ⟨(carryFrom r base c baseId).own, ?_, ?_⟩, growsTo_carryFrom r base c baseId⟩
  · -- An own method is met by all base methods, none of which changes its skeleton.
    rw [own_carryFrom, List.map_map]
    exact List.map_congr_left fun o _ => Method.skeleton_finished r baseId base.methods o
  · exact Text.isStableSort_sortBy _ _

end ClassModel

namespace Hierarchy

/-- Finishing a class that is linked to a base changes that class and no other. The
    class gains entries of its base's method list, in their order, and one report is
    made for each of them. -/
theorem createOverloads_frame (r : Resolver) (h : Hierarchy) (i b : Nat) (c base : ClassModel)
    (hget : h.get? i = some c) (hbase : c.baseId = some b) (hgetb : h.get? b = some base) :
    ∃ f gained, (createOverloads r h i).1.get? i = some f ∧ c.Gains gained f ∧
      gained.Sublist base.methods ∧
      (createOverloads r h i).2 =
        gained.map (fun m => ⟨c.qualifiedName, base.qualifiedName, m.name⟩) ∧
      (createOverloads r h i).2.length = gained.length ∧
      (createOverloads r h i).1.size = h.size ∧
      ∀ j, j ≠ i → (createOverloads r h i).1.get? j = h.get? j := by
  have hcreated := createOverloads_of_base r h i b c base hget hbase hgetb
  refine ⟨c.finish (ClassModel.carryFrom r base c b), (ClassModel.carryFrom r base c b).carried,
    get?_createOverloads_of_base r h i b c base hget hbase hgetb,
    ClassModel.gains_finish r base c b, ClassModel.carried_sublist r base c b, ?_, ?_, ?_, ?_⟩
  · rw [hcreated]
  · rw [hcreated, List.length_map]
  · exact size_of_skeleton _ h (sameSkeleton_createOverloads r h i)
  · intro j hne
    exact get?_createOverloads_of_ne r h i j hne.symm

section Example

/-- A class with a method for every way in which an own method can meet a base method,
    and with everything else that a class can have. -/
def paneSource : Api.Source where
  library := "lib"
  symbols :=
    [{ kind := .enum, name := "lib.Size" },
     { kind := .class, name := "lib.Base",
       methods :=
         [{ name := "resize", parameters := [{ name := "s", type := "lib.Size" }],
            returnValue := some { type := "lib.Size" } },
          { name := "close", returnValue := some { type := "this" } },
          { name := "clear", returnValue := some { type := "void" } }] },
     { kind := .class, name := "lib.Pane", base := some "lib.Base",
       construct := some { name := "constructor", parameters := [{ name := "id" }] },
       events := [{ name := "shut" }],
       methods :=
         [{ name := "resize", parameters := [{ name := "w", type := "number" }],
            returnValue := some { type := "lib.Missing" } },
          { name := "close", returnValue := some { type := "void" } },
          { name := "open" }] }]

/-- The resolver of the pane and its base. -/
def paneResolver : Resolver where
  registry := Registry.ofSources [paneSource]

/-- The pane and its base, linked. -/
def paneClasses : Hierarchy :=
  (ofSources paneResolver .class .class [paneSource]).link.1

/-- The pane gains the base method of another parameter type, and an import behind
    the one it had. -/
theorem createOverloads_paneClasses :
    ∃ c base f gained, paneClasses.get? 1 = some c ∧ c.baseId = some 0 ∧
      paneClasses.get? 0 = some base ∧
      (createOverloads paneResolver paneClasses 1).1.get? 1 = some f ∧
      f.methods.map (·.signature .member) =
        ["close(): this", "open(): any", "resize(w: number): any|Size",
         "resize(s: Size): Size"] ∧
      f.dependencies.imports.toList = [⟨"Base", "lib"⟩, ⟨"Size", "lib"⟩] ∧
      c.Gains gained f ∧ gained.Sublist base.methods ∧
      (createOverloads paneResolver paneClasses 1).2 =
        gained.map (fun m => ⟨c.qualifiedName, base.qualifiedName, m.name⟩) ∧
      (createOverloads paneResolver paneClasses 1).2.length = gained.length ∧
      (createOverloads paneResolver paneClasses 1).1.size = paneClasses.size ∧
      ∀ j, j ≠ 1 → (createOverloads paneResolver paneClasses 1).1.get? j = paneClasses.get? j := by
  have hlink : paneClasses.baseId? 1 = some 0 := by decide +kernel
  have hroot : (paneClasses.get? 0).isSome = true := by decide +kernel
  have hfinal : ((createOverloads paneResolver paneClasses 1).1.get? 1).map
      (fun f => (f.methods.map (·.signature .member), f.dependencies.imports.toList)) =
      some (["close(): this", "open(): any", "resize(w: number): any|Size",
        "resize(s: Size): Size"], [⟨"Base", "lib"⟩, ⟨"Size", "lib"⟩]) := by
    decide +kernel
  rcases (baseId?_eq_some_iff _ 1 0).mp hlink with ⟨c, hget, hbase⟩
  rcases Option.isSome_iff_exists.mp hroot with ⟨base, hgetb⟩
  rcases createOverloads_frame paneResolver paneClasses 1 0 c base hget hbase hgetb with
    ⟨f, gained, hf, hrest⟩
  rw [hf, Option.map_some, Option.some_inj, Prod.mk.injEq] at hfinal
  exact ⟨c, base, f, gained, hget, hbase, hgetb, hf, hfinal.1, hfinal.2, hrest⟩

end Example

end Hierarchy

end Typings
