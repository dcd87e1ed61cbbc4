import Typings.Proofs.Hierarchy.Finishing
import Typings.Proofs.Resolving
import Typings.Run.Synthesis

/-!
# Places Do Not Matter

A class knows where it stands among the others, where its base stands and where
its children stand, and a method knows where the method stands that it was
merged with. All of that is bookkeeping. Nothing that is decided looks at it,
and of a finished declaration it shows only that there was something to merge.

So if two hierarchies have the same classes at corresponding places, and links
between corresponding places, corresponding classes come out the same but for
their places.

## Main definitions

* `Method.unplaced`, `ClassModel.unplaced`, `Carrying.unplaced`: Models without
  the places of classes.
* `Hierarchy.Corresponding`: Hierarchies with the same classes at other places.

## Theorems

* `Method.meet_unplaced`, `ClassModel.carryFrom_unplaced`,
  `ClassModel.finish_unplaced`: Places are not looked at.
* `ClassModel.declaration_unplaced`: Declarations do not show them.
* `Hierarchy.Corresponding.rooted`, `Hierarchy.Corresponding.finished`:
  Corresponding classes are rooted alike and come out alike.
* `Hierarchy.Corresponding.declarations`: Corresponding classes are declared
  alike.
-/

namespace Typings

/-- A place in the method list of some class. -/
def MethodRef.unplaced (ref : MethodRef) : MethodRef :=
  { ref with classId := 0 }

/-- A method without the place of the class it was merged from. -/
def Method.unplaced (m : Method) : Method :=
  { m with overloaded := m.overloaded.map MethodRef.unplaced }

/-- A class without its place and without the places it is linked to. -/
def ClassModel.unplaced (c : ClassModel) : ClassModel :=
  { c with
    id := 0
    baseId := none
    children := []
    methods := c.methods.map Method.unplaced }

/-- A class's methods without places, while base methods are held against
    them. -/
def Carrying.unplaced (c : Carrying) : Carrying :=
  { c with
    own := c.own.map Method.unplaced
    carried := c.carried.map Method.unplaced }

namespace Method

theorem overloadDecision_unplaced (own base : Method) :
    own.unplaced.overloadDecision base.unplaced = own.overloadDecision base := rfl

variable (r : Resolver) (base : Method) (origin : MethodRef) (own : Method)

theorem mergeBase_unplaced :
    own.unplaced.mergeBase base.unplaced origin.unplaced r =
      ((own.mergeBase base origin r).1.unplaced, (own.mergeBase base origin r).2) := by
  rcases hbase : base.returnType with _ | baseReturn
  · rw [mergeBase_of_none r base origin own hbase,
      mergeBase_of_none r base.unplaced origin.unplaced own.unplaced hbase]
    rfl
  · rw [mergeBase_of_some r base origin own baseReturn hbase,
      mergeBase_of_some r base.unplaced origin.unplaced own.unplaced baseReturn hbase]
    by_cases hthis : thisType ∈ mergedAlternatives own.returnText base.returnText
    · rw [if_pos hthis]
      exact if_pos hthis
    · rw [if_neg hthis]
      exact if_neg hthis

/-- Meeting a base method does not look at places. -/
theorem meet_unplaced :
    meet r base.unplaced origin.unplaced own.unplaced =
      ((meet r base origin own).1.unplaced, (meet r base origin own).2) := by
  have hdecision := overloadDecision_unplaced own base
  by_cases hoverload : own.overloadDecision base = .overload
  · rw [meet_of_overload r base origin own hoverload,
      meet_of_overload r _ _ _ (hdecision.trans hoverload), mergeBase_unplaced]
  · by_cases hadopt : own.overloadDecision base = .adoptThis
    · rw [meet_of_adoptThis r base origin own hadopt,
        meet_of_adoptThis r _ _ _ (hdecision.trans hadopt)]
      rfl
    · rw [meet_of_settled r base origin own hoverload hadopt, meet_of_settled]
      · rwa [hdecision]
      · rwa [hdecision]

end Method

namespace Carrying

variable (r : Resolver) (baseId : Nat)

theorem meet_unplaced (c : Carrying) (b : Nat × Method) :
    meet r 0 c.unplaced (b.1, b.2.unplaced) = (meet r baseId c b).unplaced := by
  -- Meeting hands out the same needs, so it is carried on both sides or on none.
  have hmet : c.unplaced.own.map (Method.meet r b.2.unplaced ⟨0, b.1⟩) =
      (c.own.map (Method.meet r b.2 ⟨baseId, b.1⟩)).map fun m => (m.1.unplaced, m.2) := by
    rw [unplaced, List.map_map, List.map_map]
    exact List.map_congr_left fun o _ => Method.meet_unplaced r b.2 ⟨baseId, b.1⟩ o
  have hown : ((c.own.map (Method.meet r b.2 ⟨baseId, b.1⟩)).map fun m =>
      (m.1.unplaced, m.2)).map Prod.fst =
      ((c.own.map (Method.meet r b.2 ⟨baseId, b.1⟩)).map Prod.fst).map Method.unplaced := by
    simp only [List.map_map]
    rfl
  have hneeds : ((c.own.map (Method.meet r b.2 ⟨baseId, b.1⟩)).map fun m =>
      (m.1.unplaced, m.2)).filterMap Prod.snd =
      (c.own.map (Method.meet r b.2 ⟨baseId, b.1⟩)).filterMap Prod.snd := by
    rw [List.filterMap_map]
    rfl
  simp only [meet, hmet, hown, hneeds]
  by_cases hempty :
      ((c.own.map (Method.meet r b.2 ⟨baseId, b.1⟩)).filterMap Prod.snd).isEmpty = true
  · rw [if_pos hempty, if_pos hempty]
    rfl
  · rw [if_neg hempty, if_neg hempty, unplaced, unplaced]
    simp only [List.map_append, List.map_cons, List.map_nil]
    rfl

theorem foldl_meet_unplaced (met : List (Nat × Method)) (c : Carrying) :
    (met.map fun b => (b.1, b.2.unplaced)).foldl (meet r 0) c.unplaced =
      (met.foldl (meet r baseId) c).unplaced := by
  induction met generalizing c with
  | nil => rfl
  | cons b rest ih => rw [List.map_cons, List.foldl_cons, List.foldl_cons, meet_unplaced, ih]

end Carrying

namespace ClassModel

variable (r : Resolver) (base c : ClassModel) (baseId : Nat)

/-- Carrying does not look at places. -/
theorem carryFrom_unplaced :
    carryFrom r base.unplaced c.unplaced 0 = (carryFrom r base c baseId).unplaced := by
  have hnumbered : numbered base.unplaced.methods =
      (numbered base.methods).map fun b => (b.1, b.2.unplaced) := by
    rw [numbered, numbered, unplaced, List.length_map, List.zip_map_right]
    rfl
  show (numbered base.unplaced.methods).foldl (Carrying.meet r 0) _ = _
  rw [hnumbered]
  exact Carrying.foldl_meet_unplaced r baseId (numbered base.methods)
    { own := c.methods, dependencies := c.dependencies }

theorem finish_unplaced (carrying : Carrying) :
    (c.finish carrying).unplaced = c.unplaced.finish carrying.unplaced := by
  -- Methods are sorted by name, and a name is nothing of a place.
  have hsort : Text.sortBy (fun m : Method => m.name)
      ((carrying.own ++ carrying.carried).map Method.unplaced) =
      (Text.sortBy (fun m : Method => m.name) (carrying.own ++ carrying.carried)).map
        Method.unplaced :=
    Text.sortBy_map _ _ _ (fun _ => rfl) _
  rw [List.map_append] at hsort
  rw [finish, finish, unplaced, ← hsort]
  rfl

/-- Places are not declared. -/
theorem declaration_unplaced (base : Option ClassModel) :
    c.unplaced.declaration (base.map unplaced) = c.declaration base := by
  have hmethods : c.unplaced.methods.map (MethodDeclaration.ofMethod c.unplaced.kind.style) =
      c.methods.map (MethodDeclaration.ofMethod c.kind.style) := by
    rw [unplaced, List.map_map]
    refine List.map_congr_left fun m _ => ?_
    -- All that is declared of a merge is that there was one.
    simp only [Function.comp_apply, MethodDeclaration.ofMethod, Method.unplaced,
      Option.isSome_map]
    rfl
  rw [declaration, declaration, hmethods]
  rcases base with _ | base <;> rfl

end ClassModel

namespace Hierarchy

/-- Hierarchies with the same classes at other places: at corresponding places
    there are classes that differ in their places at most, and their bases are at
    corresponding places. -/
structure Corresponding (same : Nat → Nat → Prop) (g g' : Hierarchy) : Prop where
  classes : ∀ i j, same i j → ∃ c c', g.get? i = some c ∧ g'.get? j = some c' ∧
    c.unplaced = c'.unplaced
  bases : ∀ i j, same i j → (g.baseId? i = none ∧ g'.baseId? j = none) ∨
    ∃ b b', g.baseId? i = some b ∧ g'.baseId? j = some b' ∧ same b b'

namespace Corresponding

variable {same : Nat → Nat → Prop} {g g' : Hierarchy}

theorem symm (h : Corresponding same g g') : Corresponding (fun j i => same i j) g' g := by
  refine ⟨fun j i hij => ?_, fun j i hij => ?_⟩
  · rcases h.classes i j hij with ⟨c, c', hc, hc', heq⟩
    exact ⟨c', c, hc', hc, heq.symm⟩
  · rcases h.bases i j hij with ⟨hnone, hnone'⟩ | ⟨b, b', hb, hb', hsame⟩
    · exact Or.inl ⟨hnone', hnone⟩
    · exact Or.inr ⟨b', b, hb', hb, hsame⟩

/-- A class whose bases come to an end corresponds to such classes only. -/
theorem rooted (h : Corresponding same g g') (i j : Nat) (hij : same i j) (hr : g.Rooted i) :
    g'.Rooted j := by
  induction hr generalizing j with
  | root i _ hnone =>
      rcases h.bases i j hij with ⟨_, hnone'⟩ | ⟨b, _, hb, _⟩
      · rcases h.classes i j hij with ⟨_, c', _, hc', _⟩
        exact Rooted.root j (g'.lt_size_of_get? j c' hc') hnone'
      · rw [hnone] at hb
        contradiction
  | derived i b hbase _ ih =>
      rcases h.bases i j hij with ⟨hnone, _⟩ | ⟨a, b', ha, hb', hsame⟩
      · rw [hnone] at hbase
        contradiction
      · rw [hbase, Option.some_inj] at ha
        subst ha
        exact Rooted.derived j b' hb' (ih b' hsame)

/-- Corresponding classes come out alike, with resolvers that give every token
    the same text. -/
theorem finished (h : Corresponding same g g') {r r' : Resolver} (hr : r.resolve = r'.resolve)
    (i j : Nat) (hij : same i j) (f : ClassModel) (hf : g.Finished r i f) :
    ∃ f', g'.Finished r' j f' ∧ f.unplaced = f'.unplaced := by
  -- From the roots down: the two classes are finished from bases that came out
  -- alike, and neither carrying nor finishing looks at places.
  induction hf generalizing j with
  | root i c hget hnone =>
      rcases h.classes i j hij with ⟨d, c', hd, hc', heq⟩
      rw [hget, Option.some_inj] at hd
      subst hd
      have hroot : g.baseId? i = none := by
        rw [baseId?, hget]
        exact hnone
      rcases h.bases i j hij with ⟨_, hnone'⟩ | ⟨b, _, hb, _⟩
      · rw [baseId?, hc'] at hnone'
        exact ⟨c', Finished.root j c' hc' hnone', heq⟩
      · rw [hroot] at hb
        contradiction
  | derived i b c base hget hbase _ ih =>
      rcases h.classes i j hij with ⟨d, c', hd, hc', heq⟩
      rw [hget, Option.some_inj] at hd
      subst hd
      have hlink : g.baseId? i = some b := (g.baseId?_eq_some_iff i b).mpr ⟨c, hget, hbase⟩
      rcases h.bases i j hij with ⟨hnone, _⟩ | ⟨a, b', ha, hb', hsame⟩
      · rw [hnone] at hlink
        contradiction
      · rw [hlink, Option.some_inj] at ha
        subst ha
        rcases ih b' hsame with ⟨base', hbase', hbaseEq⟩
        rcases (g'.baseId?_eq_some_iff j b').mp hb' with ⟨d', hd', hlink'⟩
        rw [hc', Option.some_inj] at hd'
        subst hd'
        refine ⟨_, Finished.derived j b' c' base' hc' hlink' hbase', ?_⟩
        rw [ClassModel.finish_unplaced, ClassModel.finish_unplaced,
          ← ClassModel.carryFrom_unplaced r base c b,
          ← ClassModel.carryFrom_unplaced r' base' c' b', heq, hbaseEq,
          ClassModel.carryFrom_of_resolve hr]

/-- Finished hierarchies correspond as they did before. -/
theorem propagate (h : Corresponding same g g') {r r' : Resolver} (hr : r.resolve = r'.resolve)
    (hc : g.Consistent) (hc' : g'.Consistent) (hrooted : ∀ i < g.size, g.Rooted i) :
    Corresponding same (g.propagate r).1 (g'.propagate r').1 := by
  refine ⟨fun i j hij => ?_, fun i j hij => ?_⟩
  · rcases h.classes i j hij with ⟨c, _, hget, _, _⟩
    have hi := hrooted i (g.lt_size_of_get? i c hget)
    rcases get?_propagate_of_rooted r g hc i hi with ⟨f, hf, hfinal⟩
    rcases h.finished hr i j hij f hf with ⟨f', hf', heq⟩
    have hfinal' := get?_propagate_of_finished r' g' hc' j (h.rooted i j hij hi) f' hf'
    exact ⟨f, f', hfinal, hfinal', heq⟩
  · rw [baseId?_of_skeleton _ g (sameSkeleton_propagate r g),
      baseId?_of_skeleton _ g' (sameSkeleton_propagate r' g')]
    exact h.bases i j hij

theorem baseOf (h : Corresponding same g g') (i j : Nat) (hij : same i j) :
    (g.baseOf i).map ClassModel.unplaced = (g'.baseOf j).map ClassModel.unplaced := by
  rw [Hierarchy.baseOf, Hierarchy.baseOf]
  rcases h.bases i j hij with ⟨hnone, hnone'⟩ | ⟨b, b', hb, hb', hsame⟩
  · rw [hnone, hnone']
    rfl
  · rcases h.classes b b' hsame with ⟨c, c', hc, hc', heq⟩
    rw [hb, hb', Option.bind_some, Option.bind_some, hc, hc', Option.map_some, Option.map_some, heq]

/-- Corresponding classes are declared alike. -/
theorem declarations (h : Corresponding same g g') (hc : g.Consistent) (hc' : g'.Consistent)
    (i j : Nat) (hij : same i j) : g.declarations[i]? = g'.declarations[j]? := by
  have hget : ∀ (k : Hierarchy) (n : Nat), k.declarations[n]? =
      (k.get? n).map fun c => c.declaration (k.baseOf c.id) := by
    intro k n
    rw [Hierarchy.declarations, List.getElem?_map, Array.getElem?_toList]
    rfl
  rcases h.classes i j hij with ⟨c, c', hclass, hclass', heq⟩
  rw [hget, hget, hclass, hclass', Option.map_some, Option.map_some, hc.id_eq i c hclass,
    hc'.id_eq j c' hclass', ← ClassModel.declaration_unplaced c, h.baseOf i j hij, heq,
    ClassModel.declaration_unplaced c']

end Corresponding

end Hierarchy

end Typings
