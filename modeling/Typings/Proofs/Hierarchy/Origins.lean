import Typings.Proofs.Hierarchy.ClosedChains
import Typings.Proofs.Hierarchy.Finishing

/-!
# Where Methods Come From

A finished class has two kinds of methods. Its own ones have been held against those of
the base, which may have changed what they return. The others were carried, and are
methods of the finished base, where they in turn are of one kind or the other. Followed
far enough, every method of a finished class stems from one that some class had before
anything was carried: the class itself, or one above it.

On the whole way nothing changes but what a method returns. Its name, its parameters
and its type parameters are those it was built with, by a class that may have events
which the finished class does not have.

## Main definitions

* `Hierarchy.StemsFrom`: A method of a finished class stems from a method of a class.

## Theorems

* `Hierarchy.mem_methods_iff_stemsFrom`: The methods of a finished class are those that
  stem from somewhere.
* `Hierarchy.StemsFrom.call_eq`: What a method has of the one it stems from.
* `Hierarchy.StemsFrom.above`: Methods stem from the class itself or one above it.
-/

namespace Typings

namespace Hierarchy

variable (r : Resolver) (h : Hierarchy)

/-- A method of a finished class stems from a method that a class had before: it is that
    method, or what holding base methods against it made of that method, or it was
    carried from the finished base and stems from there. -/
inductive StemsFrom : Nat → Method → Nat → Method → Prop where
  | root (i : Nat) (c : ClassModel) (o : Method) (hget : h.get? i = some c)
      (hbase : c.baseId = none) (ho : o ∈ c.methods) : StemsFrom i o i o
  | own (i b : Nat) (c base : ClassModel) (o : Method) (hget : h.get? i = some c)
      (hbase : c.baseId = some b) (hfinished : h.Finished r b base) (ho : o ∈ c.methods) :
      StemsFrom i (o.finished r b base.methods) i o
  | carried (i b : Nat) (c base : ClassModel) (k : Nat) (m : Method) (a : Nat) (o : Method)
      (hget : h.get? i = some c) (hbase : c.baseId = some b) (hfinished : h.Finished r b base)
      (hcarried : IsCarried r b base.methods c.methods k m) (hstem : StemsFrom b m a o) :
      StemsFrom i m a o

variable {r h}

/-- The methods of a finished class are those that stem from somewhere. -/
theorem mem_methods_iff_stemsFrom {i : Nat} {f : ClassModel} (hf : h.Finished r i f)
    (m : Method) : m ∈ f.methods ↔ ∃ a o, StemsFrom r h i m a o := by
  constructor
  · intro hm
    induction hf generalizing m with
    | root i c hget hbase => exact ⟨i, m, StemsFrom.root i c m hget hbase hm⟩
    | derived i b c base hget hbase hb ih =>
        rw [ClassModel.mem_finish_methods, ClassModel.own_carryFrom, List.mem_map,
          ClassModel.mem_carried_carryFrom] at hm
        rcases hm with ⟨o, ho, rfl⟩ | ⟨k, hcarried⟩
        · exact ⟨i, o, StemsFrom.own i b c base o hget hbase hb ho⟩
        · rcases ih m (List.mem_of_getElem? hcarried.1) with ⟨a, o, hstem⟩
          exact ⟨a, o, StemsFrom.carried i b c base k m a o hget hbase hb hcarried hstem⟩
  · rintro ⟨a, o, hstem⟩
    cases hstem with
    | root _ c _ hget hbase ho =>
        rwa [hf.unique r (Finished.root i c hget hbase)]
    | own _ b c base _ hget hbase hb ho =>
        rw [hf.unique r (Finished.derived i b c base hget hbase hb),
          ClassModel.mem_finish_methods, ClassModel.own_carryFrom]
        exact Or.inl (List.mem_map.mpr ⟨o, ho, rfl⟩)
    | carried _ b c base k _ _ _ hget hbase hb hcarried _ =>
        rw [hf.unique r (Finished.derived i b c base hget hbase hb),
          ClassModel.mem_finish_methods, ClassModel.mem_carried_carryFrom]
        exact Or.inr ⟨k, hcarried⟩

/-- A method has the name and all parameters of the method it stems from. -/
theorem StemsFrom.call_eq {i a : Nat} {m o : Method} (hstem : StemsFrom r h i m a o) :
    m.name = o.name ∧ m.parameters = o.parameters ∧ m.generics = o.generics := by
  induction hstem with
  | root => exact ⟨rfl, rfl, rfl⟩
  | own i b c base o _ _ _ _ =>
      rcases Method.after_frame r b o (numbered base.methods) with ⟨t, overloaded, hframe⟩
      rw [Method.finished, hframe]
      exact ⟨rfl, rfl, rfl⟩
  | carried _ _ _ _ _ _ _ _ _ _ _ _ _ ih => exact ih

/-- What a method stems from is a method that a class had. -/
theorem StemsFrom.exists_class {i a : Nat} {m o : Method} (hstem : StemsFrom r h i m a o) :
    ∃ c, h.get? a = some c ∧ o ∈ c.methods := by
  induction hstem with
  | root _ c _ hget _ ho => exact ⟨c, hget, ho⟩
  | own _ _ c _ _ hget _ _ ho => exact ⟨c, hget, ho⟩
  | carried _ _ _ _ _ _ _ _ _ _ _ _ _ ih => exact ih

/-- Methods stem from the class itself, or they were carried from above. -/
theorem StemsFrom.above {i a : Nat} {m o : Method} (hstem : StemsFrom r h i m a o) :
    a = i ∨ Relation.TransGen h.Extends i a := by
  induction hstem with
  | root => exact Or.inl rfl
  | own => exact Or.inl rfl
  | carried i b c _ _ _ a _ hget hbase _ _ _ ih =>
      have hextends : h.Extends i b := (h.baseId?_eq_some_iff i b).mpr ⟨c, hget, hbase⟩
      rcases ih with rfl | habove
      · exact Or.inr (Relation.TransGen.single hextends)
      · exact Or.inr (Relation.TransGen.head hextends habove)

end Hierarchy

end Typings
