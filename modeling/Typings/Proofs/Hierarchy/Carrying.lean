import Typings.Proofs.Method.Meeting
import Typings.Proofs.Text.Order

/-!
# What Is Carried

Carrying base methods into a class, seen from the class's own methods. They
do not influence each other: each of them meets the base methods in order, as
if it were alone. A base method is carried exactly if, when its turn comes,
some own method does not cover it in the form that own method has by then.

Needs are taken in as they arise and never given back, so what is not missing
at one turn is not missing in the end.

## Main definitions

* `numbered`: Base methods with their places.
* `Method.before`: An own method when the turn of a base method comes.
* `Method.finished`: An own method in the end.
* `IsFlagged`, `IsCarried`: Whether a base method is not covered when its turn
  comes, by one own method and by any.

## Theorems

* `Method.finished_eq`: What is left of the way once a turn is over.
* `Method.before_succ`, `Method.before_add`, `Method.before_length`: One turn, some
  turns and all turns.
* `ClassModel.own_carryFrom`: Own methods meet base methods independently.
* `ClassModel.carried_carryFrom`: The methods carried, in order.
* `ClassModel.mem_carried_carryFrom`: Which methods are carried.
* `Carrying.dependencies_foldl_meet_induction`: What taking in needs keeps,
  carrying keeps.
* `Carrying.covers_foldl_meet`: Nothing comes to be missing.
* `Carrying.covers_of_needs`, `Carrying.covers_of_flagged`: What a turn needs
  is taken in.
-/

namespace Typings

/-- Base methods with their places. -/
def numbered (base : List Method) : List (Nat × Method) :=
  (List.range base.length).zip base

theorem length_numbered (base : List Method) : (numbered base).length = base.length := by
  rw [numbered, List.length_zip, List.length_range, Nat.min_self]

theorem getElem?_numbered_eq_some (base : List Method) (k : Nat) (b : Nat × Method) :
    (numbered base)[k]? = some b ↔ b.1 = k ∧ base[k]? = some b.2 := by
  rw [numbered, List.getElem?_zip_eq_some, List.getElem?_eq_some_iff]
  constructor
  · rintro ⟨⟨hk, hrange⟩, hbase⟩
    rw [List.getElem_range] at hrange
    exact ⟨hrange.symm, hbase⟩
  · rintro ⟨hk, hbase⟩
    have hlt : k < base.length := (List.getElem?_eq_some_iff.mp hbase).1
    exact ⟨⟨by rwa [List.length_range], by rw [List.getElem_range, hk]⟩, hbase⟩

theorem map_snd_numbered (base : List Method) : (numbered base).map Prod.snd = base :=
  List.map_snd_zip (by rw [List.length_range])

theorem forall_mem_numbered (base : List Method) (p : Method → Prop) :
    (∀ b ∈ numbered base, p b.2) ↔ ∀ b ∈ base, p b := by
  constructor
  · intro h b hb
    rcases List.mem_iff_getElem?.mp hb with ⟨k, hk⟩
    have hget := (getElem?_numbered_eq_some base k (k, b)).mpr ⟨rfl, hk⟩
    exact h (k, b) (List.mem_iff_getElem?.mpr ⟨k, hget⟩)
  · intro h b hb
    rcases List.mem_iff_getElem?.mp hb with ⟨k, hk⟩
    exact h b.2 (List.mem_of_getElem? ((getElem?_numbered_eq_some base k b).mp hk).2)

/-- A base method stands behind as many others as its number says. -/
theorem numbered_split (base : List Method) (k : Nat) (b : Method) (hb : base[k]? = some b) :
    numbered base = (numbered base).take k ++ (k, b) :: (numbered base).drop (k + 1) := by
  have hget : (numbered base)[k]? = some (k, b) :=
    (getElem?_numbered_eq_some base k (k, b)).mpr ⟨rfl, hb⟩
  rcases List.getElem?_eq_some_iff.mp hget with ⟨hk, heq⟩
  rw [← heq, List.getElem_cons_drop, List.take_append_drop]

namespace Method

variable (r : Resolver) (baseId : Nat) (base : List Method)

/-- An own method when the turn of the base method at a place comes. -/
def before (k : Nat) (own : Method) : Method :=
  own.after r baseId ((numbered base).take k)

/-- An own method when all base methods have had their turn. -/
def finished (own : Method) : Method :=
  own.after r baseId (numbered base)

theorem name_before (k : Nat) (own : Method) : (own.before r baseId base k).name = own.name :=
  name_after r baseId own _

theorem name_finished (own : Method) : (own.finished r baseId base).name = own.name :=
  name_after r baseId own _

/-- The turn of a base method, and then the turns of those behind it. -/
theorem finished_eq (k : Nat) (b own : Method) (hb : base[k]? = some b) :
    own.finished r baseId base =
      (meet r b ⟨baseId, k⟩ (own.before r baseId base k)).1.after r baseId
        ((numbered base).drop (k + 1)) := by
  rw [finished, numbered_split base k b hb, after_append, after_cons, ← numbered_split base k b hb]
  rfl

theorem before_succ (k : Nat) (b own : Method) (hb : base[k]? = some b) :
    own.before r baseId base (k + 1) =
      (meet r b ⟨baseId, k⟩ (own.before r baseId base k)).1 := by
  have hget : (numbered base)[k]? = some (k, b) :=
    (getElem?_numbered_eq_some base k (k, b)).mpr ⟨rfl, hb⟩
  rw [before, List.take_add_one, hget, Option.toList_some, after_append, after_cons, after_nil]
  rfl

theorem before_length (own : Method) :
    own.before r baseId base base.length = own.finished r baseId base := by
  rw [before, finished, ← length_numbered base, List.take_length]

/-- Between two turns a method is held against the base methods between them. -/
theorem before_add (own : Method) (k l : Nat) :
    own.before r baseId base (k + l) =
      (own.before r baseId base k).after r baseId (((numbered base).drop k).take l) := by
  rw [before, List.take_add, after_append]
  rfl

end Method

section Flags

variable (r : Resolver) (baseId : Nat) (base : List Method)

/-- Whether an own method does not cover a base method when its turn comes. -/
def IsFlagged (k : Nat) (b own : Method) : Prop :=
  (own.before r baseId base k).overloadDecision b = .overload

instance (k : Nat) (b own : Method) : Decidable (IsFlagged r baseId base k b own) :=
  inferInstanceAs (Decidable (_ = _))

/-- Whether some own method does not cover the base method at a place when its
    turn comes. -/
def IsCarried (own : List Method) (k : Nat) (b : Method) : Prop :=
  base[k]? = some b ∧ ∃ o ∈ own, IsFlagged r baseId base k b o

end Flags

namespace Carrying

variable (r : Resolver) (baseId : Nat)

theorem own_meet (c : Carrying) (b : Nat × Method) :
    (meet r baseId c b).own = c.own.map fun o => (Method.meet r b.2 ⟨baseId, b.1⟩ o).1 := by
  simp only [meet, List.map_map]
  -- Whether anything is needed makes no difference to the own methods.
  by_cases hneeds : ((c.own.map (Method.meet r b.2 ⟨baseId, b.1⟩)).filterMap Prod.snd).isEmpty = true
  · rw [if_pos hneeds]
    rfl
  · rw [if_neg hneeds]
    rfl

/-- Nothing is needed at a turn exactly if every own method covers the base
    method. -/
theorem isEmpty_needs_iff (own : List Method) (b : Nat × Method) :
    ((own.map (Method.meet r b.2 ⟨baseId, b.1⟩)).filterMap Prod.snd).isEmpty = true ↔
      (own.any fun o => decide (o.overloadDecision b.2 = .overload)) = false := by
  rw [List.isEmpty_iff, List.filterMap_map, List.filterMap_eq_nil_iff, List.any_eq_false]
  refine forall₂_congr fun o _ => ?_
  rw [decide_eq_true_eq, ← Method.isSome_meet_iff r b.2 ⟨baseId, b.1⟩ o, Bool.not_eq_true,
    Option.isSome_eq_false_iff, Option.isNone_iff_eq_none]
  rfl

theorem carried_meet (c : Carrying) (b : Nat × Method) :
    (meet r baseId c b).carried =
      c.carried ++
        if (c.own.any fun o => decide (o.overloadDecision b.2 = .overload)) = true then [b.2]
        else [] := by
  simp only [meet]
  by_cases hneeds : ((c.own.map (Method.meet r b.2 ⟨baseId, b.1⟩)).filterMap Prod.snd).isEmpty = true
  · rw [if_pos hneeds, (isEmpty_needs_iff r baseId c.own b).mp hneeds]
    simp only [Bool.false_eq_true, if_false, List.append_nil]
  · have hany := fun h => hneeds ((isEmpty_needs_iff r baseId c.own b).mpr h)
    rw [if_neg hneeds, if_pos (by rwa [← Bool.not_eq_false])]

theorem dependencies_meet (c : Carrying) (b : Nat × Method) :
    (meet r baseId c b).dependencies =
      c.dependencies.absorbAll
        (let needs := (c.own.map (Method.meet r b.2 ⟨baseId, b.1⟩)).filterMap Prod.snd
         if needs.isEmpty then [] else needs ++ [b.2.requirements]) := by
  simp only [meet]
  by_cases hneeds : ((c.own.map (Method.meet r b.2 ⟨baseId, b.1⟩)).filterMap Prod.snd).isEmpty = true
  · rw [if_pos hneeds, if_pos hneeds]
    rfl
  · rw [if_neg hneeds, if_neg hneeds]

theorem own_foldl_meet (met : List (Nat × Method)) (c : Carrying) :
    (met.foldl (meet r baseId) c).own = c.own.map fun o => o.after r baseId met := by
  induction met generalizing c with
  | nil => simp only [List.foldl_nil, Method.after_nil, List.map_id']
  | cons b rest ih =>
      rw [List.foldl_cons, ih, own_meet, List.map_map]
      rfl

/-- The methods carried at the turns from one on. Each turn looks at the own
    methods as the turns before it left them. -/
theorem carried_foldl_meet (base own : List Method) (done rest : List (Nat × Method))
    (hsplit : numbered base = done ++ rest) (c : Carrying)
    (hown : c.own = own.map fun o => o.after r baseId done) :
    (rest.foldl (meet r baseId) c).carried =
      c.carried ++ (rest.filter fun b =>
        own.any fun o => decide (IsFlagged r baseId base b.1 b.2 o)).map Prod.snd := by
  induction rest generalizing done c with
  | nil => simp only [List.foldl_nil, List.filter_nil, List.map_nil, List.append_nil]
  | cons b rest ih =>
      -- The number of a base method says how many turns came before its own.
      have hget : (numbered base)[done.length]? = some b := by
        rw [hsplit, List.getElem?_append_right (Nat.le_refl _), Nat.sub_self]
        rfl
      have hplace : b.1 = done.length := ((getElem?_numbered_eq_some base _ b).mp hget).1
      have hdone : (numbered base).take b.1 = done := by
        rw [hplace, hsplit, List.take_left']
        rfl
      -- So what the own methods are now is what its flags are about.
      have hturn : (c.own.any fun o => decide (o.overloadDecision b.2 = .overload)) =
          own.any fun o => decide (IsFlagged r baseId base b.1 b.2 o) := by
        rw [hown, List.any_map]
        simp only [IsFlagged, Method.before, hdone]
        rfl
      have hnext : (meet r baseId c b).own = own.map fun o => o.after r baseId (done ++ [b]) := by
        rw [own_meet, hown, List.map_map]
        exact List.map_congr_left fun o _ => (Method.after_append r baseId o done [b]).symm
      rw [List.foldl_cons, ih (done ++ [b]) (by rw [hsplit, List.append_assoc]; rfl) _ hnext,
        carried_meet, hturn, List.filter_cons, List.append_assoc]
      by_cases hflag : (own.any fun o => decide (IsFlagged r baseId base b.1 b.2 o)) = true
      · rw [if_pos hflag, if_pos hflag]
        rfl
      · rw [if_neg hflag, if_neg hflag]
        rfl

theorem dependencies_meet_induction {motive : Dependencies → Prop}
    (habsorb : ∀ d q, motive d → motive (d.absorb q)) (c : Carrying) (b : Nat × Method)
    (h : motive c.dependencies) : motive (meet r baseId c b).dependencies := by
  rw [dependencies_meet]
  exact Dependencies.absorbAll_induction habsorb _ _ h

/-- Carrying changes what a class depends on by taking in needs, and in no other
    way. -/
theorem dependencies_foldl_meet_induction {motive : Dependencies → Prop}
    (habsorb : ∀ d q, motive d → motive (d.absorb q)) (met : List (Nat × Method)) (c : Carrying)
    (h : motive c.dependencies) : motive (met.foldl (meet r baseId) c).dependencies := by
  induction met generalizing c with
  | nil => exact h
  | cons b rest ih => exact ih _ (dependencies_meet_induction r baseId habsorb c b h)

theorem covers_meet (c : Carrying) (b : Nat × Method) (i : TypeImport)
    (h : c.dependencies.imports.Covers i) : (meet r baseId c b).dependencies.imports.Covers i :=
  dependencies_meet_induction r baseId (motive := fun d => d.imports.Covers i)
    (fun d q => d.imports.covers_addAll q.imports i) c b h

/-- Nothing comes to be missing by carrying. -/
theorem covers_foldl_meet (met : List (Nat × Method)) (c : Carrying) (i : TypeImport)
    (h : c.dependencies.imports.Covers i) :
    (met.foldl (meet r baseId) c).dependencies.imports.Covers i :=
  dependencies_foldl_meet_induction r baseId (motive := fun d => d.imports.Covers i)
    (fun d q => d.imports.covers_addAll q.imports i) met c h

/-- What a grown return type needs is taken in at the turn at which it grows. -/
theorem covers_of_needs (c : Carrying) (b : Nat × Method) (o : Method) (ho : o ∈ c.own)
    (needs : Requirements) (hneeds : (Method.meet r b.2 ⟨baseId, b.1⟩ o).2 = some needs)
    (i : TypeImport) (hi : i ∈ needs.imports) :
    (meet r baseId c b).dependencies.imports.Covers i := by
  -- Something is needed, so all that is needed is taken in.
  have hmem : needs ∈ (c.own.map (Method.meet r b.2 ⟨baseId, b.1⟩)).filterMap Prod.snd := by
    rw [List.filterMap_map, List.mem_filterMap]
    exact ⟨o, ho, hneeds⟩
  have hne : ¬ ((c.own.map (Method.meet r b.2 ⟨baseId, b.1⟩)).filterMap Prod.snd).isEmpty = true := by
    rw [List.isEmpty_iff]
    exact List.ne_nil_of_mem hmem
  rw [dependencies_meet]
  simp only [if_neg hne]
  exact Dependencies.covers_of_mem_absorbAll _ _ needs (List.mem_append_left _ hmem) i hi

/-- What a carried method needs by itself is taken in with it. -/
theorem covers_of_flagged (c : Carrying) (b : Nat × Method) (o : Method) (ho : o ∈ c.own)
    (hflag : o.overloadDecision b.2 = .overload) (i : TypeImport)
    (hi : i ∈ b.2.requirements.imports) :
    (meet r baseId c b).dependencies.imports.Covers i := by
  have hne : ¬ ((c.own.map (Method.meet r b.2 ⟨baseId, b.1⟩)).filterMap Prod.snd).isEmpty = true := by
    rw [isEmpty_needs_iff, Bool.not_eq_false]
    exact List.any_eq_true.mpr ⟨o, ho, decide_eq_true hflag⟩
  rw [dependencies_meet]
  simp only [if_neg hne]
  exact Dependencies.covers_of_mem_absorbAll _ _ b.2.requirements
    (List.mem_append_right _ (List.mem_singleton_self _)) i hi

end Carrying

namespace ClassModel

variable (r : Resolver) (base c : ClassModel) (baseId : Nat)

/-- Own methods meet base methods independently of each other. -/
theorem own_carryFrom :
    (carryFrom r base c baseId).own = c.methods.map fun o => o.finished r baseId base.methods :=
  Carrying.own_foldl_meet r baseId (numbered base.methods) _

/-- The methods carried are the base methods that some own method does not
    cover when their turn comes, in order. -/
theorem carried_carryFrom :
    (carryFrom r base c baseId).carried =
      ((numbered base.methods).filter fun b =>
        c.methods.any fun o => decide (IsFlagged r baseId base.methods b.1 b.2 o)).map Prod.snd :=
  Carrying.carried_foldl_meet r baseId base.methods c.methods [] (numbered base.methods) rfl
    { own := c.methods, dependencies := c.dependencies } (List.map_id' c.methods).symm

theorem mem_carried_carryFrom (m : Method) :
    m ∈ (carryFrom r base c baseId).carried ↔ ∃ k, IsCarried r baseId base.methods c.methods k m := by
  -- A number and a place are the same here, since methods are numbered by their places.
  simp only [carried_carryFrom, List.mem_map, List.mem_filter, List.any_eq_true, decide_eq_true_eq,
    IsCarried]
  constructor
  · rintro ⟨b, ⟨hmem, hflag⟩, rfl⟩
    rcases List.mem_iff_getElem?.mp hmem with ⟨k, hk⟩
    rcases (getElem?_numbered_eq_some _ k b).mp hk with ⟨hplace, hb⟩
    exact ⟨b.1, by rwa [hplace], hflag⟩
  · rintro ⟨k, hb, hflag⟩
    have hget := (getElem?_numbered_eq_some base.methods k (k, m)).mpr ⟨rfl, hb⟩
    exact ⟨(k, m), ⟨List.mem_iff_getElem?.mpr ⟨k, hget⟩, hflag⟩, rfl⟩

theorem mem_finish_methods (carrying : Carrying) (m : Method) :
    m ∈ (c.finish carrying).methods ↔ m ∈ carrying.own ∨ m ∈ carrying.carried := by
  show m ∈ Text.sortBy (·.name) (carrying.own ++ carrying.carried) ↔ _
  rw [Text.mem_sortBy, List.mem_append]

/-- A class gains the methods that are carried into it. -/
theorem length_methods_finish :
    (c.finish (carryFrom r base c baseId)).methods.length =
      c.methods.length + (carryFrom r base c baseId).carried.length := by
  rw [finish]
  simp only []
  rw [Text.length_sortBy, List.length_append, own_carryFrom, List.length_map]

/-- Own methods keep their names, so they are sorted as they were built. -/
theorem sortBy_map_finished :
    Text.sortBy (·.name) (c.methods.map fun o => o.finished r baseId base.methods) =
      (Text.sortBy (fun m : Method => m.name) c.methods).map fun o =>
        o.finished r baseId base.methods :=
  Text.sortBy_map _ _ _ (fun o => Method.name_finished r baseId base.methods o) c.methods

/-- A class into which nothing is carried has its own methods alone. -/
theorem methods_finish_of_carried_nil (hnone : (carryFrom r base c baseId).carried = []) :
    (c.finish (carryFrom r base c baseId)).methods =
      (Text.sortBy (·.name) c.methods).map fun o => o.finished r baseId base.methods := by
  rw [finish, hnone, List.append_nil, own_carryFrom]
  exact sortBy_map_finished r base c baseId

end ClassModel

end Typings
