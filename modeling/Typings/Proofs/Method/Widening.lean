import Typings.Proofs.Hierarchy.Carrying

/-!
# What Return Types Come To

Base methods are held against a method one after the other, and each of them sees
the return type that the ones before it have left. The text is cut into its
alternatives anew every time, merged, and put together again. Seen from the end,
none of these steps matters. What counts is which base methods asked for something
when their turn came: if none did, the text is the one the method was built with,
and otherwise it is all alternatives that took part, once each and in the order in
which they came. One of them overrides all others, the receiver type.

A base method that makes a method return its receiver has no alternative but the
receiver type. So it can be counted with those that are merged, and one equation
(`Method.returnText_before_eq`) tells every case.

The equation needs return types to be there. A base method without one asks to stand
beside a method and leaves the text as it is; constructors are like that, but they
are never held against anything.

## Main definitions

* `Method.Asks`: A base method asks something of a method.
* `Method.asking`: The base methods that asked something in the turns so far.
* `collapse`: Alternatives as one type, which is the receiver type if that is among
  them.
* `Method.Widened`: The three ways a return type can go.

## Theorems

* `Method.returnText_meet_eq`: What one turn does to a return type.
* `collapse_append`: Collapsing some alternatives first makes no difference.
* `Method.returnText_before_eq`: What any number of turns do.
* `Method.widened_finished`: What becomes of a return type in the end.
-/

namespace Typings

/-- Alternatives as one type, each of them once, which is the receiver type if that is
    among them. -/
def collapse (members : List String) : String :=
  if thisType ∈ members then thisType else union (addAllNew [] members)

/-- What has been collapsed can go on to be collapsed with more, as if nothing had
    happened. -/
theorem collapse_append (first second : List String) (hfirst : ∀ a ∈ first, IsAlternative a)
    (hne : first ≠ []) :
    collapse (alternatives (collapse first) ++ second) = collapse (first ++ second) := by
  by_cases hthis : thisType ∈ first
  · have hleft : thisType ∈ alternatives (collapse first) ++ second := by
      unfold collapse
      rw [if_pos hthis, alternatives_thisType]
      exact List.mem_cons_self
    have hright : thisType ∈ first ++ second := List.mem_append_left second hthis
    rw [collapse, if_pos hleft, collapse, if_pos hright]
  · -- Without the receiver type the collapsed text has the gathered alternatives.
    have hmembers : alternatives (collapse first) = addAllNew [] first := by
      unfold collapse
      rw [if_neg hthis]
      refine alternatives_union _ ?_ ?_
      · intro a ha
        rw [mem_addAllNew] at ha
        exact hfirst a (ha.resolve_left List.not_mem_nil)
      · rcases List.exists_mem_of_ne_nil first hne with ⟨a, ha⟩
        exact List.ne_nil_of_mem ((mem_addAllNew [] first a).mpr (Or.inr ha))
    have hsame : thisType ∈ addAllNew [] first ++ second ↔ thisType ∈ first ++ second := by
      rw [List.mem_append, List.mem_append, mem_addAllNew]
      simp only [List.not_mem_nil, false_or]
    have hgathered : addAllNew [] (addAllNew [] first ++ second) =
        addAllNew [] (first ++ second) := by
      have hnodup := nodup_addAllNew [] first List.nodup_nil
      rw [addAllNew_append, addAllNew_append, addAllNew_of_nodup [] (addAllNew [] first) hnodup,
        List.nil_append]
    rw [hmembers]
    unfold collapse
    rw [hgathered]
    by_cases hmem : thisType ∈ first ++ second
    · rw [if_pos (hsame.mpr hmem), if_pos hmem]
    · rw [if_neg (fun h => hmem (hsame.mp h)), if_neg hmem]

namespace Method

/-- A base method asks something of a method: to be declared beside it, or to return
    its receiver. -/
def Asks (own base : Method) : Prop :=
  own.overloadDecision base = .overload ∨ own.overloadDecision base = .adoptThis

instance (own base : Method) : Decidable (own.Asks base) :=
  inferInstanceAs (Decidable (_ ∨ _))

theorem name_of_asks {own base : Method} (hasks : own.Asks base) : own.name = base.name := by
  rcases hasks with hoverload | hadopt
  · exact ((overloadDecision_eq_overload_iff own base).mp hoverload).1
  · exact ((overloadDecision_eq_adoptThis_iff own base).mp hadopt).1

section Turn

variable (r : Resolver) (base : Method) (origin : MethodRef) (own : Method)

/-- A method keeps having a return type. -/
theorem returnType_meet_ne_none (hown : own.returnType ≠ none) :
    (meet r base origin own).1.returnType ≠ none := by
  have hmet := met_meet r base origin own
  generalize meet r base origin own = result at hmet ⊢
  cases hmet with
  | noted _ _ => exact hown
  | fluent _ _ => exact Option.some_ne_none _
  | grown _ _ _ _ => exact Option.some_ne_none _
  | adopted _ => exact Option.some_ne_none _
  | settled _ _ => exact hown

/-- What one turn does to a return type: if the base method asks for nothing, then
    nothing, and otherwise the alternatives of both are collapsed. -/
theorem returnText_meet_eq (hbase : base.returnType ≠ none) :
    (meet r base origin own).1.returnText =
      if own.Asks base then collapse (alternatives own.returnText ++ alternatives base.returnText)
      else own.returnText := by
  have hmet := met_meet r base origin own
  generalize meet r base origin own = result at hmet ⊢
  have hmerged : thisType ∈ mergedAlternatives own.returnText base.returnText ↔
      thisType ∈ alternatives own.returnText ++ alternatives base.returnText := by
    rw [mem_mergedAlternatives, List.mem_append]
  cases hmet with
  | noted _ hnone => exact absurd hnone hbase
  | fluent hoverload hthis =>
      have hasks : own.Asks base := Or.inl hoverload
      rw [if_pos hasks, collapse, if_pos (hmerged.mp hthis)]
      rfl
  | grown _ hoverload _ hthis =>
      have hasks : own.Asks base := Or.inl hoverload
      rw [if_pos hasks, collapse, if_neg fun h => hthis (hmerged.mpr h)]
      rfl
  | adopted hadopt =>
      -- The base method returns its receiver, or it would not ask for it.
      have hasks : own.Asks base := Or.inr hadopt
      have hthis := ((overloadDecision_eq_adoptThis_iff own base).mp hadopt).2.2
      have hmem : thisType ∈ alternatives own.returnText ++ alternatives base.returnText := by
        rw [hthis, alternatives_thisType]
        exact List.mem_append_right _ (List.mem_singleton_self _)
      rw [if_pos hasks, collapse, if_pos hmem]
      rfl
  | settled hoverload hadopt =>
      rw [if_neg fun hasks => hasks.elim hoverload hadopt]

end Turn

section Turns

variable (r : Resolver) (baseId : Nat) (base : List Method)

/-- The base methods that asked something of a method in the turns before that of the
    base method at a place. -/
def asking (k : Nat) (own : Method) : List Method :=
  (((numbered base).take k).filter fun b =>
    decide ((own.before r baseId base b.1).Asks b.2)).map Prod.snd

theorem mem_asking_iff (k : Nat) (own b : Method) :
    b ∈ own.asking r baseId base k ↔
      ∃ j, j < k ∧ base[j]? = some b ∧ (own.before r baseId base j).Asks b := by
  simp only [asking, List.mem_map, List.mem_filter, decide_eq_true_eq]
  constructor
  · rintro ⟨b, ⟨hmem, hasks⟩, rfl⟩
    rcases List.mem_iff_getElem?.mp hmem with ⟨j, hj⟩
    rw [List.getElem?_take] at hj
    by_cases hlt : j < k
    · rw [if_pos hlt] at hj
      rcases (getElem?_numbered_eq_some base j b).mp hj with ⟨hplace, hb⟩
      exact ⟨b.1, by omega, by rwa [hplace], hasks⟩
    · rw [if_neg hlt] at hj
      contradiction
  · rintro ⟨j, hlt, hb, hasks⟩
    refine ⟨(j, b), ⟨List.mem_iff_getElem?.mpr ⟨j, ?_⟩, hasks⟩, rfl⟩
    rw [List.getElem?_take, if_pos hlt]
    exact (getElem?_numbered_eq_some base j (j, b)).mpr ⟨rfl, hb⟩

/-- After one more turn one more base method may have asked for something. -/
theorem asking_succ (k : Nat) (own b : Method) (hb : base[k]? = some b) :
    own.asking r baseId base (k + 1) =
      own.asking r baseId base k ++ if (own.before r baseId base k).Asks b then [b] else [] := by
  have hget : (numbered base)[k]? = some (k, b) :=
    (getElem?_numbered_eq_some base k (k, b)).mpr ⟨rfl, hb⟩
  rw [asking, List.take_add_one, hget, Option.toList_some, List.filter_append, List.map_append]
  by_cases hasks : (own.before r baseId base k).Asks b
  · rw [if_pos hasks, List.filter_cons, if_pos (decide_eq_true hasks)]
    rfl
  · rw [if_neg hasks, List.filter_cons, if_neg (by rwa [decide_eq_true_eq])]
    rfl

/-- All alternatives that took part in the turns so far. -/
def taken (k : Nat) (own : Method) : List String :=
  alternatives own.returnText ++
    (own.asking r baseId base k).flatMap fun b => alternatives b.returnText

theorem isAlternative_of_mem_taken (k : Nat) (own : Method) (a : String)
    (ha : a ∈ own.taken r baseId base k) : IsAlternative a := by
  rw [taken, List.mem_append, List.mem_flatMap] at ha
  rcases ha with hown | ⟨b, _, hb⟩
  · exact isAlternative_of_mem _ a hown
  · exact isAlternative_of_mem _ a hb

/-- What any number of turns do to a return type. It stays as it was if nothing was
    asked, and otherwise all alternatives that took part are collapsed. -/
theorem returnText_before_eq (hreturns : ∀ b ∈ base, b.returnType ≠ none) (own : Method)
    (k : Nat) (hk : k ≤ base.length) :
    (own.before r baseId base k).returnText =
      if own.asking r baseId base k = [] then own.returnText
      else collapse (own.taken r baseId base k) := by
  induction k with
  | zero => rfl
  | succ k ih =>
      have hlt : k < base.length := hk
      have hb : base[k]? = some base[k] := List.getElem?_eq_getElem hlt
      generalize base[k] = b at hb
      have hturn := returnText_meet_eq r b ⟨baseId, k⟩ (own.before r baseId base k)
        (hreturns b (List.mem_of_getElem? hb))
      rw [before_succ r baseId base k b own hb, hturn, taken, asking_succ r baseId base k own b hb]
      specialize ih (by omega)
      by_cases hasks : (own.before r baseId base k).Asks b
      · have hne : own.asking r baseId base k ++ [b] ≠ [] := by
          simp only [ne_eq, List.append_eq_nil_iff, List.cons_ne_nil, and_false, not_false_eq_true]
        rw [if_pos hasks, if_pos hasks, if_neg hne, List.flatMap_append, List.flatMap_singleton,
          ← List.append_assoc, ih]
        by_cases hfirst : own.asking r baseId base k = []
        · -- The first to ask finds the text that the method was built with.
          rw [if_pos hfirst, hfirst, List.flatMap_nil, List.append_nil]
        · have hnonempty : own.taken r baseId base k ≠ [] := by
            unfold taken
            exact List.append_ne_nil_of_left_ne_nil (alternatives_ne_nil own.returnText) _
          rw [if_neg hfirst]
          exact collapse_append _ _ (isAlternative_of_mem_taken r baseId base k own) hnonempty
      · rw [if_neg hasks, if_neg hasks, List.append_nil, ih]
        rfl

/-- The three ways the return type of a method can go while base methods are held
    against it. -/
inductive Widened (own : Method) : String → Prop where
  /-- No base method asked for anything, and the text is what it was. -/
  | kept (hnone : ∀ k b, base[k]? = some b → ¬ (own.before r baseId base k).Asks b) :
      Widened own own.returnText
  /-- A base method asked for something, and the receiver type was an alternative of the
      method or of a base method of its name. -/
  | fluent (k : Nat) (b : Method) (hb : base[k]? = some b)
      (hasks : (own.before r baseId base k).Asks b)
      (hthis : thisType ∈ alternatives own.returnText ∨
        ∃ b' ∈ base, b'.name = own.name ∧ thisType ∈ alternatives b'.returnText) :
      Widened own thisType
  /-- A base method was not covered, and the text is the alternatives of the method,
      in their order, and behind them what the base methods that were not covered
      have besides, each once. -/
  | grown (k : Nat) (b : Method) (hb : base[k]? = some b) (hflag : IsFlagged r baseId base k b own)
      (members : List String) (hnodup : members.Nodup)
      (hmembers : ∀ a, a ∈ members ↔ a ∈ alternatives own.returnText ∨
        ∃ j b', base[j]? = some b' ∧ IsFlagged r baseId base j b' own ∧
          a ∈ alternatives b'.returnText)
      (hfirst : (alternatives own.returnText).eraseDups <+: members)
      (hthis : thisType ∉ members) : Widened own (union members)

/-- What was asked for without the receiver type coming in is to be declared beside the
    method. -/
theorem isFlagged_of_asks (own : Method) (k : Nat) (b : Method)
    (hasks : (own.before r baseId base k).Asks b) (hthis : thisType ∉ alternatives b.returnText) :
    IsFlagged r baseId base k b own := by
  refine hasks.resolve_right fun hadopt => hthis ?_
  rw [((overloadDecision_eq_adoptThis_iff _ b).mp hadopt).2.2, alternatives_thisType]
  exact List.mem_singleton_self _

/-- What becomes of a return type in the end. -/
theorem widened_finished (hreturns : ∀ b ∈ base, b.returnType ≠ none) (own : Method) :
    Widened r baseId base own (own.finished r baseId base).returnText := by
  have htext := returnText_before_eq r baseId base hreturns own base.length (Nat.le_refl _)
  have hasking : ∀ b, b ∈ own.asking r baseId base base.length ↔
      ∃ j, base[j]? = some b ∧ (own.before r baseId base j).Asks b := by
    intro b
    rw [mem_asking_iff]
    refine exists_congr fun j => ⟨fun h => h.2, fun h => ⟨?_, h⟩⟩
    exact (List.getElem?_eq_some_iff.mp h.1).1
  rw [← before_length, htext]
  by_cases hnone : own.asking r baseId base base.length = []
  · rw [if_pos hnone]
    refine Widened.kept fun k b hb hasks => ?_
    have hmem := (hasking b).mpr ⟨k, hb, hasks⟩
    rw [hnone] at hmem
    exact absurd hmem List.not_mem_nil
  · rcases List.exists_mem_of_ne_nil _ hnone with ⟨b, hmem⟩
    rcases (hasking b).mp hmem with ⟨k, hb, hasks⟩
    have htaken : ∀ a, a ∈ own.taken r baseId base base.length ↔
        a ∈ alternatives own.returnText ∨ ∃ j b', base[j]? = some b' ∧
          (own.before r baseId base j).Asks b' ∧ a ∈ alternatives b'.returnText := by
      intro a
      simp only [taken, List.mem_append, List.mem_flatMap, hasking]
      refine or_congr_right ⟨?_, ?_⟩
      · rintro ⟨b', ⟨j, hb', hasks'⟩, ha⟩
        exact ⟨j, b', hb', hasks', ha⟩
      · rintro ⟨j, b', hb', hasks', ha⟩
        exact ⟨b', ⟨j, hb', hasks'⟩, ha⟩
    rw [if_neg hnone, collapse]
    by_cases hthis : thisType ∈ own.taken r baseId base base.length
    · rw [if_pos hthis]
      refine Widened.fluent k b hb hasks ?_
      refine ((htaken thisType).mp hthis).imp_right ?_
      rintro ⟨j, b', hb', hasks', ha⟩
      have hname := (name_of_asks hasks').symm
      rw [name_before] at hname
      exact ⟨b', List.mem_of_getElem? hb', hname, ha⟩
    · -- Nobody who asked has the receiver type, so all of them were merged.
      rw [if_neg hthis]
      have hflags : ∀ j b', base[j]? = some b' → (own.before r baseId base j).Asks b' →
          IsFlagged r baseId base j b' own := by
        intro j b' hb' hasks'
        refine isFlagged_of_asks r baseId base own j b' hasks' fun hmem' => hthis ?_
        exact (htaken thisType).mpr (Or.inr ⟨j, b', hb', hasks', hmem'⟩)
      refine Widened.grown k b hb (hflags k b hb hasks) _ (nodup_addAllNew [] _ List.nodup_nil)
        ?_ ?_ ?_
      · intro a
        rw [mem_addAllNew, htaken]
        simp only [List.not_mem_nil, false_or]
        refine or_congr_right ⟨?_, ?_⟩
        · rintro ⟨j, b', hb', hasks', ha⟩
          exact ⟨j, b', hb', hflags j b' hb' hasks', ha⟩
        · rintro ⟨j, b', hb', hflag', ha⟩
          exact ⟨j, b', hb', Or.inl hflag', ha⟩
      · rw [taken, addAllNew_append, ← addAllNew_nil]
        exact prefix_addAllNew _ _
      · rw [mem_addAllNew]
        exact fun h => h.elim List.not_mem_nil hthis

end Turns

end Method

end Typings
