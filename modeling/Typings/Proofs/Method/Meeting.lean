import Typings.Hierarchy.Propagate
import Typings.Proofs.Resolve

/-!
# Meeting Base Methods

What becomes of a method when base methods are held against it, one after the
other. Only its return type and the note of what it was merged with change,
and the return type changes in one direction: it gains alternatives, or it
becomes the receiver type, and once it is that it stays that.

The decision for two methods looks at their names, at the types of their
parameters and at the texts of their return types. So of everything that
changes only the return text can change a later decision.

## Main definitions

* `Method.Met`: All that can come of meeting one base method.
* `Method.after`: A method after base methods were held against it.

## Theorems

* `Method.overloadDecision_eq_overload_iff`: When a base method is not covered.
* `Method.overloadDecision_eq_adoptThis_iff`: When a method has to return its receiver.
* `Method.hasTypeConflict_eq_true_iff`: When parameter lists conflict.
* `Method.overloadDecision_congr`: What a decision looks at.
* `Method.met_meet`: Meeting a base method comes to one of these results.
* `Method.meet_frame`: What meeting one base method leaves alone.
* `Method.returnText_meet_of_this`: Returning the receiver is final.
* `Method.meet_widens`: Alternatives are lost only to the receiver type.
* `Method.after_frame`, `Method.returnText_after_of_this`,
  `Method.after_widens`: The same for any number of base methods.
-/

namespace Typings

theorem isAlternative_thisType : IsAlternative thisType := by
  have hbar : '|' ∉ thisType.toList := by decide +kernel
  have htrim : Text.trim thisType = thisType := by decide +kernel
  exact ⟨fun c hc => decide_eq_false fun heq => hbar (heq ▸ hc), htrim⟩

theorem alternatives_thisType : alternatives thisType = [thisType] :=
  alternatives_of_isAlternative thisType isAlternative_thisType

namespace Method

theorem mem_mergedAlternatives (own base a : String) :
    a ∈ mergedAlternatives own base ↔ a ∈ alternatives own ∨ a ∈ alternatives base := by
  rw [mergedAlternatives, mem_addAllNew, List.mem_append]
  simp only [List.not_mem_nil, false_or]

/-- The alternatives of a merged type are the merged alternatives. -/
theorem alternatives_union_mergedAlternatives (own base : String) :
    alternatives (union (mergedAlternatives own base)) = mergedAlternatives own base := by
  refine alternatives_union _ ?_ ?_
  · intro a ha
    rcases (mem_mergedAlternatives own base a).mp ha with hown | hbase
    · exact isAlternative_of_mem own a hown
    · exact isAlternative_of_mem base a hbase
  · -- Even the empty text has one alternative, itself.
    rcases List.exists_mem_of_ne_nil _ (alternatives_ne_nil own) with ⟨a, ha⟩
    exact List.ne_nil_of_mem ((mem_mergedAlternatives own base a).mpr (Or.inl ha))

theorem coversReturn_iff (own base : Method) :
    own.coversReturn base = true ↔
      ∀ a ∈ alternatives base.returnText, a ∈ alternatives own.returnText := by
  simp only [coversReturn, List.all_eq_true, decide_eq_true_eq]

/-- A base method is not covered if the parameter types differ, or if it has a
    return alternative that is not found and returns something else than its
    receiver. -/
theorem overloadDecision_eq_overload_iff (own base : Method) :
    own.overloadDecision base = .overload ↔
      own.name = base.name ∧ (own.hasTypeConflict base = true ∨
        (base.returnText ≠ thisType ∧ own.coversReturn base = false)) := by
  simp only [overloadDecision]
  -- The cases are the questions that the decision asks, in their order.
  by_cases hname : own.name = base.name
  · by_cases hconflict : own.hasTypeConflict base = true
    · simp only [hname, hconflict, ne_eq, not_true_eq_false, if_false, if_true, true_or, and_self]
    · by_cases hthis : base.returnText = thisType
      · simp only [hname, hconflict, hthis, ne_eq, not_true_eq_false, if_false, if_true,
          Bool.false_eq_true, false_and, or_false, and_false, reduceCtorEq]
      · by_cases hcovers : own.coversReturn base = true
        · simp only [hname, hconflict, hthis, hcovers, ne_eq, not_true_eq_false, if_false, if_true,
            Bool.false_eq_true, Bool.true_eq_false, and_false, or_false, reduceCtorEq]
        · simp only [hname, hconflict, hthis, hcovers, ne_eq, not_true_eq_false, if_false,
            Bool.false_eq_true, not_false_eq_true, and_self, or_true]
  · simp only [hname, ne_eq, not_false_eq_true, if_true, false_and, reduceCtorEq]

/-- A base method asks a method to return its receiver if it does so itself and the
    parameter types do not differ. -/
theorem overloadDecision_eq_adoptThis_iff (own base : Method) :
    own.overloadDecision base = .adoptThis ↔
      own.name = base.name ∧ own.hasTypeConflict base = false ∧ base.returnText = thisType := by
  unfold overloadDecision
  by_cases hname : own.name = base.name
  · by_cases hconflict : own.hasTypeConflict base = true
    · simp only [hname, hconflict, ne_eq, not_true_eq_false, if_false, if_true,
        Bool.true_eq_false, false_and, and_false, reduceCtorEq]
    · by_cases hthis : base.returnText = thisType
      · simp only [hname, hconflict, hthis, ne_eq, not_true_eq_false, if_false, if_true,
          Bool.false_eq_true, and_self]
      · by_cases hcovers : own.coversReturn base = true
        · simp only [hname, hconflict, hthis, hcovers, ne_eq, not_true_eq_false, if_false, if_true,
            Bool.false_eq_true, and_false, reduceCtorEq]
        · simp only [hname, hconflict, hthis, hcovers, ne_eq, not_true_eq_false, if_false,
            Bool.false_eq_true, and_false, reduceCtorEq]
  · simp only [hname, ne_eq, not_false_eq_true, if_true, false_and, reduceCtorEq]

/-- Two parameter lists conflict if they are equally long and their types differ. -/
theorem hasTypeConflict_eq_true_iff (own base : Method) :
    own.hasTypeConflict base = true ↔
      own.parameters.length = base.parameters.length ∧
        own.parameters.map (·.type) ≠ base.parameters.map (·.type) := by
  unfold hasTypeConflict
  rw [Bool.and_eq_true, decide_eq_true_eq]
  refine and_congr_right fun hlength => ?_
  generalize own.parameters = ps at hlength ⊢
  generalize base.parameters = qs at hlength ⊢
  -- Equally long lists go through the same places.
  induction ps generalizing qs with
  | nil =>
      have hnil : qs = [] := List.eq_nil_of_length_eq_zero hlength.symm
      subst hnil
      simp only [List.zip_nil_left, List.any_nil, Bool.false_eq_true, List.map_nil, ne_eq,
        not_true_eq_false]
  | cons p ps ih =>
      cases qs with
      | nil => exact absurd hlength (Nat.succ_ne_zero _)
      | cons q qs =>
          have hrest := ih qs (Nat.succ.inj hlength)
          rw [List.zip_cons_cons, List.any_cons, Bool.or_eq_true, decide_eq_true_eq, hrest,
            List.map_cons, List.map_cons, Ne, Ne, Ne, List.cons_eq_cons, not_and_or]

/-- A decision looks at the names, the types of the parameters and the texts of the
    return types. -/
theorem overloadDecision_congr (own own' base : Method) (hname : own.name = own'.name)
    (htypes : own.parameters.map (·.type) = own'.parameters.map (·.type))
    (hreturn : own.returnText = own'.returnText) :
    own.overloadDecision base = own'.overloadDecision base := by
  have hlength : own.parameters.length = own'.parameters.length := by
    rw [← List.length_map, htypes, List.length_map]
  have hconflict : own.hasTypeConflict base = own'.hasTypeConflict base := by
    rw [Bool.eq_iff_iff, hasTypeConflict_eq_true_iff, hasTypeConflict_eq_true_iff, hlength, htypes]
  have hcovers : own.coversReturn base = own'.coversReturn base := by
    rw [coversReturn, coversReturn, hreturn]
  rw [overloadDecision, overloadDecision, hname, hconflict, hcovers]

section Meet

variable (r : Resolver) (base : Method) (origin : MethodRef) (own : Method)

theorem meet_of_overload (h : own.overloadDecision base = .overload) :
    meet r base origin own =
      ((own.mergeBase base origin r).1, some (own.mergeBase base origin r).2) := by
  rw [meet, h]

theorem meet_of_adoptThis (h : own.overloadDecision base = .adoptThis) :
    meet r base origin own = (own.adoptThis, none) := by
  rw [meet, h]

theorem meet_of_settled (hoverload : own.overloadDecision base ≠ .overload)
    (hadopt : own.overloadDecision base ≠ .adoptThis) :
    meet r base origin own = (own, none) := by
  rw [meet]
  cases hd : own.overloadDecision base with
  | unrelated => rfl
  | compatible => rfl
  | adoptThis => exact absurd hd hadopt
  | overload => exact absurd hd hoverload

/-- A base method that is covered changes nothing. -/
theorem meet_of_covered (hthis : base.returnText ≠ thisType)
    (hconflict : own.hasTypeConflict base = false) (hcovers : own.coversReturn base = true) :
    meet r base origin own = (own, none) := by
  refine meet_of_settled r base origin own ?_ ?_
  · rw [Ne, overloadDecision_eq_overload_iff, hconflict, hcovers]
    simp only [Bool.false_eq_true, Bool.true_eq_false, and_false, or_self, not_false_eq_true]
  · intro hadopt
    rw [overloadDecision, hconflict, if_neg Bool.false_ne_true, if_neg hthis, if_pos hcovers]
      at hadopt
    by_cases hname : own.name = base.name
    · rw [if_neg (not_not_intro hname)] at hadopt
      contradiction
    · rw [if_pos hname] at hadopt
      contradiction

theorem mergeBase_of_none (hbase : base.returnType = none) :
    own.mergeBase base origin r = ({ own with overloaded := some origin }, {}) := by
  rw [mergeBase]
  simp only [hbase]

/-- The result of a merge with a base method that has a return type. -/
theorem mergeBase_of_some (baseReturn : ReturnType) (hbase : base.returnType = some baseReturn) :
    own.mergeBase base origin r =
      if thisType ∈ mergedAlternatives own.returnText base.returnText then
        ({ own with
            overloaded := some origin
            returnType :=
              some { own.returnType.getD ReturnType.unknown with type := thisType } }, {})
      else
        ({ own with
            overloaded := some origin
            returnType := some (ReturnType.grow (own.returnType.getD ReturnType.unknown) baseReturn
              (mergedAlternatives own.returnText base.returnText)) },
         mergedNeeds r baseReturn (mergedAlternatives own.returnText base.returnText)) := by
  have htext : base.returnText = baseReturn.type := by rw [returnText, hbase]
  have hown : ({ own with overloaded := some origin } : Method).returnText = own.returnText := rfl
  rw [mergeBase, htext]
  simp only [hbase, hown]

/-- All that can come of holding a base method against a method. -/
inductive Met : Method × Option Requirements → Prop where
  /-- The two differ, but the base method has no return type to merge. -/
  | noted (hoverload : own.overloadDecision base = .overload) (hbase : base.returnType = none) :
      Met ({ own with overloaded := some origin }, some {})
  /-- The two differ, and one of them returns its receiver. -/
  | fluent (hoverload : own.overloadDecision base = .overload)
      (hthis : thisType ∈ mergedAlternatives own.returnText base.returnText) :
      Met
        ({ own with
            overloaded := some origin
            returnType :=
              some { own.returnType.getD ReturnType.unknown with type := thisType } }, some {})
  /-- The two differ, and the return type grows by that of the base method. -/
  | grown (baseReturn : ReturnType) (hoverload : own.overloadDecision base = .overload)
      (hbase : base.returnType = some baseReturn)
      (hthis : thisType ∉ mergedAlternatives own.returnText base.returnText) :
      Met
        ({ own with
            overloaded := some origin
            returnType := some (ReturnType.grow (own.returnType.getD ReturnType.unknown) baseReturn
              (mergedAlternatives own.returnText base.returnText)) },
         some (mergedNeeds r baseReturn (mergedAlternatives own.returnText base.returnText)))
  /-- The base method returns its receiver. -/
  | adopted (hadopt : own.overloadDecision base = .adoptThis) : Met (own.adoptThis, none)
  /-- The base method has another name or is covered. -/
  | settled (hoverload : own.overloadDecision base ≠ .overload)
      (hadopt : own.overloadDecision base ≠ .adoptThis) : Met (own, none)

theorem met_meet : Met r base origin own (meet r base origin own) := by
  by_cases hoverload : own.overloadDecision base = .overload
  · rw [meet_of_overload r base origin own hoverload]
    rcases hbase : base.returnType with _ | baseReturn
    · rw [mergeBase_of_none r base origin own hbase]
      exact Met.noted hoverload hbase
    · rw [mergeBase_of_some r base origin own baseReturn hbase]
      by_cases hthis : thisType ∈ mergedAlternatives own.returnText base.returnText
      · rw [if_pos hthis]
        exact Met.fluent hoverload hthis
      · rw [if_neg hthis]
        exact Met.grown baseReturn hoverload hbase hthis
  · by_cases hadopt : own.overloadDecision base = .adoptThis
    · rw [meet_of_adoptThis r base origin own hadopt]
      exact Met.adopted hadopt
    · rw [meet_of_settled r base origin own hoverload hadopt]
      exact Met.settled hoverload hadopt

/-- Only a base method that is not covered needs anything. -/
theorem isSome_meet_iff :
    (meet r base origin own).2.isSome = true ↔ own.overloadDecision base = .overload := by
  have hmet := met_meet r base origin own
  generalize meet r base origin own = result at hmet ⊢
  cases hmet with
  | noted hoverload _ => simp only [Option.isSome_some, hoverload]
  | fluent hoverload _ => simp only [Option.isSome_some, hoverload]
  | grown _ hoverload _ _ => simp only [Option.isSome_some, hoverload]
  | adopted hadopt => simp only [Option.isSome_none, hadopt, Bool.false_eq_true, reduceCtorEq]
  | settled hoverload _ => simp only [Option.isSome_none, hoverload, Bool.false_eq_true]

/-- Meeting a base method changes the return type and the note of what was
    merged, and nothing else. -/
theorem meet_frame :
    ∃ returnType overloaded, (meet r base origin own).1 =
      { own with returnType := returnType, overloaded := overloaded } := by
  have hmet := met_meet r base origin own
  generalize meet r base origin own = result at hmet ⊢
  cases hmet with
  | noted _ _ => exact ⟨own.returnType, some origin, rfl⟩
  | fluent _ _ => exact ⟨_, some origin, rfl⟩
  | grown _ _ _ _ => exact ⟨_, some origin, rfl⟩
  | adopted _ => exact ⟨_, own.overloaded, rfl⟩
  | settled _ _ => exact ⟨own.returnType, own.overloaded, rfl⟩

/-- A method that returns its receiver goes on doing so. -/
theorem returnText_meet_of_this (hown : own.returnText = thisType) :
    (meet r base origin own).1.returnText = thisType := by
  have hmet := met_meet r base origin own
  generalize meet r base origin own = result at hmet ⊢
  cases hmet with
  | noted _ _ => exact hown
  | fluent _ _ => rfl
  | grown _ _ _ hthis =>
      -- The receiver type is among the merged alternatives, being the own one.
      refine absurd ?_ hthis
      rw [mem_mergedAlternatives, hown, alternatives_thisType]
      exact Or.inl (List.mem_singleton_self _)
  | adopted _ => rfl
  | settled _ _ => exact hown

/-- Meeting a base method loses no alternative, unless the method comes to
    return its receiver. -/
theorem meet_widens :
    (meet r base origin own).1.returnText = thisType ∨
      ∀ a ∈ alternatives own.returnText, a ∈ alternatives (meet r base origin own).1.returnText := by
  have hmet := met_meet r base origin own
  generalize meet r base origin own = result at hmet ⊢
  cases hmet with
  | noted _ _ => exact Or.inr fun a ha => ha
  | fluent _ _ => exact Or.inl rfl
  | grown baseReturn _ _ _ =>
      refine Or.inr fun a ha => ?_
      show a ∈ alternatives (union (mergedAlternatives own.returnText base.returnText))
      rw [alternatives_union_mergedAlternatives]
      exact (mem_mergedAlternatives _ _ a).mpr (Or.inl ha)
  | adopted _ => exact Or.inl rfl
  | settled _ _ => exact Or.inr fun a ha => ha

end Meet

section After

variable (r : Resolver) (baseId : Nat)

/-- A method after numbered base methods were held against it, one after the
    other. -/
def after (own : Method) (met : List (Nat × Method)) : Method :=
  met.foldl (fun m base => (meet r base.2 ⟨baseId, base.1⟩ m).1) own

theorem after_nil (own : Method) : own.after r baseId [] = own := rfl

theorem after_cons (own : Method) (base : Nat × Method) (rest : List (Nat × Method)) :
    own.after r baseId (base :: rest) =
      (meet r base.2 ⟨baseId, base.1⟩ own).1.after r baseId rest := rfl

theorem after_append (own : Method) (first second : List (Nat × Method)) :
    own.after r baseId (first ++ second) = (own.after r baseId first).after r baseId second :=
  List.foldl_append

/-- Base methods change the return type of a method and the note of what was
    merged, and nothing else. -/
theorem after_frame (own : Method) (met : List (Nat × Method)) :
    ∃ returnType overloaded, own.after r baseId met =
      { own with returnType := returnType, overloaded := overloaded } := by
  induction met generalizing own with
  | nil => exact ⟨own.returnType, own.overloaded, rfl⟩
  | cons base rest ih =>
      rcases meet_frame r base.2 ⟨baseId, base.1⟩ own with ⟨t, o, hmeet⟩
      rw [after_cons, hmeet]
      rcases ih { own with returnType := t, overloaded := o } with ⟨t', o', hrest⟩
      exact ⟨t', o', hrest⟩

theorem name_after (own : Method) (met : List (Nat × Method)) :
    (own.after r baseId met).name = own.name := by
  rcases after_frame r baseId own met with ⟨t, o, h⟩
  rw [h]

theorem parameters_after (own : Method) (met : List (Nat × Method)) :
    (own.after r baseId met).parameters = own.parameters := by
  rcases after_frame r baseId own met with ⟨t, o, h⟩
  rw [h]

/-- The parameters never change, so neither do conflicts between them. -/
theorem hasTypeConflict_after (own base : Method) (met : List (Nat × Method)) :
    (own.after r baseId met).hasTypeConflict base = own.hasTypeConflict base := by
  rw [hasTypeConflict, hasTypeConflict, parameters_after]

theorem returnText_after_of_this (own : Method) (met : List (Nat × Method))
    (hthis : own.returnText = thisType) : (own.after r baseId met).returnText = thisType := by
  induction met generalizing own with
  | nil => exact hthis
  | cons base rest ih => exact ih _ (returnText_meet_of_this r base.2 ⟨baseId, base.1⟩ own hthis)

/-- No alternative is lost to base methods, unless the method comes to return
    its receiver. -/
theorem after_widens (own : Method) (met : List (Nat × Method)) :
    (own.after r baseId met).returnText = thisType ∨
      ∀ a ∈ alternatives own.returnText,
        a ∈ alternatives (own.after r baseId met).returnText := by
  -- Once a method returns its receiver there is nothing left to prove, since it
  -- goes on doing so.
  induction met generalizing own with
  | nil => exact Or.inr fun a ha => ha
  | cons base rest ih =>
      rw [after_cons]
      rcases meet_widens r base.2 ⟨baseId, base.1⟩ own with hthis | hwide
      · exact Or.inl (returnText_after_of_this r baseId _ rest hthis)
      · rcases ih (meet r base.2 ⟨baseId, base.1⟩ own).1 with hthis | hrest
        · exact Or.inl hthis
        · exact Or.inr fun a ha => hrest a (hwide a ha)

end After

end Method

end Typings
