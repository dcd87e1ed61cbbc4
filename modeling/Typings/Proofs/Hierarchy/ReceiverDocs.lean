import Typings.Proofs.Hierarchy.Fluency

/-!
# Documentation of Methods That Return Their Receiver

There are two ways for a method to come to return its receiver. It is made to do so
where its parameters do not conflict with those of the base method, and it is merged
with the base method where they do. Either way the text of the return type is the
receiver type, and the description and the tokens are what they were.

The two differ in one thing. A return type that nobody documented is marked as unknown
and left out of the documentation. To be made to return the receiver takes the mark
away, and so does a merge without the receiver type, but a merge that comes to the
receiver type leaves it as it is. So what a method shows in the end depends on the
turns: a mark that the method had to begin with is taken away by a turn of one of the
other two kinds, and by nothing else.

## Main definitions

* `Method.documentsReturn`: The return type has a place in the documentation.
* `Method.DocumentsReceiver`: The documentation ends with the receiver type.

## Theorems

* `Method.returnType_mergeBase_of_this`: How the two ways differ.
* `Method.documentsReceiver_iff`: When a method that returns its receiver says so.
* `Method.documentsReturn_meet_iff`, `Method.documentsReturn_before_iff`: What takes
  the mark away, in one turn and in some turns.
* `Hierarchy.documentsReceiver_createOverloads_iff`: What a class shows in the end.
-/

namespace Typings

namespace Method

/-- The return type has a place in the documentation. -/
def documentsReturn (m : Method) : Bool :=
  m.returnType.any fun t => !t.isUnknown

/-- The documentation of a method ends with its return type, which is the receiver
    type. -/
def DocumentsReceiver (m : Method) : Prop :=
  m.docLines = Text.lines m.description ++ m.parameters.map parameterDoc ++
    [docTag "returns" thisType (described ((m.returnType.map (·.description)).getD ""))]

instance (m : Method) : Decidable m.DocumentsReceiver :=
  inferInstanceAs (Decidable (_ = _))

/-- A method that returns its receiver says so if its return type has a place in the
    documentation. -/
theorem documentsReceiver_iff (m : Method) (hthis : m.returnText = thisType) :
    m.DocumentsReceiver ↔ m.documentsReturn = true := by
  unfold DocumentsReceiver docLines documentsReturn
  rw [List.append_right_inj]
  rcases hreturn : m.returnType with _ | t
  · -- Without a return type it would return anything.
    rw [returnText, hreturn] at hthis
    exact absurd hthis (by decide)
  · rw [returnText, hreturn] at hthis
    unfold returnDoc
    by_cases hunknown : t.isUnknown = true
    · simp only [hunknown, if_true, Option.any_some, Bool.not_true, Bool.false_eq_true, iff_false]
      exact (List.cons_ne_nil _ _).symm
    · simp only [hunknown, hthis, Option.any_some, Option.map_some, Option.getD_some,
        Bool.false_eq_true, if_false, Bool.not_false]

section TwoWays

variable (r : Resolver) (base : Method) (origin : MethodRef) (own : Method)

theorem documentsReceiver_adoptThis : own.adoptThis.DocumentsReceiver :=
  (documentsReceiver_iff own.adoptThis rfl).mpr rfl

/-- A merge with a base method that returns its receiver. -/
theorem mergeBase_of_this (hthis : base.returnText = thisType) :
    own.mergeBase base origin r =
      ({ own with
          overloaded := some origin
          returnType :=
            some { own.returnType.getD ReturnType.unknown with type := thisType } }, {}) := by
  rcases hbase : base.returnType with _ | baseReturn
  · rw [returnText, hbase] at hthis
    exact absurd hthis (by decide)
  · have hmem : thisType ∈ mergedAlternatives own.returnText base.returnText := by
      rw [mem_mergedAlternatives, hthis, alternatives_thisType]
      exact Or.inr (List.mem_singleton_self _)
    rw [mergeBase_of_some r base origin own baseReturn hbase, if_pos hmem]

/-- The two ways of coming to return the receiver leave the same return type, but the
    merge leaves the mark of an unknown one. -/
theorem returnType_mergeBase_of_this (hthis : base.returnText = thisType) :
    (own.mergeBase base origin r).1.returnType =
      own.adoptThis.returnType.map fun t => { t with isUnknown := !own.documentsReturn } := by
  rw [mergeBase_of_this r base origin own hthis]
  unfold adoptThis documentsReturn
  rcases own.returnType with _ | t
  · rfl
  · simp only [Option.getD_some, Option.any_some, Option.map_some, Bool.not_not]

/-- The two ways agree on documented return types alone. -/
theorem returnType_mergeBase_eq_iff (hthis : base.returnText = thisType) :
    (own.mergeBase base origin r).1.returnType = own.adoptThis.returnType ↔
      own.documentsReturn = true := by
  rw [returnType_mergeBase_of_this r base origin own hthis]
  unfold adoptThis
  simp only [Option.map_some, Option.some_inj, ReturnType.mk.injEq, true_and,
    Bool.not_eq_false']

theorem documentsReturn_mergeBase (hthis : base.returnText = thisType) :
    (own.mergeBase base origin r).1.documentsReturn = own.documentsReturn := by
  unfold documentsReturn
  rw [returnType_mergeBase_of_this r base origin own hthis]
  unfold adoptThis
  rw [Option.map_some, Option.any_some, Bool.not_not]
  rfl

/-- A merge with a base method that returns its receiver says so only if something was
    documented before. -/
theorem documentsReceiver_mergeBase_iff (hthis : base.returnText = thisType) :
    (own.mergeBase base origin r).1.DocumentsReceiver ↔ own.documentsReturn = true := by
  have htext : (own.mergeBase base origin r).1.returnText = thisType := by
    rw [mergeBase_of_this r base origin own hthis]
    rfl
  rw [documentsReceiver_iff _ htext, documentsReturn_mergeBase r base origin own hthis]

/-- What one turn makes of the documentation. A return type that is left out has a
    place after it if the method is made to return its receiver, or is merged with
    another return type and does not come to return its receiver. -/
theorem documentsReturn_meet_iff :
    (meet r base origin own).1.documentsReturn = true ↔
      own.documentsReturn = true ∨ own.overloadDecision base = .adoptThis ∨
        own.overloadDecision base = .overload ∧ base.returnType ≠ none ∧
          (meet r base origin own).1.returnText ≠ thisType := by
  have hmet := met_meet r base origin own
  generalize meet r base origin own = result at hmet ⊢
  cases hmet with
  | noted hoverload hbase =>
      simp only [hoverload, hbase, ne_eq, not_true_eq_false, false_and, and_false, reduceCtorEq,
        or_false]
      rfl
  | fluent hoverload _ =>
      have hkept : (own.returnType.getD ReturnType.unknown).isUnknown = !own.documentsReturn := by
        unfold documentsReturn
        cases own.returnType with
        | none => rfl
        | some t => rw [Option.getD_some, Option.any_some, Bool.not_not]
      simp only [documentsReturn, returnText, Option.any_some, hoverload, ne_eq, not_true_eq_false,
        and_false, reduceCtorEq, or_false]
      rw [hkept, Bool.not_not]
      rfl
  | grown baseReturn hoverload hbase hthis =>
      -- A text made of other alternatives is not the receiver type.
      have htext : union (mergedAlternatives own.returnText base.returnText) ≠ thisType := by
        intro hunion
        refine hthis ?_
        rw [← alternatives_union_mergedAlternatives, hunion, alternatives_thisType]
        exact List.mem_singleton_self _
      refine iff_of_true rfl (Or.inr (Or.inr ⟨hoverload, ?_, htext⟩))
      rw [hbase]
      exact Option.some_ne_none _
  | adopted hadopt => exact iff_of_true rfl (Or.inr (Or.inl hadopt))
  | settled hoverload hadopt => simp only [hoverload, hadopt, false_and, or_false]

end TwoWays

section Turns

variable (r : Resolver) (baseId : Nat) (base : List Method)

/-- Whether a method is made to return its receiver does not depend on what came
    before. -/
theorem overloadDecision_before_eq_adoptThis_iff (k : Nat) (own b : Method) :
    (own.before r baseId base k).overloadDecision b = .adoptThis ↔
      own.overloadDecision b = .adoptThis := by
  rw [overloadDecision_eq_adoptThis_iff, overloadDecision_eq_adoptThis_iff, name_before, before,
    hasTypeConflict_after]

/-- What some turns make of the documentation. -/
theorem documentsReturn_before_iff (own : Method) (n : Nat) (hn : n ≤ base.length) :
    (own.before r baseId base n).documentsReturn = true ↔
      own.documentsReturn = true ∨ ∃ k b, k < n ∧ base[k]? = some b ∧
        (own.overloadDecision b = .adoptThis ∨
          IsFlagged r baseId base k b own ∧ b.returnType ≠ none ∧
            (own.before r baseId base (k + 1)).returnText ≠ thisType) := by
  induction n with
  | zero =>
      refine ⟨Or.inl, fun h => h.resolve_right ?_⟩
      rintro ⟨k, b, hk, _⟩
      exact absurd hk (Nat.not_lt_zero k)
  | succ n ih =>
      have hb : base[n]? = some base[n] := List.getElem?_eq_getElem hn
      generalize base[n] = b at hb
      have hturn := before_succ r baseId base n b own hb
      have hstep := documentsReturn_meet_iff r b ⟨baseId, n⟩ (own.before r baseId base n)
      rw [← hturn, overloadDecision_before_eq_adoptThis_iff, ih (by omega)] at hstep
      rw [hstep]
      constructor
      · rintro ((hown | ⟨k, b', hk, hrest⟩) | hlast)
        · exact Or.inl hown
        · exact Or.inr ⟨k, b', by omega, hrest⟩
        · exact Or.inr ⟨n, b, by omega, hb, hlast⟩
      · rintro (hown | ⟨k, b', hk, hb', hrest⟩)
        · exact Or.inl (Or.inl hown)
        · by_cases hlast : k = n
          · -- The last turn is that of the base method at its place.
            subst hlast
            rw [hb, Option.some_inj] at hb'
            subst hb'
            exact Or.inr hrest
          · exact Or.inl (Or.inr ⟨k, b', by omega, hb', hrest⟩)

/-- What becomes of the documentation of a method in the end. -/
theorem documentsReturn_finished_iff (own : Method) :
    (own.finished r baseId base).documentsReturn = true ↔
      own.documentsReturn = true ∨ (∃ b ∈ base, own.overloadDecision b = .adoptThis) ∨
        ∃ k b, base[k]? = some b ∧ IsFlagged r baseId base k b own ∧ b.returnType ≠ none ∧
          (own.before r baseId base (k + 1)).returnText ≠ thisType := by
  rw [← before_length, documentsReturn_before_iff r baseId base own base.length (Nat.le_refl _)]
  refine or_congr_right ?_
  constructor
  · rintro ⟨k, b, _, hb, hadopt | hgrown⟩
    · exact Or.inl ⟨b, List.mem_of_getElem? hb, hadopt⟩
    · exact Or.inr ⟨k, b, hb, hgrown⟩
  · rintro (⟨b, hmem, hadopt⟩ | ⟨k, b, hb, hgrown⟩)
    · rcases List.mem_iff_getElem?.mp hmem with ⟨k, hb⟩
      exact ⟨k, b, (List.getElem?_eq_some_iff.mp hb).1, hb, Or.inl hadopt⟩
    · exact ⟨k, b, (List.getElem?_eq_some_iff.mp hb).1, hb, Or.inr hgrown⟩

end Turns

end Method

namespace Hierarchy

/-- The two ways for a method to come to return its receiver agree exactly on
    documented return types, and so does a class in the end: a method that comes to
    return its receiver documents it exactly if something was documented, or the
    method was once made to return its receiver, or it was once merged without coming
    to return it. -/
theorem documentsReceiver_createOverloads_iff (r : Resolver) (own m : Method)
    (hname : own.name = m.name) (hthis : m.returnText = thisType) :
    (∀ origin, (own.mergeBase m origin r).1.returnType =
        own.adoptThis.returnType.map fun t => { t with isUnknown := !own.documentsReturn }) ∧
      (∀ origin, (own.mergeBase m origin r).1.returnType = own.adoptThis.returnType ↔
        own.documentsReturn = true) ∧
      own.adoptThis.DocumentsReceiver ∧
      (∀ origin, (own.mergeBase m origin r).1.DocumentsReceiver ↔ own.documentsReturn = true) ∧
      ∀ (h : Hierarchy) (i b : Nat) (c base : ClassModel), h.get? i = some c →
        c.baseId = some b → h.get? b = some base → own ∈ c.methods → m ∈ base.methods →
        ∃ f, (createOverloads r h i).1.get? i = some f ∧
          own.finished r b base.methods ∈ f.methods ∧
          (own.finished r b base.methods).returnText = thisType ∧
          ((own.finished r b base.methods).DocumentsReceiver ↔
            own.documentsReturn = true ∨
              (∃ b' ∈ base.methods, own.overloadDecision b' = .adoptThis) ∨
              ∃ k b', base.methods[k]? = some b' ∧ IsFlagged r b base.methods k b' own ∧
                b'.returnType ≠ none ∧
                (own.before r b base.methods (k + 1)).returnText ≠ thisType) := by
  refine ⟨fun origin => Method.returnType_mergeBase_of_this r m origin own hthis,
    fun origin => Method.returnType_mergeBase_eq_iff r m origin own hthis,
    Method.documentsReceiver_adoptThis own,
    fun origin => Method.documentsReceiver_mergeBase_iff r m origin own hthis, ?_⟩
  intro h i b c base hget hbase hgetb hown hm
  have hfluent := Method.returnText_finished_of_fluent_base r b base.methods m own hm hname hthis
  refine ⟨_, get?_createOverloads_of_base r h i b c base hget hbase hgetb, ?_, hfluent, ?_⟩
  · rw [ClassModel.mem_finish_methods, ClassModel.own_carryFrom]
    exact Or.inl (List.mem_map_of_mem hown)
  · rw [Method.documentsReceiver_iff _ hfluent, Method.documentsReturn_finished_iff]

section Example

/-- A class whose method has a parameter of another type than that of its base, which
    returns its receiver, and documents no return value. -/
def querySource : Api.Source where
  library := "lib"
  symbols :=
    [{ kind := .class, name := "lib.Query",
       methods := [{ name := "filter", parameters := [{ name := "x", type := "number" }],
                     returnValue := some { type := "this" } }] },
     { kind := .class, name := "lib.UserQuery", base := some "lib.Query",
       methods := [{ name := "filter", parameters := [{ name := "x", type := "string" }] }] }]

/-- The resolver of the two classes. -/
def queryResolver : Resolver where
  registry := Registry.ofSources [querySource]

/-- The two classes. -/
def queryClasses : Hierarchy :=
  ofSources queryResolver .class .class [querySource]

/-- The method of the class and that of its base. -/
theorem exists_filter_queryClasses :
    ∃ c base own m, queryClasses.link.1.get? 1 = some c ∧ c.baseId = some 0 ∧
      queryClasses.link.1.get? 0 = some base ∧ own ∈ c.methods ∧ m ∈ base.methods ∧
      own.name = m.name ∧ m.returnText = thisType ∧
      ¬ (own.finished queryResolver 0 base.methods).DocumentsReceiver := by
  have hlink : queryClasses.link.1.baseId? 1 = some 0 := by decide +kernel
  rcases exists_methods_of_any queryClasses.link.1 1 0 hlink
    (fun _ base own m => decide (own.name = m.name ∧ m.returnText = thisType ∧
      ¬ (own.finished queryResolver 0 base.methods).DocumentsReceiver))
    (by decide +kernel) with ⟨c, base, own, m, hget, hbase, hgetb, hown, hm, hall⟩
  rw [decide_eq_true_eq] at hall
  exact ⟨c, base, own, m, hget, hbase, hgetb, hown, hm, hall⟩

/-- The method of the class comes to return its receiver by a merge. -/
theorem documentsReceiver_queryClasses :
    ∃ c base own m, queryClasses.link.1.get? 1 = some c ∧ c.baseId = some 0 ∧
      queryClasses.link.1.get? 0 = some base ∧ own ∈ c.methods ∧ m ∈ base.methods ∧
      own.name = m.name ∧ m.returnText = thisType ∧
      (∀ origin, (own.mergeBase m origin queryResolver).1.returnType = own.adoptThis.returnType ↔
        own.documentsReturn = true) ∧
      ∃ f, (createOverloads queryResolver queryClasses.link.1 1).1.get? 1 = some f ∧
        own.finished queryResolver 0 base.methods ∈ f.methods ∧
        (own.finished queryResolver 0 base.methods).returnText = thisType ∧
        ((own.finished queryResolver 0 base.methods).DocumentsReceiver ↔
          own.documentsReturn = true ∨
            (∃ b' ∈ base.methods, own.overloadDecision b' = .adoptThis) ∨
            ∃ k b', base.methods[k]? = some b' ∧ IsFlagged queryResolver 0 base.methods k b' own ∧
              b'.returnType ≠ none ∧
              (own.before queryResolver 0 base.methods (k + 1)).returnText ≠ thisType) := by
  rcases exists_filter_queryClasses with
    ⟨c, base, own, m, hget, hbase, hgetb, hown, hm, hname, hthis, _⟩
  rcases documentsReceiver_createOverloads_iff queryResolver own m hname hthis with
    ⟨_, hagree, _, _, hfinal⟩
  exact ⟨c, base, own, m, hget, hbase, hgetb, hown, hm, hname, hthis, hagree,
    hfinal queryClasses.link.1 1 0 c base hget hbase hgetb hown hm⟩

/-- The two ways of coming to return the receiver do not always agree, and a method
    that does so does not always document it. The query has no documented return value
    and is merged with the method of its base. -/
theorem not_forall_documentsReceiver :
    ¬ ∀ (r : Resolver) (h : Hierarchy), h.IsBuilt r → h.link.1.cycle? = none →
      ∀ i b c base, h.link.1.get? i = some c → c.baseId = some b →
        h.link.1.get? b = some base → ∀ own ∈ c.methods, ∀ m ∈ base.methods,
          own.name = m.name → m.returnText = thisType →
          (∀ origin, (own.mergeBase m origin r).1.returnType = own.adoptThis.returnType) ∧
            (own.finished r b base.methods).DocumentsReceiver := by
  intro hall
  rcases exists_filter_queryClasses with
    ⟨c, base, own, m, hget, hbase, hgetb, hown, hm, hname, hthis, hundocumented⟩
  have hboth := hall queryResolver queryClasses (isBuilt_ofSources _ .class .class [querySource])
    (by decide +kernel) 1 0 c base hget hbase hgetb own hown m hm hname hthis
  exact hundocumented hboth.2

end Example

end Hierarchy

end Typings
