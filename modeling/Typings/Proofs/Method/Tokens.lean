import Typings.Method.Variants
import Typings.Proofs.Method.Meeting

/-!
# Tokens of a Method

The texts of a method remember the tokens they were resolved from: a parameter
the token of its type, a return type the token of each alternative. Whoever
declares the method has to import what these tokens need.

A method that was built from a record requires all of that by itself. A merge
adds tokens to the return type without changing what the method requires, and
hands out what they need instead. It hands out nothing if the method comes to
return its receiver, since such a return type names nobody; but the method of
the base class goes on naming whom it names.

## Main definitions

* `Method.Mentions`: A method has a token in one of its texts.
* `Method.RequiresParameters`, `Method.RequiresReturn`: A method requires what
  the tokens of its parameters, and of its return type, need.

## Theorems

* `Method.requiresParameters_build`, `Method.requiresReturn_build`: Methods
  require what their record names.
* `Method.mem_mergedNeeds`: What a merge hands out.
* `Method.rawType_meet`: Where the tokens of a return type come from.
* `Method.needs_meet_of_mentions`: A merge hands out what the base method's
  return type needs, unless the method comes to return its receiver.
-/

namespace Typings

namespace Method

/-- A method has a token in the text of its return type. -/
def ReturnMentions (m : Method) (token : String) : Prop :=
  ∃ t, m.returnType = some t ∧ ∃ a ∈ alternatives t.type, t.rawTypes.get? a = some token

/-- A method has a token in one of its texts. A type that was made up has no
    token. -/
def Mentions (m : Method) (token : String) : Prop :=
  (∃ p ∈ m.parameters, p.rawType ≠ "" ∧ p.rawType = token) ∨ m.ReturnMentions token

/-- A method requires what the tokens of its parameters need. -/
def RequiresParameters (r : Resolver) (m : Method) : Prop :=
  ∀ p ∈ m.parameters, p.rawType ≠ "" →
    ∀ i ∈ (r.resolve p.rawType).requirements.imports, i ∈ m.requirements.imports

/-- A method requires what the tokens of its return type need. -/
def RequiresReturn (r : Resolver) (m : Method) : Prop :=
  ∀ t, m.returnType = some t → ∀ a token, t.rawTypes.get? a = some token →
    ∀ i ∈ (r.resolve token).requirements.imports, i ∈ m.requirements.imports

section Build

variable (r : Resolver)

theorem imports_resolve_parameter (raw : Api.Parameter) (i : TypeImport)
    (hi : i ∈ (r.resolve (Parameter.resolve r raw).1.rawType).requirements.imports) :
    i ∈ (Parameter.resolve r raw).2.imports := hi

/-- A parameter of a subscription has no token, or it is resolved like any
    other. -/
theorem imports_subscription_parameter (s : Subscription) (raw : Api.Parameter) (i : TypeImport)
    (hraw : (s.parameter r raw).1.rawType ≠ "")
    (hi : i ∈ (r.resolve (s.parameter r raw).1.rawType).requirements.imports) :
    i ∈ (s.parameter r raw).2.imports := by
  rw [Subscription.parameter] at hraw hi ⊢
  rcases hgeneric : s.generic? raw with _ | generic
  · simp only [hgeneric] at hraw hi ⊢
    -- Of the parameters that are not made up, only the callback is not resolved.
    by_cases hcallback : Role.ofName? raw.name = some .callback
    · rw [if_pos hcallback] at hraw
      exact absurd rfl hraw
    · rw [if_neg hcallback] at hi ⊢
      exact imports_resolve_parameter r raw i hi
  · simp only [hgeneric] at hraw
    exact absurd rfl hraw

theorem imports_resolve_returnType (value : Option Api.ReturnValue) (a token : String)
    (htoken : (ReturnType.resolve r value).1.rawTypes.get? a = some token) (i : TypeImport)
    (hi : i ∈ (r.resolve token).requirements.imports) :
    i ∈ (ReturnType.resolve r value).2.imports := by
  rcases value with _ | value
  · exact absurd htoken (by simp only [ReturnType.resolve, ReturnType.unknown, Table.get?_empty,
      reduceCtorEq, not_false_eq_true])
  · exact r.imports_of_mem_rawTypes value.type a token (Table.mem_of_get?_ofList _ a token htoken)
      i hi

/-- The needs of built parameters are among those of the method. -/
theorem mem_mergeAll_of_parameter (resolve : Api.Parameter → Parameter × Requirements)
    (raws : List Api.Parameter)
    (hresolve : ∀ raw i, (resolve raw).1.rawType ≠ "" →
      i ∈ (r.resolve (resolve raw).1.rawType).requirements.imports → i ∈ (resolve raw).2.imports)
    (p : Parameter) (hp : p ∈ (raws.map resolve).map Prod.fst) (hraw : p.rawType ≠ "")
    (i : TypeImport) (hi : i ∈ (r.resolve p.rawType).requirements.imports) :
    i ∈ (Requirements.mergeAll ((raws.map resolve).map Prod.snd)).imports := by
  rw [List.map_map] at hp
  rcases List.mem_map.mp hp with ⟨raw, hmem, rfl⟩
  refine (Requirements.mem_mergeAll _ i).mpr ⟨(resolve raw).2, ?_, hresolve raw i hraw hi⟩
  rw [List.map_map]
  exact List.mem_map.mpr ⟨raw, hmem, rfl⟩

theorem requiresParameters_buildPlain (raw : Api.Method) (options : BuildOptions) :
    (buildPlain r raw options).RequiresParameters r := by
  intro p hp hraw i hi
  have hneeds := mem_mergeAll_of_parameter r (Parameter.resolve r) raw.parameters
    (fun raw i _ => imports_resolve_parameter r raw i) p
  by_cases hreturn : options.hasNoReturn = true
  · rw [buildPlain, if_pos hreturn] at hp ⊢
    exact hneeds hp hraw i hi
  · rw [buildPlain, if_neg hreturn] at hp ⊢
    exact (Requirements.mem_imports_merge _ _ i).mpr (Or.inl (hneeds hp hraw i hi))

theorem requiresReturn_buildPlain (raw : Api.Method) (options : BuildOptions) :
    (buildPlain r raw options).RequiresReturn r := by
  intro t ht a token htoken i hi
  by_cases hreturn : options.hasNoReturn = true
  · rw [buildPlain, if_pos hreturn] at ht
    exact absurd ht (by simp only [shell, reduceCtorEq, not_false_eq_true])
  · rw [buildPlain, if_neg hreturn] at ht ⊢
    simp only [Option.some_inj] at ht
    rw [← ht] at htoken
    exact (Requirements.mem_imports_merge _ _ i).mpr
      (Or.inr (imports_resolve_returnType r raw.returnValue a token htoken i hi))

theorem requiresParameters_buildSubscription (raw : Api.Method) (options : BuildOptions)
    (event : Event) : (buildSubscription r raw options event).RequiresParameters r := by
  intro p hp hraw i hi
  have hneeds := mem_mergeAll_of_parameter r (Subscription.parameter ⟨event, raw.parameters⟩ r)
    raw.parameters (imports_subscription_parameter r ⟨event, raw.parameters⟩) p hp hraw i hi
  exact (Requirements.mem_imports_merge _ _ i).mpr (Or.inl hneeds)

theorem requiresReturn_buildSubscription (raw : Api.Method) (options : BuildOptions)
    (event : Event) : (buildSubscription r raw options event).RequiresReturn r := by
  intro t ht a token htoken i hi
  by_cases hcallback : Subscription.has ⟨event, raw.parameters⟩ .callback = true
  · -- With a callback the method returns its receiver, which has no token.
    simp only [buildSubscription, hcallback, if_true, Option.some_inj] at ht
    rw [← ht] at htoken
    exact absurd htoken (by simp only [ReturnType.fluent, Table.get?_empty, reduceCtorEq,
      not_false_eq_true])
  · simp only [buildSubscription, hcallback, Option.some_inj] at ht ⊢
    rw [← ht] at htoken
    exact (Requirements.mem_imports_merge _ _ i).mpr
      (Or.inr (imports_resolve_returnType r raw.returnValue a token htoken i hi))

/-- A method that is built requires what the tokens of its parameters need. -/
theorem requiresParameters_build (owner : Owner) (raw : Api.Method) (options : BuildOptions) :
    (build owner raw options).RequiresParameters owner.resolver := by
  rw [build]
  rcases subscribedEvent? raw.name owner.events with _ | event
  · exact requiresParameters_buildPlain owner.resolver raw options
  · exact requiresParameters_buildSubscription owner.resolver raw options event

/-- A method that is built requires what the tokens of its return type need. -/
theorem requiresReturn_build (owner : Owner) (raw : Api.Method) (options : BuildOptions) :
    (build owner raw options).RequiresReturn owner.resolver := by
  rw [build]
  rcases subscribedEvent? raw.name owner.events with _ | event
  · exact requiresReturn_buildPlain owner.resolver raw options
  · exact requiresReturn_buildSubscription owner.resolver raw options event

end Build

section Merge

variable (r : Resolver)

/-- A merge hands out what each of the merged alternatives needs. -/
theorem mem_mergedNeeds (base : ReturnType) (merged : List String) (i : TypeImport) :
    i ∈ (mergedNeeds r base merged).imports ↔
      ∃ a ∈ merged, i ∈ (r.resolve ((base.rawTypes.get? a).getD a)).requirements.imports := by
  rw [mergedNeeds, Requirements.mem_mergeAll]
  simp only [List.mem_map, exists_exists_and_eq_and]

theorem rawType_foldl (base : ReturnType) (members : List String) (t : Table String)
    (a token : String)
    (htoken : (members.foldl (fun t alternative =>
      match base.rawTypes.get? alternative with
      | some token => t.put alternative token
      | none => t) t).get? a = some token) :
    t.get? a = some token ∨ (a ∈ members ∧ base.rawTypes.get? a = some token) := by
  -- A member for which the base has no token keeps the one it had, if any.
  induction members generalizing t with
  | nil => exact Or.inl htoken
  | cons b rest ih =>
      rcases ih _ htoken with hstep | ⟨hmem, hbase⟩
      · rcases hb : base.rawTypes.get? b with _ | raw
        · simp only [hb] at hstep
          exact Or.inl hstep
        · simp only [hb, Table.get?_put] at hstep
          by_cases hab : a = b
          · rw [if_pos hab] at hstep
            exact Or.inr ⟨hab ▸ List.mem_cons_self, by rw [hab, hb, hstep]⟩
          · rw [if_neg hab] at hstep
            exact Or.inl hstep
      · exact Or.inr ⟨List.mem_cons_of_mem b hmem, hbase⟩

/-- A token of a grown return type was there before, or it is the base return
    type's token of a merged alternative. -/
theorem rawType_grow (own base : ReturnType) (merged : List String) (a token : String)
    (htoken : (ReturnType.grow own base merged).rawTypes.get? a = some token) :
    own.rawTypes.get? a = some token ∨
      (a ∈ merged ∧ base.rawTypes.get? a = some token) :=
  rawType_foldl base merged own.rawTypes a token htoken

variable (base : Method) (origin : MethodRef) (own : Method)

theorem rawType_getD (fallback : ReturnType) (hfallback : fallback.rawTypes = Table.empty)
    (a token : String) (htoken : (own.returnType.getD fallback).rawTypes.get? a = some token) :
    ∃ t, own.returnType = some t ∧ t.rawTypes.get? a = some token := by
  rcases hown : own.returnType with _ | t
  · rw [hown, Option.getD_none, hfallback, Table.get?_empty] at htoken
    contradiction
  · rw [hown, Option.getD_some] at htoken
    exact ⟨t, rfl, htoken⟩

/-- Every token of a return type was there before the last base method, or what
    it needs was handed out with that one. -/
theorem rawType_meet (t : ReturnType) (a token : String)
    (ht : (meet r base origin own).1.returnType = some t)
    (htoken : t.rawTypes.get? a = some token) :
    (∃ t', own.returnType = some t' ∧ t'.rawTypes.get? a = some token) ∨
      ∃ needs, (meet r base origin own).2 = some needs ∧
        ∀ i ∈ (r.resolve token).requirements.imports, i ∈ needs.imports := by
  have hmet := met_meet r base origin own
  generalize meet r base origin own = result at hmet ht ⊢
  cases hmet with
  | noted _ _ => exact Or.inl ⟨t, ht, htoken⟩
  | fluent _ _ =>
      simp only [Option.some_inj] at ht
      rw [← ht] at htoken
      exact Or.inl (rawType_getD own ReturnType.unknown rfl a token htoken)
  | grown baseReturn _ _ _ =>
      simp only [Option.some_inj] at ht
      rw [← ht] at htoken
      -- Tokens of the base method are resolved again, and what they need is
      -- handed out; tokens that the method had before are none of this turn.
      rcases rawType_grow _ _ _ a token htoken with hold | ⟨hmem, hbaseToken⟩
      · exact Or.inl (rawType_getD own ReturnType.unknown rfl a token hold)
      · refine Or.inr ⟨_, rfl, fun i hi => (mem_mergedNeeds r _ _ i).mpr ⟨a, hmem, ?_⟩⟩
        rwa [hbaseToken, Option.getD_some]
  | adopted _ =>
      simp only [adoptThis, Option.some_inj] at ht
      rw [← ht] at htoken
      exact Or.inl (rawType_getD own ReturnType.fluent rfl a token htoken)
  | settled _ _ => exact Or.inl ⟨t, ht, htoken⟩

/-- A merge hands out what the base method's return type needs, unless the
    method comes to return its receiver. -/
theorem needs_meet_of_mentions (token : String) (hmentions : base.ReturnMentions token)
    (hoverload : own.overloadDecision base = .overload)
    (hthis : (meet r base origin own).1.returnText ≠ thisType) :
    ∃ needs, (meet r base origin own).2 = some needs ∧
      ∀ i ∈ (r.resolve token).requirements.imports, i ∈ needs.imports := by
  rcases hmentions with ⟨baseReturn, hbase, a, ha, htoken⟩
  have hmet := met_meet r base origin own
  generalize meet r base origin own = result at hmet hthis ⊢
  cases hmet with
  | noted _ hnone =>
      rw [hbase] at hnone
      contradiction
  | fluent _ _ => exact absurd rfl hthis
  | grown baseReturn' _ hbase' _ =>
      rw [hbase, Option.some_inj] at hbase'
      subst hbase'
      have htext : base.returnText = baseReturn.type := by rw [returnText, hbase]
      refine ⟨_, rfl, fun i hi => (mem_mergedNeeds r _ _ i).mpr ⟨a, ?_, ?_⟩⟩
      · exact (mem_mergedAlternatives _ _ a).mpr (Or.inr (by rwa [htext]))
      · rwa [htoken, Option.getD_some]
  | adopted hadopt =>
      rw [hoverload] at hadopt
      contradiction
  | settled hnot _ => exact absurd hoverload hnot

end Merge

end Method

end Typings
