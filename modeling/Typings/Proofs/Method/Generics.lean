import Mathlib.Data.List.Forall2
import Typings.Proofs.Method.Variants
import Typings.Proofs.Requirements

/-!
# Type Parameters of Subscriptions

The types of a subscription depend on each other. A callback names the type parameter of
what it is bound to if there is a listener, whether the listener stands in front of it or
behind it, and a listener has that type parameter for its type only if there is a callback.
A variant that leaves a parameter out takes away the reason for a type parameter elsewhere.

Each variant is built from the parameters it has, so what it declares and what it mentions
agree again (`Method.IsSubscription`): its type parameters are the types of the parameters
that they stand for, and its callbacks mention no others. A callback asks for a listener
only, and a listener asks for a callback. But where a callback asks it is there itself, so
both come to the same.

## Main definitions

* `Method.HasRole`: A parameter of a method has a role.
* `Method.HasGenericType`: A type parameter stands for a parameter.
* `Method.specialized`: The type that a subscription gives a parameter.
* `Method.IsSubscription`: The signature of a subscription.

## Theorems

* `Subscription.generic?_eq_some_iff`: When a type parameter stands for a parameter.
* `Subscription.type_parameter`: The type of a parameter, by its role.
* `Subscription.isGeneric_iff_generics_ne_nil`: When a subscription is marked for its type
  parameters.
* `Method.isSubscription_buildSubscription`: What is built for an event is a subscription
  to it.
* `Method.declared_buildSubscription`: Nothing is mentioned that is not declared.
* `Method.isSubscription_variants`: All variants of a subscription are subscriptions.
-/

namespace Typings

namespace Subscription

variable (s : Subscription) (r : Resolver) (p : Api.Parameter)

theorem has_eq_true_iff (role : Role) :
    s.has role = true ↔ ∃ p ∈ s.parameters, Role.ofName? p.name = some role := by
  simp only [has, List.any_eq_true, decide_eq_true_eq]

/-- A type parameter stands for custom data, and for a listener if there is a callback. -/
theorem generic?_eq_some_iff (g : String) :
    s.generic? p = some g ↔
      (Role.ofName? p.name = some .customData ∧ g = customDataGeneric) ∨
        (Role.ofName? p.name = some .listener ∧ s.has .callback = true ∧ g = contextGeneric) := by
  rw [generic?]
  rcases Role.ofName? p.name with _ | _ | _ | _ <;> grind

/-- The type of a parameter of a subscription, by its role. -/
theorem type_parameter :
    (s.parameter r p).1.type =
      match Role.ofName? p.name with
      | some .customData => customDataGeneric
      | some .callback => callbackType s.event (s.has .listener) (s.has .customData)
      | some .listener =>
        if s.has .callback then contextGeneric else (r.resolve p.type).rendered
      | none => (r.resolve p.type).rendered := by
  rw [parameter, generic?]
  cases Role.ofName? p.name with
  | none => rfl
  | some role =>
      cases role with
      | customData => rfl
      | callback => rfl
      | listener => cases s.has .callback <;> rfl

theorem type_parameter_of_generic? (g : String) (hg : s.generic? p = some g) :
    (s.parameter r p).1.type = g := by
  rw [parameter, hg]
  rfl

/-- The type parameters of a subscription are the type parameters that stand for its
    parameters. -/
theorem mem_generics (g : String) :
    g ∈ s.generics ↔ ∃ p ∈ s.parameters, s.generic? p = some g := by
  rw [generics, addAllNew_nil, List.mem_eraseDups, List.mem_filterMap]

/-- A subscription is marked for its type parameters exactly if it has any. -/
theorem isGeneric_iff_generics_ne_nil : s.isGeneric = true ↔ s.generics ≠ [] := by
  rw [isGeneric, List.any_eq_true]
  constructor
  · rintro ⟨p, hp, hsome⟩
    rcases Option.isSome_iff_exists.mp hsome with ⟨g, hg⟩
    exact List.ne_nil_of_mem ((s.mem_generics g).mpr ⟨p, hp, hg⟩)
  · intro hne
    rcases List.exists_mem_of_ne_nil _ hne with ⟨g, hmem⟩
    rcases (s.mem_generics g).mp hmem with ⟨p, hp, hg⟩
    exact ⟨p, hp, Option.isSome_of_mem hg⟩

theorem customDataGeneric_mem_generics :
    customDataGeneric ∈ s.generics ↔ s.has .customData = true := by
  rw [mem_generics, has_eq_true_iff]
  -- The two names differ, so the listener has no part in this.
  refine exists_congr fun p => and_congr_right fun _ => ?_
  rw [generic?_eq_some_iff]
  exact ⟨fun h => h.elim And.left fun h => absurd h.2.2 (by decide), fun h => Or.inl ⟨h, rfl⟩⟩

theorem contextGeneric_mem_generics :
    contextGeneric ∈ s.generics ↔ s.has .callback = true ∧ s.has .listener = true := by
  rw [mem_generics, s.has_eq_true_iff .listener]
  constructor
  · rintro ⟨p, hp, hg⟩
    rcases (s.generic?_eq_some_iff p _).mp hg with h | ⟨hrole, hcallback, -⟩
    · exact absurd h.2 (by decide)
    · exact ⟨hcallback, p, hp, hrole⟩
  · rintro ⟨hcallback, p, hp, hrole⟩
    exact ⟨p, hp, (s.generic?_eq_some_iff p _).mpr (Or.inr ⟨hrole, hcallback, rfl⟩)⟩

end Subscription

namespace Method

/-- A parameter of a method has a role. -/
def HasRole (m : Method) (role : Role) : Prop :=
  ∃ p ∈ m.parameters, Role.ofName? p.name = some role

instance (m : Method) (role : Role) : Decidable (m.HasRole role) :=
  inferInstanceAs (Decidable (∃ p ∈ m.parameters, Role.ofName? p.name = some role))

/-- A type parameter stands for a parameter of a method: it takes custom data, or it is the
    listener of a callback. -/
def HasGenericType (m : Method) (p : Parameter) : Prop :=
  Role.ofName? p.name = some .customData ∨
    (Role.ofName? p.name = some .listener ∧ m.HasRole .callback)

instance (m : Method) : DecidablePred m.HasGenericType :=
  fun _ => inferInstanceAs (Decidable (_ ∨ _))

/-- The type that a subscription gives a parameter of a record, among the parameters that
    a method has. -/
def specialized (m : Method) (r : Resolver) (event : Event) (p : Api.Parameter) : String :=
  match Role.ofName? p.name with
  | some .customData => customDataGeneric
  | some .callback =>
    callbackType event (decide (m.HasRole .listener)) (decide (m.HasRole .customData))
  | some .listener =>
    if m.HasRole .callback then contextGeneric else (r.resolve p.type).rendered
  | none => (r.resolve p.type).rendered

/-- A method is the signature of a subscription to an event, with given parameters of its
    record and a documented return value. Its type parameters are those of its parameters'
    types and no others, and its callbacks mention none but these. -/
structure IsSubscription (m : Method) (r : Resolver) (event : Event)
    (parameters : List Api.Parameter) (documented : Option Api.ReturnValue) : Prop where
  names : m.parameters.map (·.name) = parameters.map (·.name)
  types : m.parameters.map (·.type) = parameters.map (m.specialized r event)
  generics_eq :
    m.generics = ((m.parameters.filter (m.HasGenericType ·)).map (·.type)).eraseDups
  nodup : m.generics.Nodup
  customData_mem : customDataGeneric ∈ m.generics ↔ m.HasRole .customData
  context_mem : contextGeneric ∈ m.generics ↔ m.HasRole .callback ∧ m.HasRole .listener
  only : ∀ g ∈ m.generics, g = customDataGeneric ∨ g = contextGeneric
  isGeneric_iff : m.isGeneric = true ↔ m.generics ≠ []
  fluent : m.HasRole .callback → m.returnType = some { type := thisType }
  unknown : ¬m.HasRole .callback → documented = none →
    m.returnType = some { type := anyType, isUnknown := true }
  resolved : ¬m.HasRole .callback → ∀ value, documented = some value →
    m.returnType = some
      { type := (r.resolve value.type).rendered
        description := value.description
        rawTypes := Table.ofList (r.resolve value.type).rawTypes }
  declared : ∀ p ∈ m.parameters,
    p.type ∈ m.generics ∨
      p.type = callbackType event (decide (contextGeneric ∈ m.generics))
        (decide (customDataGeneric ∈ m.generics)) ∨
      ∃ q ∈ parameters, q.name = p.name ∧ p.type = (r.resolve q.type).rendered
  used : ∀ g ∈ m.generics, ∃ p ∈ m.parameters, m.HasGenericType p ∧ p.type = g

section Built

variable (r : Resolver) (raw : Api.Method) (options : BuildOptions) (event : Event)

/-- The parameters of a subscription, and with them their names and types, are made one by
    one from those of the record. -/
theorem parameters_buildSubscription :
    (buildSubscription r raw options event).parameters =
      raw.parameters.map fun p => (Subscription.parameter ⟨event, raw.parameters⟩ r p).1 := by
  rw [buildSubscription, List.map_map]
  rfl

theorem hasRole_buildSubscription (role : Role) :
    (buildSubscription r raw options event).HasRole role ↔
      Subscription.has ⟨event, raw.parameters⟩ role = true := by
  rw [HasRole, parameters_buildSubscription, Subscription.has_eq_true_iff]
  constructor
  · rintro ⟨_, hmem, hrole⟩
    rcases List.mem_map.mp hmem with ⟨p, hp, rfl⟩
    rw [Subscription.name_parameter] at hrole
    exact ⟨p, hp, hrole⟩
  · rintro ⟨p, hp, hrole⟩
    refine ⟨_, List.mem_map_of_mem hp, ?_⟩
    rwa [Subscription.name_parameter]

/-- Parameters have the types that a subscription gives them. -/
theorem specialized_buildSubscription (p : Api.Parameter) :
    (buildSubscription r raw options event).specialized r event p =
      (Subscription.parameter ⟨event, raw.parameters⟩ r p).1.type := by
  rw [Subscription.type_parameter, specialized]
  simp only [hasRole_buildSubscription, Bool.decide_eq_true]

/-- The type parameter that stands for a parameter is the type of that parameter. -/
theorem generic?_eq_ite (p : Api.Parameter) :
    Subscription.generic? ⟨event, raw.parameters⟩ p =
      if (buildSubscription r raw options event).HasGenericType
          (Subscription.parameter ⟨event, raw.parameters⟩ r p).1 then
        some (Subscription.parameter ⟨event, raw.parameters⟩ r p).1.type
      else none := by
  -- A type parameter stands for a parameter by its name, which it keeps when it is built.
  have hgeneric : (buildSubscription r raw options event).HasGenericType
      (Subscription.parameter ⟨event, raw.parameters⟩ r p).1 ↔
      ∃ g, Subscription.generic? ⟨event, raw.parameters⟩ p = some g := by
    rw [HasGenericType, Subscription.name_parameter, hasRole_buildSubscription]
    simp only [Subscription.generic?_eq_some_iff, exists_or, exists_and_left, exists_eq, and_true]
  cases hg : Subscription.generic? ⟨event, raw.parameters⟩ p with
  | none =>
      rw [hg] at hgeneric
      rw [if_neg fun h => nomatch hgeneric.mp h]
  | some g =>
      rw [if_pos (hgeneric.mpr ⟨g, hg⟩), Subscription.type_parameter_of_generic? _ r p g hg]

/-- The type parameters of a subscription are the types of the parameters that they stand
    for, each where it comes first. -/
theorem generics_buildSubscription :
    (buildSubscription r raw options event).generics =
      (((buildSubscription r raw options event).parameters.filter
        ((buildSubscription r raw options event).HasGenericType ·)).map (·.type)).eraseDups := by
  have hgenerics : (buildSubscription r raw options event).generics =
      Subscription.generics ⟨event, raw.parameters⟩ := rfl
  rw [hgenerics, Subscription.generics, addAllNew_nil]
  congr 1
  -- Both lists go through the parameters of the record and agree at each of them.
  rw [parameters_buildSubscription, List.filter_map, List.map_map, ← List.filterMap_eq_filter,
    List.map_filterMap]
  refine List.filterMap_congr fun p _ => ?_
  rw [generic?_eq_ite r raw options event p, Option.guard]
  simp only [Function.comp_apply, decide_eq_true_eq]
  split <;> rfl

/-- A parameter that a type parameter stands for has one that is declared. -/
theorem type_mem_generics_buildSubscription (p : Parameter)
    (hp : p ∈ (buildSubscription r raw options event).parameters)
    (hgeneric : (buildSubscription r raw options event).HasGenericType p) :
    p.type ∈ (buildSubscription r raw options event).generics := by
  rw [generics_buildSubscription, List.mem_eraseDups]
  exact List.mem_map_of_mem (List.mem_filter.mpr ⟨hp, decide_eq_true hgeneric⟩)

theorem customDataGeneric_mem_buildSubscription :
    customDataGeneric ∈ (buildSubscription r raw options event).generics ↔
      (buildSubscription r raw options event).HasRole .customData := by
  rw [hasRole_buildSubscription]
  exact Subscription.customDataGeneric_mem_generics _

theorem contextGeneric_mem_buildSubscription :
    contextGeneric ∈ (buildSubscription r raw options event).generics ↔
      (buildSubscription r raw options event).HasRole .callback ∧
        (buildSubscription r raw options event).HasRole .listener := by
  rw [hasRole_buildSubscription, hasRole_buildSubscription]
  exact Subscription.contextGeneric_mem_generics _

/-- The type of a parameter is a type parameter that is declared, or the type of a callback
    that mentions only those, or it is resolved from its token. -/
theorem declared_buildSubscription (p : Parameter)
    (hp : p ∈ (buildSubscription r raw options event).parameters) :
    p.type ∈ (buildSubscription r raw options event).generics ∨
      p.type = callbackType event
        (decide (contextGeneric ∈ (buildSubscription r raw options event).generics))
        (decide (customDataGeneric ∈ (buildSubscription r raw options event).generics)) ∨
      ∃ q ∈ raw.parameters, q.name = p.name ∧ p.type = (r.resolve q.type).rendered := by
  have hmem := hp
  rw [parameters_buildSubscription] at hmem
  rcases List.mem_map.mp hmem with ⟨q, hq, rfl⟩
  have hname := Subscription.name_parameter ⟨event, raw.parameters⟩ r q
  have htype := Subscription.type_parameter ⟨event, raw.parameters⟩ r q
  -- What is left without a type parameter is a callback, or it is resolved as it was.
  by_cases hgeneric : (buildSubscription r raw options event).HasGenericType
      (Subscription.parameter ⟨event, raw.parameters⟩ r q).1
  · exact Or.inl (type_mem_generics_buildSubscription r raw options event _ hp hgeneric)
  · rw [HasGenericType, hname, hasRole_buildSubscription] at hgeneric
    refine Or.inr ?_
    cases hrole : Role.ofName? q.name with
    | none =>
        rw [hrole] at htype
        exact Or.inr ⟨q, hq, hname.symm, htype⟩
    | some role =>
        rw [hrole] at htype hgeneric
        cases role with
        | customData => exact absurd (Or.inl rfl) hgeneric
        | listener =>
            rw [if_neg fun h => hgeneric (Or.inr ⟨rfl, h⟩)] at htype
            exact Or.inr ⟨q, hq, hname.symm, htype⟩
        | callback =>
            -- This parameter is itself the callback that a listener is bound for.
            have hcallback : (buildSubscription r raw options event).HasRole .callback :=
              ⟨_, hp, hname.symm ▸ hrole⟩
            refine Or.inl (htype.trans ?_)
            simp only [contextGeneric_mem_buildSubscription,
              customDataGeneric_mem_buildSubscription, hcallback, true_and,
              hasRole_buildSubscription, Bool.decide_eq_true]

/-- What is built for an event is a subscription to it. -/
theorem isSubscription_buildSubscription :
    (buildSubscription r raw options event).IsSubscription r event raw.parameters
      raw.returnValue where
  names := by
    rw [parameters_buildSubscription, List.map_map]
    exact List.map_congr_left fun p _ => Subscription.name_parameter _ r p
  types := by
    rw [parameters_buildSubscription, List.map_map]
    exact List.map_congr_left fun p _ =>
      (specialized_buildSubscription r raw options event p).symm
  generics_eq := generics_buildSubscription r raw options event
  nodup := by
    rw [generics_buildSubscription]
    exact nodup_eraseDups _
  customData_mem := customDataGeneric_mem_buildSubscription r raw options event
  context_mem := contextGeneric_mem_buildSubscription r raw options event
  only := by
    intro g hg
    -- Every type parameter stands for some parameter, and there are two that do.
    rcases (Subscription.mem_generics ⟨event, raw.parameters⟩ g).mp hg with ⟨p, _, hp⟩
    rcases (Subscription.generic?_eq_some_iff _ p g).mp hp with ⟨-, rfl⟩ | ⟨-, -, rfl⟩
    · exact Or.inl rfl
    · exact Or.inr rfl
  isGeneric_iff := Subscription.isGeneric_iff_generics_ne_nil ⟨event, raw.parameters⟩
  fluent := by
    intro hcallback
    rw [hasRole_buildSubscription] at hcallback
    simp only [buildSubscription, hcallback, if_true]
    rfl
  unknown := by
    intro hcallback hnone
    rw [hasRole_buildSubscription] at hcallback
    simp only [buildSubscription, hcallback, hnone]
    rfl
  resolved := by
    intro hcallback value hvalue
    rw [hasRole_buildSubscription] at hcallback
    simp only [buildSubscription, hcallback, hvalue]
    rfl
  declared := declared_buildSubscription r raw options event
  used := by
    intro g hg
    rw [generics_buildSubscription, List.mem_eraseDups] at hg
    rcases List.mem_map.mp hg with ⟨p, hp, rfl⟩
    rcases List.mem_filter.mp hp with ⟨hmem, hgeneric⟩
    exact ⟨p, hmem, of_decide_eq_true hgeneric, rfl⟩

end Built

/-- Each variant of a method whose name subscribes to an event is a subscription to it, with
    the parameters that the variant has. -/
theorem isSubscription_variants (owner : Owner) (raw : Api.Method) (options : BuildOptions)
    (event : Event) (hevent : subscribedEvent? raw.name owner.events = some event) :
    List.Forall₂
      (fun parameters v =>
        (parameters.map mandatory).Sublist (raw.parameters.map mandatory) ∧
          v.IsSubscription owner.resolver event parameters raw.returnValue)
      (parameterLists raw.parameters) (variants owner raw options) := by
  rw [variants, List.forall₂_map_right_iff, List.forall₂_same]
  intro parameters hparameters
  refine ⟨sublist_of_mem_parameterLists _ _ hparameters, ?_⟩
  -- The name of the method is that of all its variants, so each is built for the event.
  have hbuild : build owner { raw with parameters := parameters } options =
      buildSubscription owner.resolver { raw with parameters := parameters } options event := by
    rw [build, hevent]
  rw [hbuild]
  exact isSubscription_buildSubscription owner.resolver { raw with parameters := parameters }
    options event

section Example

/-- An owner that fires one event. -/
def resizeOwner : Owner where
  resolver := {}
  events := [{ name := "resize", payloadType := "ResizeEventArgs" }]

/-- A subscription in which two optional parameters stand in front of a mandatory one. -/
def delayedAttach : Api.Method where
  name := "attachResize"
  parameters :=
    [{ name := "oData", type := "object", isOptional := true },
      { name := "fnFunction", type := "function" },
      { name := "oListener", type := "object", isOptional := true },
      { name := "iDelay", type := "int" }]

/-- The variant without custom data has no type parameter for it, and the one without
    listener none for what the callback is bound to. -/
theorem isSubscription_resizeVariants :
    subscribedEvent? delayedAttach.name resizeOwner.events =
        some { name := "resize", payloadType := "ResizeEventArgs" } ∧
      List.Forall₂
        (fun parameters v =>
          (parameters.map mandatory).Sublist (delayedAttach.parameters.map mandatory) ∧
            v.IsSubscription resizeOwner.resolver
              { name := "resize", payloadType := "ResizeEventArgs" } parameters none)
        (parameterLists delayedAttach.parameters) (variants resizeOwner delayedAttach {}) ∧
      (variants resizeOwner delayedAttach {}).map (·.generics) =
        [["Tcontext"], ["TcustomData"], ["TcustomData", "Tcontext"]] ∧
      (variants resizeOwner delayedAttach {}).map (fun v => v.parameters.map (·.type)) =
        [["(this: Tcontext, oEvent: ResizeEventArgs) => void", "Tcontext", "int"],
          ["TcustomData",
            "(this: this, oEvent: ResizeEventArgs, oCustomData?: TcustomData) => void", "int"],
          ["TcustomData",
            "(this: Tcontext, oEvent: ResizeEventArgs, oCustomData?: TcustomData) => void",
            "Tcontext", "int"]] := by
  have hevent : subscribedEvent? delayedAttach.name resizeOwner.events =
      some { name := "resize", payloadType := "ResizeEventArgs" } := by decide
  exact ⟨hevent, isSubscription_variants resizeOwner delayedAttach {} _ hevent,
    by decide +kernel, by decide +kernel⟩

end Example

end Method

end Typings
