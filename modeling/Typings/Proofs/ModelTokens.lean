import Typings.Class
import Typings.Namespace
import Typings.Proofs.ResolvedNames
import Typings.Proofs.Unions

/-!
# The Tokens of a Model

Building a class or a namespace comes to resolving tokens, and what the model depends on
is what these tokens need. Which tokens they are can be read off the symbol, without
resolving anything: a method subscribes to an event because of its name and the names of
the events, and which of its types are made up then is told by the names of its
parameters. So the tokens are the same for all resolvers.

Needs are gathered several times on their way into a model: those of the alternatives of a
token, those of the tokens of an event or of a variant of a method, and those of all of
these in the model. Each time what is there already is left out, at first if it is the
same import, and in the end if it has the same name. But an import that is left out among
the needs of a token or a member has been offered to the model by then, and whatever the
model made of it, it would not take the import again. So nothing is lost by gathering in
between, and the model has the imports that it would have if every import of every token
were offered to it, one after the other.

## Main definitions

* `subscribes`, `isMadeUp`: What the names in a record decide.
* `Method.tokens`: The tokens of a call signature.
* `ClassModel.tokens`, `NamespaceModel.tokens`: The tokens of a symbol.
* `Dependencies.Records`: Dependencies are what some tokens need.

## Theorems

* `isSome_subscribedEvent?`: Which methods subscribe does not depend on the resolver.
* `Method.requirements_build`: A call signature requires what its tokens need.
* `Dependencies.records_absorbAll`: What taking in the needs of tokens comes to.
* `ClassModel.dependencies_build`, `NamespaceModel.dependencies_build`: A model takes in
  what its tokens need.
* `ClassModel.records_dependencies`, `NamespaceModel.records_dependencies`: So it depends on
  that.
* `records_build`: Models depend on what their tokens need.
-/

namespace Typings

/-- Whether the name of a method subscribes to one of some documented events. -/
def subscribes (name : String) (events : List Api.Event) : Bool :=
  match Text.withoutStart? "attach" name with
  | none => false
  | some eventName =>
    !eventName.isEmpty &&
      events.any fun e => Text.lowerAsciiText e.name = Text.lowerAsciiText eventName

/-- Whether some parameter has the name of a callback. -/
def namesCallback (parameters : List Api.Parameter) : Bool :=
  parameters.any fun p => Role.ofName? p.name = some .callback

/-- Whether the type of a parameter is made up in a subscription. That of a listener is only
    if there is a callback to bind. -/
def isMadeUp (parameters : List Api.Parameter) (p : Api.Parameter) : Bool :=
  match Role.ofName? p.name with
  | some .customData => true
  | some .callback => true
  | some .listener => namesCallback parameters
  | none => false

/-- The token of a documented return value. -/
def returnTokens (raw : Api.Method) : List String :=
  (raw.returnValue.map (·.type)).toList

namespace Method

/-- The tokens of a call signature, in order: those of its parameters and that of its return
    value. A subscription has none for the types that are made up, and a constructor has
    none for its return value. -/
def tokens (events : List Api.Event) (options : BuildOptions) (raw : Api.Method) : List String :=
  if subscribes raw.name events then
    (raw.parameters.filter (!isMadeUp raw.parameters ·)).map (·.type) ++
      if namesCallback raw.parameters then [] else returnTokens raw
  else
    raw.parameters.map (·.type) ++ if options.hasNoReturn then [] else returnTokens raw

/-- The records of the variants of a method. -/
def variantRecords (raw : Api.Method) : List Api.Method :=
  (parameterLists raw.parameters).map fun parameters => { raw with parameters := parameters }

end Method

/-- The tokens of a class or an interface, in order: that of its base, those of its events, of
    all variants of its methods and of its constructor, and those of its settings, which
    interfaces do not have. -/
def ClassModel.tokens (kind : ClassKind) (s : Api.Symbol) : List String :=
  (declaredBase s).toList ++ s.events.flatMap (fun e => e.parameters.map (·.type)) ++
    (s.methods.flatMap Method.variantRecords).flatMap (Method.tokens s.events {}) ++
    ((s.construct.map (constructorRecord s.shortName)).toList.flatMap
      Method.variantRecords).flatMap (Method.tokens s.events { hasNoReturn := true }) ++
    if kind = .class then s.settings.map (·.type) else []

/-- The tokens of a namespace, in order: those of all variants of its functions, and those of
    its fields. -/
def NamespaceModel.tokens (s : Api.Symbol) : List String :=
  (s.methods.flatMap Method.variantRecords).flatMap (Method.tokens [] { isForcedStatic := true }) ++
    s.properties.map (·.type)

section Subscribing

variable (r : Resolver)

/-- Whether a method subscribes to an event of its class is told by the names of the
    documented events. -/
theorem isSome_subscribedEvent? (name : String) (events : List Api.Event) :
    (subscribedEvent? name ((events.map (Event.resolve r)).map Prod.fst)).isSome =
      subscribes name events := by
  unfold subscribedEvent? subscribes
  cases Text.withoutStart? "attach" name with
  | none => rfl
  | some eventName =>
      simp only
      cases eventName.isEmpty with
      | true => rfl
      | false =>
          rw [if_neg Bool.false_ne_true, Bool.not_false, Bool.true_and, List.isSome_find?,
            List.map_map, List.any_map]
          rfl

/-- What a parameter of a subscription needs: nothing, if its type is made up. -/
theorem needs_subscription_parameter (s : Subscription) (p : Api.Parameter) :
    (s.parameter r p).2 =
      if isMadeUp s.parameters p then {} else (r.resolve p.type).requirements := by
  have hcallback : s.has .callback = namesCallback s.parameters := rfl
  unfold Subscription.parameter Subscription.generic? isMadeUp
  rw [hcallback]
  cases hrole : Role.ofName? p.name with
  | none => rfl
  | some role =>
      cases role with
      | customData => rfl
      | callback => rfl
      | listener =>
          -- A listener is a parameter like any other if there is no callback.
          cases namesCallback s.parameters <;> rfl

theorem needs_returnType (raw : Api.Method) :
    (ReturnType.resolve r raw.returnValue).2 =
      Requirements.mergeAll
        ((returnTokens raw).map fun token => (r.resolve token).requirements) := by
  rw [returnTokens]
  cases raw.returnValue with
  | none => rfl
  | some value => exact (r.mergeAll_requirements value.type).symm

end Subscribing

namespace Method

variable (r : Resolver) (events : List Api.Event) (options : BuildOptions)

theorem requirements_buildPlain (raw : Api.Method) :
    (buildPlain r raw options).requirements =
      Requirements.mergeAll
        ((raw.parameters.map (·.type) ++ if options.hasNoReturn then [] else returnTokens raw).map
          fun token => (r.resolve token).requirements) := by
  have hparameters : (raw.parameters.map (Parameter.resolve r)).map Prod.snd =
      (raw.parameters.map (·.type)).map fun token => (r.resolve token).requirements := by
    rw [List.map_map, List.map_map]
    rfl
  rw [List.map_append, ← hparameters]
  by_cases hreturn : options.hasNoReturn = true
  · rw [buildPlain, if_pos hreturn, if_pos hreturn, List.map_nil, List.append_nil]
  · rw [buildPlain, if_neg hreturn, if_neg hreturn, Requirements.mergeAll_append,
      ← needs_returnType]

theorem requirements_buildSubscription (raw : Api.Method) (event : Event) :
    (buildSubscription r raw options event).requirements =
      Requirements.mergeAll
        (((raw.parameters.filter (!isMadeUp raw.parameters ·)).map (·.type) ++
          if namesCallback raw.parameters then [] else returnTokens raw).map
            fun token => (r.resolve token).requirements) := by
  have hcallback : Subscription.has ⟨event, raw.parameters⟩ .callback =
      namesCallback raw.parameters := rfl
  -- Parameters whose types are made up can be left out.
  have hparameters : Requirements.mergeAll
      ((raw.parameters.map (Subscription.parameter ⟨event, raw.parameters⟩ r)).map Prod.snd) =
        Requirements.mergeAll
          (((raw.parameters.filter (!isMadeUp raw.parameters ·)).map (·.type)).map
            fun token => (r.resolve token).requirements) := by
    have hneeds := needs_subscription_parameter r ⟨event, raw.parameters⟩
    have hfilter := Requirements.mergeAll_map_filter
      (fun p => (Subscription.parameter ⟨event, raw.parameters⟩ r p).2)
      (!isMadeUp raw.parameters ·) raw.parameters fun p _ hmadeUp => by
        rw [hneeds p, if_pos (Bool.not_eq_false' _ ▸ hmadeUp)]
        rfl
    rw [List.map_map, List.map_map]
    refine hfilter.symm.trans (congrArg _ (List.map_congr_left fun p hp => ?_))
    have hresolved := (List.mem_filter.mp hp).2
    rw [Bool.not_eq_true'] at hresolved
    rw [hneeds p, hresolved, if_neg Bool.false_ne_true]
    rfl
  simp only [buildSubscription, hcallback]
  rw [List.map_append, Requirements.mergeAll_append, hparameters]
  cases namesCallback raw.parameters with
  | true => rfl
  | false =>
      rw [if_neg Bool.false_ne_true, if_neg Bool.false_ne_true, needs_returnType]

/-- A call signature requires what its tokens need. -/
theorem requirements_build (raw : Api.Method) :
    (build { resolver := r, events := (events.map (Event.resolve r)).map Prod.fst } raw
        options).requirements =
      Requirements.mergeAll
        ((tokens events options raw).map fun token => (r.resolve token).requirements) := by
  have hsubscribes := isSome_subscribedEvent? r raw.name events
  unfold build tokens
  cases hevent : subscribedEvent? raw.name ((events.map (Event.resolve r)).map Prod.fst) with
  | none =>
      rw [hevent, Option.isSome_none] at hsubscribes
      rw [← hsubscribes, if_neg Bool.false_ne_true]
      exact requirements_buildPlain r options raw
  | some event =>
      rw [hevent, Option.isSome_some] at hsubscribes
      rw [← hsubscribes, if_pos rfl]
      exact requirements_buildSubscription r options raw event

theorem variants_eq_map (owner : Owner) (raw : Api.Method) :
    variants owner raw options = (variantRecords raw).map fun raw => build owner raw options := by
  rw [variants, variantRecords, List.map_map]
  rfl

/-- The variants of some methods are taken in token by token. -/
theorem absorbAll_variants (d : Dependencies) (raws : List Api.Method) :
    d.absorbAll
        ((raws.flatMap fun raw =>
          variants { resolver := r, events := (events.map (Event.resolve r)).map Prod.fst } raw
            options).map (·.requirements)) =
      d.absorbAll
        (((raws.flatMap variantRecords).flatMap (tokens events options)).map
          fun token => (r.resolve token).requirements) := by
  have hvariants : ((raws.flatMap fun raw =>
      variants { resolver := r, events := (events.map (Event.resolve r)).map Prod.fst } raw
        options).map (·.requirements)) =
      (raws.flatMap variantRecords).map fun raw =>
        Requirements.mergeAll
          ((tokens events options raw).map fun token => (r.resolve token).requirements) := by
    simp only [variants_eq_map]
    rw [← List.map_flatMap]
    refine List.map_map.trans (List.map_congr_left fun raw _ => ?_)
    exact requirements_build r events options raw
  rw [hvariants, Dependencies.absorbAll_map_mergeAll, List.map_flatMap]

end Method

namespace Dependencies

/-- Dependencies are what some tokens need, gathered once. -/
structure Records (d : Dependencies) (r : Resolver) (own tokens : List String) : Prop where
  /-- The imports of every token were offered, one token after the other, to an import list
      that suppresses the own names. -/
  imports : d.imports =
    tokens.foldl (fun imports token => imports.addAll (r.resolve token).requirements.imports)
      (ImportSet.suppressing own)
  /-- That is to say, the import of every name that an alternative of a token stands for. -/
  names : d.imports =
    (ImportSet.suppressing own).addAll
      (tokens.flatMap fun token => (tokensOf token).filterMap fun a => r.importOf? (r.standsFor a))
  /-- What could not be resolved in the tokens is there once, in order. -/
  unresolved : d.unresolved =
    (tokens.flatMap fun token => (r.resolve token).requirements.unresolved).eraseDups

/-- Taking in what tokens need records it. -/
theorem records_absorbAll (r : Resolver) (own tokens : List String) :
    ((suppressing own).absorbAll
      (tokens.map fun token => (r.resolve token).requirements)).Records r own tokens := by
  have hoffered : ∀ set : ImportSet,
      tokens.foldl (fun imports token => imports.addAll (r.resolve token).requirements.imports)
          set =
        set.addAll
          (tokens.flatMap fun token =>
            (tokensOf token).filterMap fun a => r.importOf? (r.standsFor a)) := by
    intro set
    induction tokens generalizing set with
    | nil => rfl
    | cons token rest ih =>
        -- What the alternatives of one token need was gathered before it was offered.
        rw [List.foldl_cons, ih, List.flatMap_cons, ImportSet.addAll_append,
          Resolver.requirements_resolve, ← addAllNew_nil, ImportSet.addAll_addAllNew]
        rfl
  have himports := congrArg imports
    ((suppressing own).absorbAll_eq (tokens.map fun token => (r.resolve token).requirements))
  rw [List.foldl_map] at himports
  refine ⟨himports, himports.trans (hoffered _), ?_⟩
  rw [absorbAll_eq, List.flatMap_map]
  exact addAllNew_nil _

end Dependencies

/-- A class takes in what its tokens need. -/
theorem ClassModel.dependencies_build (r : Resolver) (id : Nat) (kind : ClassKind)
    (library : String) (s : Api.Symbol) :
    (build r id kind library s).dependencies =
      (Dependencies.suppressing [settingsInterfaceName s.shortName, s.shortName]).absorbAll
        ((tokens kind s).map fun token => (r.resolve token).requirements) := by
  have hevents : ∀ d : Dependencies,
      d.absorbAll ((s.events.map (Event.resolve r)).map Prod.snd) =
        d.absorbAll ((s.events.flatMap fun e => e.parameters.map (·.type)).map
          fun token => (r.resolve token).requirements) := by
    intro d
    have hgroups : (s.events.map (Event.resolve r)).map Prod.snd =
        s.events.map fun e => Requirements.mergeAll
          ((e.parameters.map (·.type)).map fun token => (r.resolve token).requirements) := by
      rw [List.map_map]
      refine List.map_congr_left fun e _ => congrArg Requirements.mergeAll ?_
      rw [List.map_map, List.map_map]
      rfl
    rw [hgroups, Dependencies.absorbAll_map_mergeAll, List.map_flatMap]
  have hconstructors : ∀ owner : Owner, buildConstructors owner s =
      (s.construct.map (constructorRecord s.shortName)).toList.flatMap fun raw =>
        Method.variants owner raw { hasNoReturn := true } := by
    intro owner
    rw [buildConstructors]
    cases s.construct with
    | none => rfl
    | some raw => exact (List.flatMap_singleton ..).symm
  have hsettings : (if kind = .class then s.settings.map (setting r) else []).map Prod.snd =
      (if kind = .class then s.settings.map (·.type) else []).map
        fun token => (r.resolve token).requirements := by
    by_cases hkind : kind = .class
    · rw [if_pos hkind, if_pos hkind, List.map_map, List.map_map]
      rfl
    · rw [if_neg hkind, if_neg hkind]
      rfl
  unfold tokens
  simp only [build, hconstructors, hsettings, List.map_append, Dependencies.absorbAll_append,
    hevents, Method.absorbAll_variants]

/-- A namespace takes in what its tokens need. -/
theorem NamespaceModel.dependencies_build (r : Resolver) (library : String) (s : Api.Symbol) :
    (build r library s).dependencies =
      (Dependencies.suppressing [s.shortName]).absorbAll
        ((tokens s).map fun token => (r.resolve token).requirements) := by
  have hmethods := Method.absorbAll_variants r [] { isForcedStatic := true }
    (Dependencies.suppressing [s.shortName]) s.methods
  have hproperties : (s.properties.map (property r)).map Prod.snd =
      (s.properties.map (·.type)).map fun token => (r.resolve token).requirements := by
    rw [List.map_map, List.map_map]
    rfl
  unfold tokens
  rw [List.map_append, Dependencies.absorbAll_append, ← hmethods, ← hproperties,
    ← Dependencies.absorbAll_append]
  rfl

/-- A class or an interface depends on what its tokens need. -/
theorem ClassModel.records_dependencies (r : Resolver) (id : Nat) (kind : ClassKind)
    (library : String) (s : Api.Symbol) :
    (build r id kind library s).dependencies.Records r
      [settingsInterfaceName s.shortName, s.shortName] (tokens kind s) := by
  rw [dependencies_build]
  exact Dependencies.records_absorbAll r _ _

/-- A namespace depends on what its tokens need. -/
theorem NamespaceModel.records_dependencies (r : Resolver) (library : String) (s : Api.Symbol) :
    (build r library s).dependencies.Records r [s.shortName] (tokens s) := by
  rw [dependencies_build]
  exact Dependencies.records_absorbAll r _ _

/-- A class or an interface depends on what its tokens need and on nothing else: its imports
    are those that it has if every import of every token is offered to it, and what it
    could not resolve is what could not be resolved in its tokens. The same holds of a
    namespace. -/
theorem records_build (r : Resolver) (library : String) (s : Api.Symbol) :
    (∀ id kind, (ClassModel.build r id kind library s).dependencies.Records r
        [settingsInterfaceName s.shortName, s.shortName] (ClassModel.tokens kind s)) ∧
      (NamespaceModel.build r library s).dependencies.Records r [s.shortName]
        (NamespaceModel.tokens s) :=
  ⟨fun id kind => ClassModel.records_dependencies r id kind library s,
    NamespaceModel.records_dependencies r library s⟩

/-- Nothing is resolved for the callback of a subscription, and the optional parameter in
    front of it is left out in one of two variants. -/
example :
    ClassModel.tokens .class
      { name := "lib.Box"
        base := some "lib.Base"
        events := [{ name := "press", parameters := [{ name := "event", type := "lib.Event" }] }]
        methods :=
          [{ name := "attachPress"
             parameters :=
              [{ name := "options", type := "lib.Options", isOptional := true },
                { name := "fnFunction", type := "function" }]
             returnValue := some { type := "this" } }] } =
      ["lib.Base", "lib.Event", "lib.Options"] := by
  decide +kernel

end Typings
