import Typings.Method.Variants

/-!
# Methods That Take Callbacks

Nothing about a method says afterwards that it was built as a subscription. But its
name is kept, and the names of its parameters are, and these are what the decision was
made on. So a method of a class takes callbacks for an event if its name subscribes to
the event among those of the class, and the parameter with the name of a callback has
the type that was made up for it. That type names the payload of the event, and the
parameter has no token, so nothing that the method requires stands for the payload.

## Main definitions

* `Method.TakesCallback`: A parameter of a method is a callback for an event.

## Theorems

* `mem_of_subscribedEvent?`: Methods subscribe to events of their owner.
* `Method.exists_callbackType`: The type of a callback.
-/

namespace Typings

/-- Methods subscribe to events of their owner. -/
theorem mem_of_subscribedEvent? (name : String) (events : List Event) (e : Event)
    (h : subscribedEvent? name events = some e) : e ∈ events := by
  rw [subscribedEvent?] at h
  cases hname : Text.withoutStart? "attach" name with
  | none =>
      rw [hname] at h
      contradiction
  | some eventName =>
      simp only [hname] at h
      by_cases hempty : eventName.isEmpty = true
      · rw [if_pos hempty] at h
        contradiction
      · rw [if_neg hempty] at h
        exact List.mem_of_find?_eq_some h

namespace Method

/-- A parameter of a method of a class with some events is a callback for one of them. -/
def TakesCallback (m : Method) (events : List Event) (e : Event) (p : Parameter) : Prop :=
  subscribedEvent? m.name events = some e ∧ p ∈ m.parameters ∧
    Role.ofName? p.name = some .callback

instance (m : Method) (events : List Event) (e : Event) (p : Parameter) :
    Decidable (m.TakesCallback events e p) :=
  inferInstanceAs (Decidable (_ ∧ _))

theorem name_build (owner : Owner) (raw : Api.Method) (options : BuildOptions) :
    (build owner raw options).name = raw.name := by
  rw [build]
  cases subscribedEvent? raw.name owner.events with
  | some e => rfl
  | none =>
      rw [buildPlain]
      cases options.hasNoReturn <;> rfl

end Method

/-- The parameter of a subscription that has the name of a callback has its type. -/
theorem Subscription.parameter_of_callback (s : Subscription) (r : Resolver) (p : Api.Parameter)
    (hrole : Role.ofName? p.name = some .callback) :
    s.parameter r p =
      (Parameter.ofType p (callbackType s.event (s.has .listener) (s.has .customData)), {}) := by
  have hgeneric : s.generic? p = none := by
    rw [generic?, hrole]
  rw [parameter, hgeneric]
  exact if_pos hrole

/-- A subscription gives a parameter another type and nothing else. -/
theorem Subscription.exists_parameter_eq (s : Subscription) (r : Resolver) (p : Api.Parameter) :
    ∃ type rawType,
      (s.parameter r p).1 = { Parameter.ofType p type with rawType := rawType } := by
  rw [parameter]
  cases s.generic? p with
  | some generic => exact ⟨generic, "", rfl⟩
  | none =>
      by_cases hrole : Role.ofName? p.name = some .callback
      · simp only [if_pos hrole]
        exact ⟨_, "", rfl⟩
      · simp only [if_neg hrole]
        exact ⟨_, p.type, rfl⟩

theorem Subscription.name_parameter (s : Subscription) (r : Resolver) (p : Api.Parameter) :
    (s.parameter r p).1.name = p.name := by
  rcases s.exists_parameter_eq r p with ⟨type, rawType, hparameter⟩
  rw [hparameter]
  rfl

namespace Method

/-- A callback has the type that was made up for its event, and no token. -/
theorem exists_callbackType (owner : Owner) (raw : Api.Method) (options : BuildOptions)
    (e : Event) (p : Parameter)
    (h : (build owner raw options).TakesCallback owner.events e p) :
    ∃ hasListener hasCustomData, p.type = callbackType e hasListener hasCustomData ∧
      p.rawType = "" := by
  rcases h with ⟨hevent, hp, hrole⟩
  rw [name_build] at hevent
  rw [build, hevent] at hp
  rcases List.mem_map.mp hp with ⟨q, hq, rfl⟩
  rcases List.mem_map.mp hq with ⟨raw', _, rfl⟩
  rw [Subscription.name_parameter] at hrole
  rw [Subscription.parameter_of_callback _ _ _ hrole]
  exact ⟨_, _, rfl, rfl⟩

end Method

end Typings
