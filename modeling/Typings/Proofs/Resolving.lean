import Typings.Hierarchy.Propagate
import Typings.Namespace
import Typings.Proofs.Resolve

/-!
# What Models Ask of a Resolver

Models resolve tokens, and that is all they do with a resolver. So two resolvers
that give every token the same text, and the same needs, make the same models of
the same records, and carry the same methods.

## Theorems

* `ClassModel.build_of_resolve`, `NamespaceModel.build_of_resolve`: The same
  models.
* `ClassModel.carryFrom_of_resolve`: The same methods carried.
-/

namespace Typings

variable {r r' : Resolver} (h : r.resolve = r'.resolve)

include h

theorem Parameter.resolve_of_resolve : Parameter.resolve r = Parameter.resolve r' := by
  funext raw
  rw [Parameter.resolve, Parameter.resolve, h]

theorem Event.resolve_of_resolve : Event.resolve r = Event.resolve r' := by
  funext raw
  rw [Event.resolve, Event.resolve, Parameter.resolve_of_resolve h]

theorem ReturnType.resolve_of_resolve : ReturnType.resolve r = ReturnType.resolve r' := by
  funext value
  simp only [ReturnType.resolve, h]

theorem Subscription.parameter_of_resolve (s : Subscription) : s.parameter r = s.parameter r' := by
  funext raw
  rw [Subscription.parameter, Subscription.parameter, Parameter.resolve_of_resolve h]

namespace Method

theorem buildPlain_of_resolve : buildPlain r = buildPlain r' := by
  funext raw options
  rw [buildPlain, buildPlain, Parameter.resolve_of_resolve h, ReturnType.resolve_of_resolve h]

theorem buildSubscription_of_resolve : buildSubscription r = buildSubscription r' := by
  funext raw options event
  simp only [buildSubscription, Subscription.parameter_of_resolve h,
    ReturnType.resolve_of_resolve h]

theorem variants_of_resolve (events : List Event) :
    variants { resolver := r, events := events } =
      variants { resolver := r', events := events } := by
  have hbuild : build { resolver := r, events := events } =
      build { resolver := r', events := events } := by
    funext raw options
    rw [build, build, buildPlain_of_resolve h, buildSubscription_of_resolve h]
  funext raw options
  rw [variants, variants, hbuild]

theorem mergedNeeds_of_resolve : mergedNeeds r = mergedNeeds r' := by
  funext base merged
  rw [mergedNeeds, mergedNeeds, h]

theorem meet_of_resolve : meet r = meet r' := by
  funext base origin own
  have hmerge : own.mergeBase base origin r = own.mergeBase base origin r' := by
    rw [mergeBase, mergeBase, mergedNeeds_of_resolve h]
  rw [meet, meet, hmerge]

end Method

/-- A class is built with what its tokens resolve to. -/
theorem ClassModel.build_of_resolve : ClassModel.build r = ClassModel.build r' := by
  have hsetting : ClassModel.setting r = ClassModel.setting r' := by
    funext raw
    rw [setting, setting, h]
  -- The owner of a method is made anew for every class, so the variants have to
  -- agree for all events.
  have hconstructors : ∀ events s,
      buildConstructors { resolver := r, events := events } s =
        buildConstructors { resolver := r', events := events } s := by
    intro events s
    rw [buildConstructors, buildConstructors, Method.variants_of_resolve h]
  funext id kind library s
  simp only [ClassModel.build, Event.resolve_of_resolve h, Method.variants_of_resolve h,
    hconstructors, hsetting, h]

/-- A namespace is built with what its tokens resolve to. -/
theorem NamespaceModel.build_of_resolve : NamespaceModel.build r = NamespaceModel.build r' := by
  have hproperty : NamespaceModel.property r = NamespaceModel.property r' := by
    funext raw
    rw [property, property, h]
  funext library s
  simp only [NamespaceModel.build, Method.variants_of_resolve h, hproperty]

/-- Base methods are carried with what their tokens resolve to. -/
theorem ClassModel.carryFrom_of_resolve : ClassModel.carryFrom r = ClassModel.carryFrom r' := by
  have hmeet : Carrying.meet r = Carrying.meet r' := by
    funext baseId c base
    rw [Carrying.meet, Carrying.meet, Method.meet_of_resolve h]
  funext base c baseId
  rw [carryFrom, carryFrom, Carrying.meetAll, Carrying.meetAll, hmeet]

end Typings
