import Mathlib.Data.List.Induction
import Mathlib.Data.List.InsertIdx
import Typings.Proofs.Method.Subscribing

/-!
# Which Variants a Method Has

The parameter lists of the variants come out of a loop: as long as an optional parameter
stands in front of the last mandatory one, the first of them is left out once and is
mandatory from then on. What the loop has done so far cannot be told from what is in front
of the last mandatory parameter, as soon as everything there is made mandatory. So all
variants can be read off the documented list at once: there is one for each parameter that
is misplaced, which leaves it out, and one that leaves nothing out, and in each of them
everything up to the last mandatory parameter is mandatory.

The invariant is the place of the last mandatory parameter. A step changes only what
stands in front of it.

## Main definitions

* `placesOf`: The places of the parameters of a kind.
* `lastMandatory?`: The place of the last mandatory parameter.
* `misplacedPlaces`: The places of the optional parameters in front of it.
* `mandatoryUpToLast`: The list in which everything in front of it is mandatory.
* `IsOrdered`: Optional parameters stand behind mandatory ones.
* `Method.builtParameter`: What a method makes of a parameter of its record.

## Theorems

* `placesOf_modify`: A step takes the first place off the list.
* `misplaced?_append`: What a step looks for.
* `parameterListsFrom_append`: All lists that the loop leads to.
* `parameterLists_eq`: The parameter lists of all variants.
* `sublist_of_mem_parameterLists`: Variants have parameters of the record.
* `Method.parameters_build`: Where the parameters of a method come from.
* `Method.variants_eq`: The variants of a method.
-/

namespace Typings

section Places

variable (q : Api.Parameter → Bool)

/-- The places of the parameters of a kind, in order. -/
def placesOf (q : Api.Parameter → Bool) (parameters : List Api.Parameter) : List Nat :=
  (List.range parameters.length).filter fun i => parameters[i]?.any q

theorem placesOf_cons (p : Api.Parameter) (rest : List Api.Parameter) :
    placesOf q (p :: rest) = (if q p then [0] else []) ++ (placesOf q rest).map Nat.succ := by
  rw [placesOf, List.length_cons, List.range_succ_eq_map, List.filter_cons, List.filter_map,
    List.getElem?_cons_zero, Option.any_some]
  by_cases hp : q p = true
  · rw [if_pos hp, if_pos hp]
    rfl
  · rw [if_neg hp, if_neg hp]
    rfl

theorem placesOf_append (front back : List Api.Parameter) :
    placesOf q (front ++ back) =
      placesOf q front ++ (placesOf q back).map (· + front.length) := by
  induction front with
  | nil => exact (List.map_id _).symm
  | cons p rest ih =>
      rw [List.cons_append, placesOf_cons, ih, placesOf_cons, List.map_append, List.map_map,
        List.append_assoc]
      rfl

theorem placesOf_eq_nil_iff (parameters : List Api.Parameter) :
    placesOf q parameters = [] ↔ ∀ p ∈ parameters, q p = false := by
  induction parameters with
  | nil => exact ⟨fun _ => nofun, fun _ => rfl⟩
  | cons p rest ih =>
      rw [placesOf_cons, List.append_eq_nil_iff, List.map_eq_nil_iff, ih, List.forall_mem_cons]
      refine and_congr_left fun _ => ?_
      cases q p with
      | true => exact ⟨nofun, nofun⟩
      | false => exact ⟨fun _ => rfl, fun _ => rfl⟩

/-- The first place of optional parameters is gone once that parameter is mandatory, and the
    others are still there. -/
theorem placesOf_modify (parameters : List Api.Parameter)
    (hfirst : parameters.findIdx (·.isOptional) < parameters.length) :
    placesOf (·.isOptional) parameters =
      parameters.findIdx (·.isOptional) ::
        placesOf (·.isOptional)
          (parameters.modify (parameters.findIdx (·.isOptional)) mandatory) := by
  induction parameters with
  | nil => exact absurd hfirst (Nat.not_lt_zero _)
  | cons p rest ih =>
      rw [List.findIdx_cons] at hfirst ⊢
      cases hp : p.isOptional with
      | true =>
          rw [cond_true, List.modify_zero_cons, placesOf_cons, placesOf_cons, hp]
          rfl
      | false =>
          rw [hp, cond_false, List.length_cons, Nat.succ_lt_succ_iff] at hfirst
          rw [cond_false, List.modify_succ_cons, placesOf_cons, placesOf_cons, hp, ih hfirst]
          rfl

end Places

section Lists

/-- The place of the last mandatory parameter, if there is one. -/
def lastMandatory? (parameters : List Api.Parameter) : Option Nat :=
  (placesOf (!·.isOptional) parameters).getLast?

/-- The places of the optional parameters in front of the last mandatory one, in order. -/
def misplacedPlaces (parameters : List Api.Parameter) : List Nat :=
  match lastMandatory? parameters with
  | none => []
  | some last => placesOf (·.isOptional) (parameters.take last)

/-- The parameters with all of those up to the last mandatory one mandatory. -/
def mandatoryUpToLast (parameters : List Api.Parameter) : List Api.Parameter :=
  match lastMandatory? parameters with
  | none => parameters
  | some last => mandatoryBefore last parameters

/-- No optional parameter stands in front of a mandatory one, given which ones are
    optional. -/
def IsOrdered (optional : List Bool) : Prop :=
  optional.Pairwise fun p q => p = true → q = true

/-- Parameters are all optional, or there is a last mandatory one among them. -/
theorem exists_last_mandatory (parameters : List Api.Parameter) :
    (∀ p ∈ parameters, p.isOptional = true) ∨
      ∃ front p back, parameters = front ++ p :: back ∧ p.isOptional = false ∧
        ∀ b ∈ back, b.isOptional = true := by
  -- From the back, the first mandatory parameter that is met is the last one.
  induction parameters using List.reverseRecOn with
  | nil => exact Or.inl nofun
  | append_singleton parameters last ih =>
      cases hlast : last.isOptional with
      | false => exact Or.inr ⟨parameters, last, [], rfl, hlast, nofun⟩
      | true =>
          have hboth : ∀ back : List Api.Parameter, (∀ b ∈ back, b.isOptional = true) →
              ∀ b ∈ back ++ [last], b.isOptional = true := by
            intro back hback b hb
            rcases List.mem_append.mp hb with hb | hb
            · exact hback b hb
            · rwa [List.mem_singleton.mp hb]
          rcases ih with hall | ⟨front, p, back, rfl, hp, hback⟩
          · exact Or.inl (hboth parameters hall)
          · refine Or.inr ⟨front, p, back ++ [last], ?_, hp, hboth back hback⟩
            rw [List.append_assoc, List.cons_append]

theorem lastMandatory?_of_optional (parameters : List Api.Parameter)
    (hall : ∀ p ∈ parameters, p.isOptional = true) : lastMandatory? parameters = none := by
  rw [lastMandatory?, (placesOf_eq_nil_iff ..).mpr, List.getLast?_nil]
  intro p hp
  rw [hall p hp]
  rfl

/-- Nothing is misplaced among optional parameters. -/
theorem misplaced?_of_optional (parameters : List Api.Parameter)
    (hall : ∀ p ∈ parameters, p.isOptional = true) : misplaced? parameters = none := by
  -- Looked for from the back, no mandatory parameter is found.
  have hbehind : parameters.reverse.findIdx (!·.isOptional) = parameters.length := by
    rw [← List.length_reverse, List.findIdx_eq_length]
    intro p hp
    rw [hall p (List.mem_reverse.mp hp)]
    rfl
  rw [misplaced?, hbehind]
  exact if_neg fun h => absurd h.1 (Nat.lt_irrefl _)

theorem mandatoryBefore_append (front back : List Api.Parameter) :
    mandatoryBefore front.length (front ++ back) = front.map mandatory ++ back := by
  rw [mandatoryBefore, List.take_left', List.drop_left']
  · rfl
  · rfl

theorem modify_append (front back : List Api.Parameter) (i : Nat) (hi : i < front.length) :
    (front ++ back).modify i mandatory = front.modify i mandatory ++ back := by
  have hlonger : i < (front ++ back).length := by
    rw [List.length_append]
    exact Nat.lt_add_right _ hi
  rw [List.modify_eq_take_cons_drop hlonger, List.modify_eq_take_cons_drop hi,
    List.take_append_of_le_length (Nat.le_of_lt hi), List.getElem_append_left hi,
    List.drop_append_of_le_length hi, List.append_assoc, List.cons_append]

theorem map_mandatory_of_placesOf (parameters : List Api.Parameter)
    (hnone : placesOf (·.isOptional) parameters = []) : parameters.map mandatory = parameters := by
  refine (List.map_congr_left fun p hp => ?_).trans (List.map_id parameters)
  rw [mandatory, ← (placesOf_eq_nil_iff ..).mp hnone p hp]
  rfl

theorem map_mandatory_modify (parameters : List Api.Parameter) (i : Nat) :
    (parameters.modify i mandatory).map mandatory = parameters.map mandatory := by
  induction parameters generalizing i with
  | nil => rw [List.modify_nil]
  | cons p rest ih =>
      cases i with
      | zero => rfl
      | succ i => rw [List.modify_succ_cons, List.map_cons, List.map_cons, ih]

section Split

variable (front back : List Api.Parameter) (p : Api.Parameter) (hp : p.isOptional = false)
  (hback : ∀ b ∈ back, b.isOptional = true)

include hp hback

theorem lastMandatory?_append : lastMandatory? (front ++ p :: back) = some front.length := by
  have hlast : placesOf (!·.isOptional) (p :: back) = [0] := by
    have hnone : placesOf (!·.isOptional) back = [] := by
      refine (placesOf_eq_nil_iff ..).mpr fun b hb => ?_
      rw [hback b hb]
      rfl
    rw [placesOf_cons, hnone, hp]
    rfl
  rw [lastMandatory?, placesOf_append, hlast, List.map_singleton, List.getLast?_concat,
    Nat.zero_add]

theorem misplacedPlaces_append :
    misplacedPlaces (front ++ p :: back) = placesOf (·.isOptional) front := by
  rw [misplacedPlaces, lastMandatory?_append front back p hp hback]
  simp only [List.take_left']

theorem mandatoryUpToLast_append :
    mandatoryUpToLast (front ++ p :: back) = front.map mandatory ++ p :: back := by
  rw [mandatoryUpToLast, lastMandatory?_append front back p hp hback]
  exact mandatoryBefore_append front (p :: back)

/-- A step looks for the first optional parameter in front of the last mandatory one. -/
theorem misplaced?_append :
    misplaced? (front ++ p :: back) =
      if front.findIdx (·.isOptional) < front.length then
        some (front.findIdx (·.isOptional), front.length)
      else none := by
  -- From the back, nothing but optional parameters comes before the last mandatory one.
  have hbehind : (front ++ p :: back).reverse.findIdx (!·.isOptional) = back.length := by
    have hnone : back.reverse.findIdx (!·.isOptional) = back.length := by
      rw [← List.length_reverse, List.findIdx_eq_length]
      intro b hb
      rw [hback b (List.mem_reverse.mp hb)]
      rfl
    rw [List.reverse_append, List.reverse_cons, List.append_assoc, List.findIdx_append,
      List.length_reverse, hnone, if_neg (Nat.lt_irrefl _), List.singleton_append,
      List.findIdx_cons, hp]
    exact Nat.zero_add _
  have hlength : (front ++ p :: back).length - 1 - back.length = front.length := by
    rw [List.length_append, List.length_cons]
    omega
  have hshorter : back.length < (front ++ p :: back).length := by
    rw [List.length_append, List.length_cons]
    omega
  rw [misplaced?, hbehind, hlength, List.findIdx_append]
  by_cases hfirst : front.findIdx (·.isOptional) < front.length
  · rw [if_pos hfirst, if_pos hfirst]
    exact if_pos ⟨hshorter, hfirst⟩
  · rw [if_neg hfirst, if_neg hfirst]
    exact if_neg fun h => absurd h.2 (Nat.not_lt.mpr (Nat.le_add_left ..))

/-- All lists that the loop leads to, from any list on. Enough steps are as many as there
    are misplaced parameters. -/
theorem parameterListsFrom_append (fuel : Nat)
    (hfuel : (placesOf (·.isOptional) front).length ≤ fuel) :
    parameterListsFrom fuel (front ++ p :: back) =
      (placesOf (·.isOptional) front).map (front.map mandatory ++ p :: back).eraseIdx ++
        [front.map mandatory ++ p :: back] := by
  induction fuel generalizing front with
  | zero =>
      have hnone := List.length_eq_zero_iff.mp (Nat.le_zero.mp hfuel)
      rw [hnone, map_mandatory_of_placesOf front hnone]
      rfl
  | succ fuel ih =>
      rw [parameterListsFrom, misplaced?_append front back p hp hback]
      by_cases hfirst : front.findIdx (·.isOptional) < front.length
      · -- What is in front is shorter by one place, and made mandatory it is the same as before.
        have hplaces := placesOf_modify front hfirst
        rw [hplaces, List.length_cons, Nat.succ_le_succ_iff] at hfuel
        rw [if_pos hfirst]
        simp only
        rw [modify_append _ _ _ hfirst, ih _ hfuel, map_mandatory_modify,
          mandatoryBefore_append, hplaces, List.map_cons, List.cons_append]
      · -- Nothing is misplaced any more, and the loop ends with the list as it is.
        have hnone : placesOf (·.isOptional) front = [] := by
          refine (placesOf_eq_nil_iff ..).mpr fun b hb => ?_
          by_contra hoptional
          exact hfirst (List.findIdx_lt_length.mpr ⟨b, hb, Bool.not_eq_false _ ▸ hoptional⟩)
        rw [if_neg hfirst, hnone, map_mandatory_of_placesOf front hnone]
        rfl

end Split

/-- The parameter lists of all variants: one leaves out a misplaced parameter, for each of
    them in turn, and the last one has all parameters. -/
theorem parameterLists_eq (parameters : List Api.Parameter) :
    parameterLists parameters =
      (misplacedPlaces parameters).map (mandatoryUpToLast parameters).eraseIdx ++
        [mandatoryUpToLast parameters] := by
  rcases exists_last_mandatory parameters with hall | ⟨front, p, back, rfl, hp, hback⟩
  · rw [parameterLists, misplacedPlaces, mandatoryUpToLast,
      lastMandatory?_of_optional parameters hall]
    cases parameters.length with
    | zero => rfl
    | succ fuel =>
        rw [parameterListsFrom, misplaced?_of_optional parameters hall]
        rfl
  · -- No more parameters are misplaced than there are, so there are steps enough.
    have hfuel : (placesOf (·.isOptional) front).length ≤ (front ++ p :: back).length := by
      have hplaces : (placesOf (·.isOptional) front).length ≤ (List.range front.length).length :=
        List.length_filter_le ..
      rw [List.length_range] at hplaces
      rw [List.length_append]
      exact Nat.le_add_right_of_le hplaces
    rw [parameterLists, parameterListsFrom_append front back p hp hback _ hfuel,
      misplacedPlaces_append front back p hp hback, mandatoryUpToLast_append front back p hp hback]

example :
    (parameterLists [{ name := "a" }, { name := "b", isOptional := true }, { name := "c" },
        { name := "d", isOptional := true }]).map (List.map fun p => (p.name, p.isOptional)) =
      [[("a", false), ("c", false), ("d", true)],
        [("a", false), ("b", false), ("c", false), ("d", true)]] := by
  decide

/-- Making parameters mandatory leaves everything about them that does not depend on whether
    they are optional. -/
theorem map_mandatoryUpToLast {α : Type} (f : Api.Parameter → α)
    (hf : ∀ p, f (mandatory p) = f p) (parameters : List Api.Parameter) :
    (mandatoryUpToLast parameters).map f = parameters.map f := by
  rw [mandatoryUpToLast]
  cases lastMandatory? parameters with
  | none => rfl
  | some last =>
      have hfront : ((parameters.take last).map mandatory).map f = (parameters.take last).map f := by
        rw [List.map_map]
        exact List.map_congr_left fun p _ => hf p
      show (mandatoryBefore last parameters).map f = parameters.map f
      rw [mandatoryBefore, List.map_append, hfront, ← List.map_append, List.take_append_drop]

theorem names_mandatoryUpToLast (parameters : List Api.Parameter) :
    (mandatoryUpToLast parameters).map (·.name) = parameters.map (·.name) :=
  map_mandatoryUpToLast _ (fun _ => rfl) parameters

/-- The parameters of a variant are among those of the record, in the same order, up to
    which of them are optional. -/
theorem sublist_of_mem_parameterLists (all parameters : List Api.Parameter)
    (h : parameters ∈ parameterLists all) :
    (parameters.map mandatory).Sublist (all.map mandatory) := by
  rw [parameterLists_eq] at h
  rw [← map_mandatoryUpToLast mandatory (fun _ => rfl) all]
  rcases List.mem_append.mp h with h | h
  · rcases List.mem_map.mp h with ⟨i, _, rfl⟩
    exact (List.eraseIdx_sublist ..).map mandatory
  · rcases List.mem_singleton.mp h with rfl
    exact List.Sublist.refl _

/-- In a list in which everything up to the last mandatory parameter is mandatory, no
    optional parameter stands in front of a mandatory one. -/
theorem isOrdered_mandatoryUpToLast (parameters : List Api.Parameter) :
    IsOrdered ((mandatoryUpToLast parameters).map (·.isOptional)) := by
  rcases exists_last_mandatory parameters with hall | ⟨front, p, back, rfl, hp, hback⟩
  · rw [mandatoryUpToLast, lastMandatory?_of_optional parameters hall, IsOrdered,
      List.pairwise_map]
    exact List.pairwise_of_forall_mem_list fun _ _ b hb _ => hall b hb
  · rw [mandatoryUpToLast_append front back p hp hback, IsOrdered, List.pairwise_map,
      List.pairwise_append]
    have hfront : ∀ a ∈ front.map mandatory, a.isOptional = false := by
      intro a ha
      rcases List.mem_map.mp ha with ⟨_, _, rfl⟩
      rfl
    -- Up to the last mandatory parameter nothing is optional, so nothing is asked for there.
    have hnever : ∀ a ∈ front.map mandatory, ∀ b : Api.Parameter,
        a.isOptional = true → b.isOptional = true := by
      intro a ha b hoptional
      rw [hfront a ha] at hoptional
      contradiction
    refine ⟨List.pairwise_of_forall_mem_list fun a ha b _ => hnever a ha b, ?_,
      fun a ha b _ => hnever a ha b⟩
    exact List.pairwise_cons.mpr ⟨fun b hb _ => hback b hb,
      List.pairwise_of_forall_mem_list fun _ _ b hb _ => hback b hb⟩

end Lists

namespace Method

variable (owner : Owner) (raw : Api.Method) (options : BuildOptions)

/-- What a method makes of a parameter of its record. -/
def builtParameter (p : Api.Parameter) : Parameter :=
  match subscribedEvent? raw.name owner.events with
  | some event => (Subscription.parameter ⟨event, raw.parameters⟩ owner.resolver p).1
  | none => (Parameter.resolve owner.resolver p).1

/-- The parameters of a method are made one by one from those of its record. -/
theorem parameters_build :
    (build owner raw options).parameters = raw.parameters.map (builtParameter owner raw) := by
  have hbuilt : builtParameter owner raw = fun p =>
      match subscribedEvent? raw.name owner.events with
      | some event => (Subscription.parameter ⟨event, raw.parameters⟩ owner.resolver p).1
      | none => (Parameter.resolve owner.resolver p).1 := rfl
  -- However a method is built, its parameters are made by a map over those of its record.
  rw [build, hbuilt]
  rcases subscribedEvent? raw.name owner.events with _ | event
  · by_cases hreturn : options.hasNoReturn = true
    · rw [buildPlain, if_pos hreturn]
      exact List.map_map
    · rw [buildPlain, if_neg hreturn]
      exact List.map_map
  · exact List.map_map

/-- A parameter is given a type and a token, and nothing else of it changes. -/
theorem exists_builtParameter_eq (p : Api.Parameter) :
    ∃ type rawType,
      builtParameter owner raw p = { Parameter.ofType p type with rawType := rawType } := by
  rw [builtParameter]
  rcases subscribedEvent? raw.name owner.events with _ | event
  · exact ⟨_, p.type, rfl⟩
  · exact Subscription.exists_parameter_eq ⟨event, raw.parameters⟩ owner.resolver p

/-- A method has the parameters of its record, in the same order, and the same ones are
    optional, whether or not it subscribes to an event. -/
theorem map_parameters_build :
    (build owner raw options).parameters.map (fun p => (p.name, p.isOptional)) =
      raw.parameters.map fun p => (p.name, p.isOptional) := by
  rw [parameters_build, List.map_map]
  refine List.map_congr_left fun p _ => ?_
  rcases exists_builtParameter_eq owner raw p with ⟨type, rawType, hparameter⟩
  rw [Function.comp_apply, hparameter]
  rfl

theorem names_build :
    (build owner raw options).parameters.map (·.name) = raw.parameters.map (·.name) := by
  have hnames := congrArg (List.map Prod.fst) (map_parameters_build owner raw options)
  rwa [List.map_map, List.map_map] at hnames

theorem optional_build :
    (build owner raw options).parameters.map (·.isOptional) =
      raw.parameters.map (·.isOptional) := by
  have hoptional := congrArg (List.map Prod.snd) (map_parameters_build owner raw options)
  rwa [List.map_map, List.map_map] at hoptional

/-- The variants of a method can be read off its record. For each optional parameter in
    front of the last mandatory one, in order, there is one that leaves it out, and behind
    them comes one that has all parameters. In each of them everything up to the last
    mandatory parameter is mandatory. So parameters keep their names and their order, and no
    optional parameter stands in front of a mandatory one. -/
theorem variants_eq :
    variants owner raw options =
        (misplacedPlaces raw.parameters).map (fun i =>
            build owner
              { raw with parameters := (mandatoryUpToLast raw.parameters).eraseIdx i } options) ++
          [build owner { raw with parameters := mandatoryUpToLast raw.parameters } options] ∧
      (variants owner raw options).length = (misplacedPlaces raw.parameters).length + 1 ∧
      (variants owner raw options).map (fun v => v.parameters.map (·.name)) =
        (misplacedPlaces raw.parameters).map (raw.parameters.map (·.name)).eraseIdx ++
          [raw.parameters.map (·.name)] ∧
      ∀ v ∈ variants owner raw options, IsOrdered (v.parameters.map (·.isOptional)) := by
  have hvariants : variants owner raw options =
      (misplacedPlaces raw.parameters).map (fun i =>
          build owner
            { raw with parameters := (mandatoryUpToLast raw.parameters).eraseIdx i } options) ++
        [build owner { raw with parameters := mandatoryUpToLast raw.parameters } options] := by
    rw [variants, parameterLists_eq, List.map_append, List.map_map]
    rfl
  refine ⟨hvariants, ?_, ?_, ?_⟩
  · rw [hvariants, List.length_append, List.length_map, List.length_singleton]
  · rw [hvariants, List.map_append, List.map_map, List.map_singleton, names_build,
      names_mandatoryUpToLast]
    refine congrArg (· ++ _) (List.map_congr_left fun i _ => ?_)
    rw [Function.comp_apply, names_build, ← List.eraseIdx_map, names_mandatoryUpToLast]
  · have hordered := isOrdered_mandatoryUpToLast raw.parameters
    intro v hv
    rw [hvariants] at hv
    rcases List.mem_append.mp hv with hv | hv
    · -- Leaving a parameter out does not change the order of the others.
      rcases List.mem_map.mp hv with ⟨i, _, rfl⟩
      rw [optional_build, ← List.eraseIdx_map]
      exact hordered.sublist (List.eraseIdx_sublist ..)
    · rw [List.mem_singleton.mp hv, optional_build]
      exact hordered

end Method

end Typings
