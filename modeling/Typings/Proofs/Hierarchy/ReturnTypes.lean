import Typings.Proofs.Hierarchy.Reached
import Typings.Proofs.Hierarchy.References
import Typings.Proofs.Method.Widening

/-!
# Return Types of Finished Classes

The methods of a class that is built from its symbol all have a return type, if only
the one that stands for nothing documented. Constructors have none, but they are kept
apart and are never held against anything. Linking does not touch methods, and
finishing a class keeps the return types that are there and takes further methods from
a base that has return types itself. So at any point of work on a hierarchy of built
classes, however classes were linked and in whatever order they were finished, every
method has a return type.

That is all that is needed to say what finishing does to the return types of a class.
An own method keeps its text if no base method asked anything of it. Otherwise it
returns its receiver, which somebody must have brought in, or it has all alternatives
of its own and of the base methods that it did not cover. Nothing is lost on the way
to the latter.

## Main definitions

* `Hierarchy.Developed`: A hierarchy of built classes at any point of linking and
  finishing them.
* `Hierarchy.HasReturnTypes`: Every method of every class has a return type.

## Theorems

* `Method.returnType_build_ne_none`: A method that is built has a return type.
* `Hierarchy.HasReturnTypes.of_contents`,
  `Hierarchy.HasReturnTypes.createOverloads`: Linking and finishing keep them.
* `Hierarchy.Developed.hasReturnTypes`: Methods of built classes have return types.
* `Hierarchy.widened_createOverloads`: What finishing a class does to the return types
  of its methods.
-/

namespace Typings

namespace Method

/-- A method that is built has a return type, unless it is built without one. -/
theorem returnType_build_ne_none (owner : Owner) (raw : Api.Method) (options : BuildOptions)
    (hreturn : options.hasNoReturn = false) : (build owner raw options).returnType ≠ none := by
  unfold build
  cases subscribedEvent? raw.name owner.events with
  | none =>
      simp only [buildPlain, hreturn, Bool.false_eq_true, if_false]
      exact Option.some_ne_none _
  | some event => exact Option.some_ne_none _

theorem returnType_finished_ne_none (r : Resolver) (baseId : Nat) (base : List Method)
    (own : Method) (hown : own.returnType ≠ none) :
    (own.finished r baseId base).returnType ≠ none := by
  unfold finished
  -- Base methods are met one by one, and none takes the return type away.
  induction numbered base generalizing own with
  | nil => exact hown
  | cons b rest ih =>
      rw [after_cons]
      exact ih _ (returnType_meet_ne_none r b.2 ⟨baseId, b.1⟩ own hown)

end Method

namespace Hierarchy

variable (r : Resolver)

/-- A hierarchy of built classes at any point of linking and finishing them. -/
inductive Developed : Hierarchy → Prop where
  | empty : Developed empty
  | push (h : Hierarchy) (kind : ClassKind) (library : String) (s : Api.Symbol)
      (hh : Developed h) : Developed (pushSymbol r kind library h s)
  | setBase (h : Hierarchy) (child base : Nat) (hh : Developed h) :
      Developed (h.setBase child base)
  | link (h : Hierarchy) (hh : Developed h) : Developed h.link.1
  | createOverloads (h : Hierarchy) (i : Nat) (hh : Developed h) :
      Developed (createOverloads r h i).1

/-- Every method of every class has a return type. -/
def HasReturnTypes (h : Hierarchy) : Prop :=
  ∀ i c, h.get? i = some c → ∀ m ∈ c.methods, m.returnType ≠ none

variable {r} {h : Hierarchy}

/-- Links have nothing to do with return types. -/
theorem HasReturnTypes.of_contents {g : Hierarchy} (hh : h.HasReturnTypes)
    (hcontents : g.contents = h.contents) : g.HasReturnTypes := by
  intro i c hget
  have hunlinked := congrArg (fun cs => cs[i]?) hcontents
  simp only [getElem?_contents, hget, Option.map_some] at hunlinked
  rw [eq_comm, Option.map_eq_some_iff] at hunlinked
  rcases hunlinked with ⟨d, hd, heq⟩
  have hmethods : d.methods = c.methods := congrArg (·.methods) heq
  rw [← hmethods]
  exact hh i d hd

theorem HasReturnTypes.pushSymbol (hh : h.HasReturnTypes) (kind : ClassKind)
    (library : String) (s : Api.Symbol) : (pushSymbol r kind library h s).HasReturnTypes := by
  intro i c hget
  rw [Hierarchy.pushSymbol, get?_push] at hget
  by_cases hi : i = h.size
  · rw [if_pos hi, Option.some_inj] at hget
    subst hget
    intro m hm
    rcases ClassModel.mem_methods_build r h.size kind library s m hm with ⟨owner, raw, _, _, rfl⟩
    exact Method.returnType_build_ne_none owner raw {} rfl
  · rw [if_neg hi] at hget
    exact hh i c hget

/-- A class that is finished has its own methods, whose return types are kept, and
    methods of its base, which has return types too. -/
theorem HasReturnTypes.createOverloads (hh : h.HasReturnTypes) (i : Nat) :
    (createOverloads r h i).1.HasReturnTypes := by
  intro j d hget
  by_cases hij : i = j
  · subst hij
    rcases createOverloads_cases r h i with hsame | ⟨b, c, base, hc, hlink, hb, _⟩
    · rw [hsame] at hget
      exact hh i d hget
    · rw [get?_createOverloads_of_base r h i b c base hc hlink hb, Option.some_inj] at hget
      subst hget
      intro m hm
      rcases (ClassModel.mem_finish_methods c _ m).mp hm with hown | hcarried
      · rw [ClassModel.own_carryFrom, List.mem_map] at hown
        rcases hown with ⟨o, ho, rfl⟩
        exact Method.returnType_finished_ne_none r b base.methods o (hh i c hc o ho)
      · exact hh b base hb m ((ClassModel.carried_sublist r base c b).subset hcarried)
  · rw [get?_createOverloads_of_ne r h i j hij] at hget
    exact hh j d hget

/-- Methods of built classes have return types at every point. -/
theorem Developed.hasReturnTypes (hd : h.Developed r) : h.HasReturnTypes := by
  induction hd with
  | empty =>
      intro i c hget
      rw [get?_eq_none Hierarchy.empty i (Nat.zero_le i)] at hget
      contradiction
  | push h kind library s _ ih => exact ih.pushSymbol kind library s
  | setBase h child base _ ih => exact ih.of_contents (contents_setBase h child base)
  | link h _ ih => exact ih.of_contents (contents_link h)
  | createOverloads h i _ ih => exact ih.createOverloads i

theorem developed_ofSources (r : Resolver) (symbolKind : Api.SymbolKind) (kind : ClassKind)
    (sources : List Api.Source) : (ofSources r symbolKind kind sources).Developed r :=
  ofSources_induction r symbolKind kind Developed.empty
    (fun h library s hh => Developed.push h kind library s hh) sources

/-- What finishing a class does to the return types of its methods: each of them goes
    one of the three ways, and unless it comes to the receiver type it has all the
    alternatives that it had. -/
theorem widened_createOverloads (hd : h.Developed r) (i b : Nat) (c base : ClassModel)
    (hget : h.get? i = some c) (hbase : c.baseId = some b) (hgetb : h.get? b = some base) :
    ∃ f carried, (createOverloads r h i).1.get? i = some f ∧
      f.methods = Text.sortBy (·.name)
        (c.methods.map (fun o => o.finished r b base.methods) ++ carried) ∧
      ∀ o ∈ c.methods,
        Method.Widened r b base.methods o (o.finished r b base.methods).returnText ∧
          ((o.finished r b base.methods).returnText = thisType ∨
            ∀ a ∈ alternatives o.returnText,
              a ∈ alternatives (o.finished r b base.methods).returnText) := by
  refine ⟨c.finish (ClassModel.carryFrom r base c b), (ClassModel.carryFrom r base c b).carried,
    get?_createOverloads_of_base r h i b c base hget hbase hgetb, ?_, ?_⟩
  · rw [← ClassModel.own_carryFrom]
    rfl
  · intro o _
    exact ⟨Method.widened_finished r b base.methods (hd.hasReturnTypes b base hgetb) o,
      Method.after_widens r b o (numbered base.methods)⟩

section Example

/-- A class with three methods that its base asks nothing of, to return their receiver,
    and to return more. -/
def fieldSource : Api.Source where
  library := "lib"
  symbols :=
    [{ kind := .class, name := "lib.Base",
       methods :=
         [{ name := "value", parameters := [{ name := "s", type := "string" }],
            returnValue := some { type := "number" } },
          { name := "value", returnValue := some { type := "string" } },
          { name := "reset", returnValue := some { type := "this" } },
          { name := "focus", returnValue := some { type := "void" } }] },
     { kind := .class, name := "lib.Field", base := some "lib.Base",
       methods :=
         [{ name := "value", returnValue := some { type := "boolean|string" } },
          { name := "reset", returnValue := some { type := "void" } },
          { name := "focus", returnValue := some { type := "boolean | void" } }] }]

/-- The resolver of the field and its base. -/
def fieldResolver : Resolver where
  registry := Registry.ofSources [fieldSource]

/-- The field and its base, linked. -/
def fieldClasses : Hierarchy :=
  (ofSources fieldResolver .class .class [fieldSource]).link.1

/-- The three methods of the field go the three ways. -/
theorem widened_fieldClasses :
    fieldClasses.Developed fieldResolver ∧
      ∃ c base f carried, fieldClasses.get? 1 = some c ∧ c.baseId = some 0 ∧
        fieldClasses.get? 0 = some base ∧
        c.methods.map (fun o => (o.finished fieldResolver 0 base.methods).returnText) =
          ["boolean|string|number", "this", "boolean|void"] ∧
        (createOverloads fieldResolver fieldClasses 1).1.get? 1 = some f ∧
        f.methods = Text.sortBy (·.name)
          (c.methods.map (fun o => o.finished fieldResolver 0 base.methods) ++ carried) ∧
        ∀ o ∈ c.methods,
          Method.Widened fieldResolver 0 base.methods o
              (o.finished fieldResolver 0 base.methods).returnText ∧
            ((o.finished fieldResolver 0 base.methods).returnText = thisType ∨
              ∀ a ∈ alternatives o.returnText,
                a ∈ alternatives (o.finished fieldResolver 0 base.methods).returnText) := by
  have hdeveloped : fieldClasses.Developed fieldResolver :=
    Developed.link _ (developed_ofSources fieldResolver .class .class [fieldSource])
  have hlink : fieldClasses.baseId? 1 = some 0 := by decide +kernel
  have hroot : (fieldClasses.get? 0).isSome = true := by decide +kernel
  have htexts : ((fieldClasses.get? 1).bind fun c => (fieldClasses.get? 0).map fun base =>
      c.methods.map fun o => (o.finished fieldResolver 0 base.methods).returnText) =
        some ["boolean|string|number", "this", "boolean|void"] := by
    decide +kernel
  rcases (baseId?_eq_some_iff _ 1 0).mp hlink with ⟨c, hget, hbase⟩
  rcases Option.isSome_iff_exists.mp hroot with ⟨base, hgetb⟩
  rw [hget, hgetb, Option.bind_some, Option.map_some, Option.some_inj] at htexts
  rcases widened_createOverloads hdeveloped 1 0 c base hget hbase hgetb with
    ⟨f, carried, hf, hmethods, hwidened⟩
  exact ⟨hdeveloped, c, base, f, carried, hget, hbase, hgetb, htexts, hf, hmethods, hwidened⟩

end Example

end Hierarchy

end Typings
