import Typings.Proofs.Run.DeclaredBases
import Typings.Proofs.Run.Finished
import Typings.Proofs.Run.SourceOrder
import Typings.Proofs.Run.Targets

/-!
# The Accounts of a Run

A run counts what it does while it goes on, in several places and by several filters, and
it says what it does event by event. Both have to add up: every symbol is taken by one
pass, every declared base is linked or reported, every method that a class has more in the
end than when it was built was carried into it, and every item that a renderer was asked
for was rendered or is on the list of failures.

The log is looked at through the kinds of its events. A log is put together from pieces of
which all but a few hold events of one kind, so events can be counted piece by piece, and
the number of events of every kind is the one that the report has for it. What is left of
the log without them is the start and the end of each phase, in order.

## Main definitions

* `EventKind`, `RunEvent.kind`: The kinds of events.
* `eventCount`: How many events of a kind a log has.
* `Report.count`: How many events of a kind there are according to a report.
* `Report.itemsOf`: How many items a phase has according to a report.
* `Accounts`: Everything that a run counts adds up.

## Theorems

* `eventCount_of_forall`, `eventCount_phase`, `eventCount_rendering`: The events of the
  pieces of a log.
* `filter_isBoundary_phase`, `filter_isBoundary_eq_nil`: Which of them start or end a phase.
* `length_passes`: Every symbol is taken by one pass.
* `Hierarchy.linked_add_unresolved`: Every declared base is linked or reported.
* `forall₂_methods_of_output`, `length_methods_of_output`: What was carried into classes is
  what they have more of.
* `exists_renderings_of_output`: What the report and the log of a run are made of.
* `accounts_of_output`: The accounts of a run add up.
-/

namespace Typings

open Api (Source Symbol)
open Emit (Item)

/-- The kinds of events. -/
inductive EventKind where
  | phaseStarted
  | phaseFinished
  | symbolSkipped
  | baseClassUnresolved
  | overloadInherited
  | typeUnresolved
  | rendered
  | renderFailed
  deriving DecidableEq

/-- The kind of an event. -/
def RunEvent.kind : RunEvent → EventKind
  | .phaseStarted _ => .phaseStarted
  | .phaseFinished _ _ => .phaseFinished
  | .symbolSkipped _ _ _ => .symbolSkipped
  | .baseClassUnresolved _ => .baseClassUnresolved
  | .overloadInherited _ => .overloadInherited
  | .typeUnresolved _ _ => .typeUnresolved
  | .rendered _ _ => .rendered
  | .renderFailed _ _ _ => .renderFailed

/-- Whether an event is the start or the end of a phase. -/
def RunEvent.isBoundary (e : RunEvent) : Bool :=
  e.kind = .phaseStarted || e.kind = .phaseFinished

/-- How many events of a kind a log has. -/
def eventCount (kind : EventKind) (log : List RunEvent) : Nat :=
  log.countP (·.kind = kind)

namespace Report

/-- How many events of a kind there are according to a report. -/
def count (r : Report) : EventKind → Nat
  | .phaseStarted => Phase.all.length
  | .phaseFinished => Phase.all.length
  | .symbolSkipped => r.skippedSymbols
  | .baseClassUnresolved => r.unresolvedBaseClasses.length
  | .overloadInherited => r.inheritedOverloads
  | .typeUnresolved => r.unresolvedTypes
  | .rendered => r.rendered
  | .renderFailed => r.renderFailures.length

/-- How many items a phase has according to a report, given how many classes are
    registered. -/
def itemsOf (r : Report) (registeredClasses : Nat) : Phase → Nat
  | .ambientRegistry => r.ambientTypes + registeredClasses
  | .enums => r.enums
  | .namespaces => r.namespaces
  | .interfaces => r.interfaces
  | .classes => r.classes
  | .baseClassLinking => r.linkedBaseClasses
  | .overloadPropagation => r.inheritedOverloads
  | .rendering => r.classes + r.namespaces

end Report

/-- Whether a symbol declares a class that names a base. -/
def declaresBase (s : Symbol) : Bool :=
  s.kind = .class && s.base.any (!·.isEmpty)

/-- The classes of a run as they are built, before anything is linked or carried. -/
def builtClasses (config : Config) (sources : List Source) : List ClassModel :=
  (Hierarchy.ofSources (synthesize config sources).resolver .class .class sources).classes.toList

/-- Everything that a run counts adds up. -/
structure Accounts (config : Config) (sources : List Source) (log : List RunEvent)
    (output : Output) : Prop where
  /-- Every symbol was taken by one pass. -/
  symbols : output.report.enums + output.report.namespaces + output.report.interfaces +
    output.report.classes + output.report.skippedSymbols = (sources.flatMap (·.symbols)).length
  /-- Every base that a class names was linked or reported. -/
  bases : output.report.linkedBaseClasses + output.report.unresolvedBaseClasses.length =
    (sources.flatMap (·.symbols)).countP declaresBase
  /-- No class has fewer methods in the end than when it was built. -/
  methodsStay : List.Forall₂ (fun d c => c.methods.length ≤ d.methods.length) output.classes
    (builtClasses config sources)
  /-- What all classes have more of in the end was carried into them. -/
  overloads : (output.classes.flatMap (·.methods)).length =
    ((builtClasses config sources).flatMap (·.methods)).length + output.report.inheritedOverloads
  /-- Every item was rendered or failed. There is one for the enums of a library, if it has
      some. -/
  items : output.report.rendered + output.report.renderFailures.length =
    (sources.countP fun source => source.symbols.any (isEnumSymbol config)) +
      output.report.interfaces + output.report.classes + output.report.namespaces
  /-- There are as many events of every kind as the report says. -/
  events : ∀ kind, eventCount kind log = output.report.count kind
  /-- All phases were started and finished, one after the other. -/
  phases : log.filter RunEvent.isBoundary = Phase.all.flatMap fun phase =>
    [.phaseStarted phase, .phaseFinished phase
      (output.report.itemsOf (synthesize config sources).resolver.registry.classCount phase)]

section Events

variable (kind own : EventKind)

theorem eventCount_append (log more : List RunEvent) :
    eventCount kind (log ++ more) = eventCount kind log + eventCount kind more :=
  List.countP_append

/-- Where all events are of one kind, they count for that kind and for no other. -/
theorem eventCount_of_forall (log : List RunEvent) (hown : ∀ e ∈ log, e.kind = own) :
    eventCount kind log = if own = kind then log.length else 0 := by
  rw [eventCount]
  by_cases hkind : own = kind
  · rw [if_pos hkind, List.countP_eq_length]
    intro e he
    exact decide_eq_true ((hown e he).trans hkind)
  · rw [if_neg hkind, List.countP_eq_zero]
    intro e he hk
    exact hkind ((hown e he).symm.trans (of_decide_eq_true hk))

theorem eventCount_map {α : Type} (event : α → RunEvent) (l : List α)
    (hown : ∀ a, (event a).kind = own) :
    eventCount kind (l.map event) = if own = kind then l.length else 0 := by
  rw [eventCount_of_forall kind own _ ?_, List.length_map]
  intro e he
  rcases List.mem_map.mp he with ⟨a, _, rfl⟩
  exact hown a

/-- A phase adds its start and its end to what comes between them. -/
theorem eventCount_phase (phase : Phase) (items : Nat) (between : List RunEvent) :
    eventCount kind (phase.events items between) =
      (if .phaseStarted = kind then 1 else 0) + eventCount kind between +
        if .phaseFinished = kind then 1 else 0 := by
  have hstart := eventCount_of_forall kind .phaseStarted [.phaseStarted phase]
    (List.forall_mem_singleton.mpr rfl)
  have hend := eventCount_of_forall kind .phaseFinished [.phaseFinished phase items]
    (List.forall_mem_singleton.mpr rfl)
  have hsplit : phase.events items between =
      [.phaseStarted phase] ++ between ++ [.phaseFinished phase items] := rfl
  rw [hsplit, eventCount_append, eventCount_append, hstart, hend]
  rfl

variable {σ : Type}

theorem Rendering.count_add_failures (r : Rendering σ) :
    r.count + r.failures.length = r.items.length :=
  Nat.sub_add_cancel (List.length_filterMap_le ..)

/-- The events of items that were rendered, and of those that failed. -/
theorem eventCount_rendering (r : Rendering σ) :
    eventCount kind r.events =
      (if .rendered = kind then r.count else 0) +
        if .renderFailed = kind then r.failures.length else 0 := by
  -- Every item has one event, and only that of a failure is on the list.
  have hitems : ∀ items : List RenderedItem,
      eventCount kind (items.map RenderedItem.event) =
        (if .rendered = kind then
          items.length - (items.filterMap RenderedItem.failure?).length else 0) +
          if .renderFailed = kind then (items.filterMap RenderedItem.failure?).length else 0 := by
    intro items
    induction items with
    | nil => cases kind <;> rfl
    | cons item rest ih =>
        have hle := List.length_filterMap_le RenderedItem.failure? rest
        have hsplit : eventCount kind ((item :: rest).map RenderedItem.event) =
            eventCount kind [item.event] + eventCount kind (rest.map RenderedItem.event) :=
          eventCount_append kind [item.event] _
        rw [hsplit, ih, List.filterMap_cons, eventCount_of_forall kind item.event.kind _
          fun e he => by rw [List.mem_singleton.mp he]]
        rw [RenderedItem.event, RenderedItem.failure?]
        cases item.error with
        | none =>
            simp only [Option.map_none, RunEvent.kind, List.length_cons, List.length_nil]
            cases kind <;> simp only [reduceCtorEq, if_true, if_false] <;> omega
        | some e =>
            simp only [Option.map_some, RunEvent.kind, List.length_cons, List.length_nil]
            cases kind <;> simp only [reduceCtorEq, if_true, if_false] <;> omega
  exact hitems r.items

/-- Of a phase its start and its end are left, and what is left of what comes between. -/
theorem filter_isBoundary_phase (phase : Phase) (items : Nat) (between : List RunEvent) :
    (phase.events items between).filter RunEvent.isBoundary =
      [.phaseStarted phase] ++ between.filter RunEvent.isBoundary ++
        [.phaseFinished phase items] := by
  rw [Phase.events, List.cons_append, List.filter_cons_of_pos rfl, List.filter_append]
  rfl

/-- Where no event starts or ends a phase, none is left. -/
theorem filter_isBoundary_eq_nil (log : List RunEvent)
    (hstart : eventCount .phaseStarted log = 0) (hend : eventCount .phaseFinished log = 0) :
    log.filter RunEvent.isBoundary = [] := by
  rw [eventCount, List.countP_eq_zero] at hstart hend
  rw [List.filter_eq_nil_iff]
  intro e he hboundary
  rcases (Bool.or_eq_true ..).mp hboundary with h | h
  · exact hstart e he h
  · exact hend e he h

/-! The pieces of a log, each of which has events of one kind. -/

theorem eventCount_skipped (s : Synthesis) :
    eventCount kind (s.skipped.map fun (library, symbol) =>
      .symbolSkipped library symbol.name symbol.kind) =
      if .symbolSkipped = kind then s.skipped.length else 0 :=
  eventCount_map kind .symbolSkipped _ s.skipped fun _ => rfl

theorem eventCount_missingBases (s : Synthesis) :
    eventCount kind (s.links.unresolved.map .baseClassUnresolved) =
      if .baseClassUnresolved = kind then s.links.unresolved.length else 0 :=
  eventCount_map kind .baseClassUnresolved _ s.links.unresolved fun _ => rfl

theorem eventCount_inherited (s : Synthesis) :
    eventCount kind (s.finished.2.map .overloadInherited) =
      if .overloadInherited = kind then s.finished.2.length else 0 :=
  eventCount_map kind .overloadInherited _ s.finished.2 fun _ => rfl

theorem eventCount_unresolvedInClasses (h : Hierarchy) :
    eventCount kind (unresolvedInClasses h) =
      if .typeUnresolved = kind then (unresolvedInClasses h).length else 0 := by
  refine eventCount_of_forall kind .typeUnresolved _ fun e he => ?_
  rcases List.mem_flatMap.mp he with ⟨c, _, he⟩
  rcases List.mem_map.mp he with ⟨token, _, rfl⟩
  rfl

theorem eventCount_unresolvedInNamespaces (namespaces : List NamespaceModel) :
    eventCount kind (unresolvedInNamespaces namespaces) =
      if .typeUnresolved = kind then (unresolvedInNamespaces namespaces).length else 0 := by
  refine eventCount_of_forall kind .typeUnresolved _ fun e he => ?_
  rcases List.mem_flatMap.mp he with ⟨n, _, he⟩
  rcases List.mem_map.mp he with ⟨token, _, rfl⟩
  rfl

end Events

section Symbols

variable (config : Config) (sources : List Source)

theorem countP_declaredSymbols (p : Symbol → Bool) :
    (declaredSymbols sources).countP (p ·.2) = (sources.flatMap (·.symbols)).countP p := by
  have hsymbols : (declaredSymbols sources).map Prod.snd = sources.flatMap (·.symbols) := by
    rw [declaredSymbols, List.map_flatMap]
    simp only [List.map_map, Function.comp_def, List.map_id']
  rw [← hsymbols, List.countP_map]
  rfl

theorem length_symbolsOf (kind : Api.SymbolKind) :
    (symbolsOf kind sources).length = (sources.flatMap (·.symbols)).countP (·.kind = kind) := by
  rw [symbolsOf, ← List.countP_eq_length_filter]
  exact countP_declaredSymbols sources fun s => decide (s.kind = kind)

/-- Every symbol is taken by one pass. -/
theorem length_passes (symbols : List Symbol) :
    symbols.countP (isEnumSymbol config) + symbols.countP (isNamespaceSymbol config) +
      symbols.countP (·.kind = .interface) + symbols.countP (·.kind = .class) +
      symbols.countP (·.kind = .other) = symbols.length := by
  induction symbols with
  | nil => rfl
  | cons s rest ih =>
      simp only [List.countP_cons, List.length_cons, isEnumSymbol, isNamespaceSymbol,
        Bool.or_eq_true, Bool.and_eq_true, Bool.not_eq_true', decide_eq_true_eq] at ih ⊢
      -- Of the namespaces some are enums and the others are not.
      cases s.kind <;> cases config.isEnumNamespace s.name <;>
        simp only [reduceCtorEq, or_true, or_false, and_true, and_false, if_true, if_false] <;>
        omega

/-- The passes of a run have all the symbols between them. -/
theorem length_synthesize :
    (synthesize config sources).allEnums.length + (synthesize config sources).namespaces.length +
      (synthesize config sources).interfaces.size + (synthesize config sources).classes.size +
      (synthesize config sources).skipped.length = (sources.flatMap (·.symbols)).length := by
  have hinterfaces : (synthesize config sources).interfaces.size =
      (symbolsOf .interface sources).length := by
    rw [interfaces_size_eq]
    exact (congrArg List.length (Hierarchy.map_unplaced_ofSources _ .interface .interface
      sources)).trans (List.length_map _)
  have hclasses : (synthesize config sources).classes.size = (symbolsOf .class sources).length :=
    Hierarchy.size_link_ofSources _ sources
  rw [hinterfaces, hclasses, allEnums_synthesize, namespaces_synthesize, skipped_synthesize,
    List.length_map, List.length_map, ← List.countP_eq_length_filter,
    ← List.countP_eq_length_filter, length_symbolsOf, length_symbolsOf, length_symbolsOf,
    countP_declaredSymbols sources (isEnumSymbol config),
    countP_declaredSymbols sources (isNamespaceSymbol config)]
  exact length_passes config _

/-- Every declared base is linked or reported. -/
theorem Hierarchy.linked_add_unresolved (h : Hierarchy) :
    h.link.2.linked + h.link.2.unresolved.length =
      h.classes.toList.countP (·.base.isSome) := by
  rw [linked_link, unresolved_link]
  -- Both counts look at the hierarchy as it is before anything is linked.
  induction h.classes.toList with
  | nil => rfl
  | cons c rest ih =>
      rw [List.countP_cons, List.countP_cons, List.filterMap_cons, ← ih, declaredBaseId?,
        missingBase?]
      rcases c.base with _ | base
      · rfl
      · rw [Option.bind_some, Option.bind_some]
        rcases h.provider? (TypePath.toModulePath base) with _ | id
        · simp only [if_true, List.length_cons, Option.isSome_none, Option.isSome_some,
            Bool.false_eq_true, if_false]
          omega
        · simp only [reduceCtorEq, if_true, if_false, Option.isSome_some]
          omega

/-- The classes of a run declare the bases that their symbols do. -/
theorem linked_add_unresolved_synthesize :
    (synthesize config sources).links.linked + (synthesize config sources).links.unresolved.length =
      (sources.flatMap (·.symbols)).countP declaresBase := by
  have hlinks := Hierarchy.linked_add_unresolved
    (Hierarchy.ofSources (synthesize config sources).resolver .class .class sources)
  -- What a class declares does not depend on its place.
  have hunplaced := List.countP_map (p := fun c : ClassModel => c.base.isSome)
    (f := ClassModel.unplaced)
    (l := (Hierarchy.ofSources (synthesize config sources).resolver .class .class
      sources).classes.toList)
  rw [Hierarchy.map_unplaced_ofSources, List.countP_map, symbolsOf, List.countP_filter] at hunplaced
  refine hlinks.trans (hunplaced.symm.trans ?_)
  rw [← countP_declaredSymbols]
  refine List.countP_congr fun p _ => ?_
  have hbase : (ClassModel.build (synthesize config sources).resolver 0 .class p.1
      p.2).unplaced.base = p.2.base.filter fun base => !base.isEmpty := rfl
  rw [Function.comp_apply, hbase, declaresBase, Option.isSome_filter, Bool.and_comm]

end Symbols

section Overloads

variable {σ : Type} (config : Config) (sources : List Source) (renderer : Renderer σ) (state : σ)
  (output : Output)

/-- A class that is linked has the methods that it was built with. -/
theorem methods_of_get?_classes (i : Nat) (c b : ClassModel)
    (hget : (synthesize config sources).classes.get? i = some c)
    (hb : (builtClasses config sources)[i]? = some b) : c.methods = b.methods := by
  rcases Hierarchy.get?_link_ofSources _ .class .class sources i c hget with ⟨p, hp, hbuilt⟩
  have hsame : (builtClasses config sources)[i]? = some c.unlinked := by
    rw [builtClasses, Array.getElem?_toList, hbuilt]
    exact (Hierarchy.get?_ofSources _ .class .class sources i).trans (by rw [hp]; rfl)
  rw [hsame, Option.some_inj] at hb
  rw [← hb]
  rfl

variable (hresult : (generate config sources renderer state).result = .ok output)

include hresult

/-- No class loses a method. -/
theorem length_methods_le_of_output (i : Nat) (d : ClassDeclaration) (b : ClassModel)
    (hd : output.classes[i]? = some d) (hb : (builtClasses config sources)[i]? = some b) :
    b.methods.length ≤ d.methods.length := by
  have hacyclic := (output_of_generate renderer config sources state output hresult).1
  rcases exists_class_of_output config sources renderer state output hresult i d hd with
    ⟨f, hf, rfl⟩
  have hmethods : (f.declaration ((synthesize config sources).finished.1.baseOf i)).methods.length
      = f.methods.length := List.length_map _
  rw [hmethods]
  cases finished_of_get? config sources hacyclic i f hf with
  | root _ _ hget _ => rw [methods_of_get?_classes config sources i f b hget hb]
  | derived _ j c base hget _ _ =>
      rw [ClassModel.length_methods_finish, methods_of_get?_classes config sources i c b hget hb]
      omega

/-- The classes in the end are those that were built, and none has lost a method. -/
theorem forall₂_methods_of_output :
    List.Forall₂ (fun d b => b.methods.length ≤ d.methods.length) output.classes
      (builtClasses config sources) := by
  have hlength : output.classes.length = (builtClasses config sources).length := by
    rw [(output_of_generate renderer config sources state output hresult).2.2.2.1,
      Hierarchy.declarations, List.length_map]
    have hfinished := Hierarchy.size_of_skeleton _ _ (Hierarchy.sameSkeleton_propagate
      (synthesize config sources).resolver (synthesize config sources).classes)
    exact hfinished.trans (Hierarchy.size_of_contents _ _ (Hierarchy.contents_link _))
  rw [List.forall₂_iff_get]
  refine ⟨hlength, fun i hi hi' => ?_⟩
  exact length_methods_le_of_output config sources renderer state output hresult i _ _
    (List.getElem?_eq_getElem hi) (List.getElem?_eq_getElem hi')

/-- What is carried into classes is what all of them have more of in the end. -/
theorem length_methods_of_output :
    (output.classes.flatMap (·.methods)).length =
      ((builtClasses config sources).flatMap (·.methods)).length +
        (synthesize config sources).finished.2.length := by
  have hdeclared : ∀ h : Hierarchy,
      (h.declarations.flatMap (·.methods)).length = h.methodCount := by
    intro h
    rw [Hierarchy.declarations, Hierarchy.methodCount, List.flatMap_map, List.length_flatMap,
      List.length_flatMap]
    congr 1
    exact List.map_congr_left fun c _ => List.length_map _
  have hbuilt : (synthesize config sources).classes.methodCount =
      ((builtClasses config sources).flatMap (·.methods)).length :=
    Hierarchy.methodCount_eq_of_perm _ _ (by rw [synthesize, Hierarchy.map_unplaced_link])
  rw [(output_of_generate renderer config sources state output hresult).2.2.2.1, hdeclared,
    ← hbuilt]
  exact Hierarchy.methodCount_propagate _ _

end Overloads

section Run

variable {σ : Type} (config : Config) (sources : List Source) (renderer : Renderer σ) (state : σ)
  (output : Output)

/-- There is an item for the enums of a library if it has some. -/
theorem length_enums_synthesize :
    (synthesize config sources).enums.length =
      sources.countP fun source => source.symbols.any (isEnumSymbol config) := by
  rw [synthesize, ← List.countP_eq_length_filter, List.countP_map]
  refine List.countP_congr fun source _ => ?_
  have hsome : (enumsOf config source).isEmpty = !source.symbols.any (isEnumSymbol config) := by
    rw [enumsOf, List.isEmpty_map, Bool.eq_iff_iff, List.isEmpty_iff, List.filter_eq_nil_iff,
      Bool.not_eq_true', List.any_eq_false]
  rw [Function.comp_apply, hsome, Bool.not_not]

theorem Rendering.length_items_all (items : List Item) :
    (Rendering.all renderer state items).items.length = items.length := by
  have hitems := congrArg List.length (map_item_all renderer state items)
  rwa [List.length_map] at hitems

variable (hresult : (generate config sources renderer state).result = .ok output)

include hresult

/-- What the report and the log of a run are made of. Enums, interfaces, classes and
    namespaces are rendered apart, each kind after the one before it. -/
theorem exists_renderings_of_output :
    ∃ enums interfaces classes namespaces : Rendering σ,
      enums.items.length = (synthesize config sources).enums.length ∧
      interfaces.items.length = (synthesize config sources).interfaces.size ∧
      classes.items.length = (synthesize config sources).classes.size ∧
      namespaces.items.length = (synthesize config sources).namespaces.length ∧
      output.report =
        { sources := sources.length
          ambientTypes := (synthesize config sources).resolver.registry.ambientCount
          enums := (synthesize config sources).allEnums.length
          namespaces := (synthesize config sources).namespaces.length
          interfaces := (synthesize config sources).interfaces.size
          classes := (synthesize config sources).classes.size
          skippedSymbols := (synthesize config sources).skipped.length
          linkedBaseClasses := (synthesize config sources).links.linked
          unresolvedBaseClasses := (synthesize config sources).links.unresolved
          inheritedOverloads := (synthesize config sources).finished.2.length
          unresolvedTypes :=
            (unresolvedInNamespaces (synthesize config sources).namespaces).length +
              (unresolvedInClasses (synthesize config sources).interfaces).length +
              (unresolvedInClasses (synthesize config sources).finished.1).length
          rendered := enums.count + interfaces.count + classes.count + namespaces.count
          renderFailures := enums.failures ++ interfaces.failures ++ classes.failures ++
            namespaces.failures } ∧
      (generate config sources renderer state).log =
        earlyLog (synthesize config sources) enums interfaces ++
          Phase.events .overloadPropagation (synthesize config sources).finished.2.length
            ((synthesize config sources).finished.2.map .overloadInherited) ++
          Phase.events .rendering
            ((synthesize config sources).classes.size +
              (synthesize config sources).namespaces.length)
            (unresolvedInClasses (synthesize config sources).finished.1 ++ classes.events ++
              namespaces.events) := by
  -- Finishing neither adds nor drops a class, so there are as many declarations as symbols.
  have hacyclic := (output_of_generate renderer config sources state output hresult).1
  have hfinished : (synthesize config sources).finished.1.size =
      (synthesize config sources).classes.size :=
    Hierarchy.size_of_skeleton _ _ (Hierarchy.sameSkeleton_propagate
      (synthesize config sources).resolver (synthesize config sources).classes)
  have hdeclared : (synthesize config sources).finished.1.declarations.length =
      (synthesize config sources).classes.size :=
    (List.length_map _).trans hfinished
  rw [generate] at hresult ⊢
  simp only [hacyclic, Except.ok.injEq] at hresult ⊢
  rw [← hresult, ← hdeclared]
  refine ⟨_, _, _, _, ?_, ?_, ?_, ?_, ?_, rfl⟩
  · rw [Rendering.length_items_all, List.length_map]
  · rw [Rendering.length_items_all, List.length_map]
    exact List.length_map _
  · rw [Rendering.length_items_all, List.length_map]
  · rw [Rendering.length_items_all, List.length_map]
    exact List.length_map _
  · rw [hdeclared]

/-- There are as many events of every kind as the report says. -/
theorem eventCount_log_of_output (kind : EventKind) :
    eventCount kind (generate config sources renderer state).log = output.report.count kind := by
  rcases exists_renderings_of_output config sources renderer state output hresult with
    ⟨enums, interfaces, classes, namespaces, _, _, _, _, hreport, hlog⟩
  have hnil : eventCount kind [] = 0 := rfl
  rw [hlog, hreport, earlyLog]
  -- Piece by piece, and then kind by kind.
  simp only [eventCount_append, eventCount_phase, eventCount_rendering, hnil, eventCount_skipped,
    eventCount_missingBases, eventCount_inherited, eventCount_unresolvedInNamespaces,
    eventCount_unresolvedInClasses]
  cases kind <;>
    simp only [reduceCtorEq, if_true, if_false, Report.count, Phase.all, List.length_append,
      List.length_cons, List.length_nil] <;>
    omega

/-- Without what comes between them, the starts and the ends of the phases are left. -/
theorem filter_isBoundary_log_of_output :
    (generate config sources renderer state).log.filter RunEvent.isBoundary =
      Phase.all.flatMap fun phase =>
        [.phaseStarted phase, .phaseFinished phase (output.report.itemsOf
          (synthesize config sources).resolver.registry.classCount phase)] := by
  rcases exists_renderings_of_output config sources renderer state output hresult with
    ⟨enums, interfaces, classes, namespaces, _, _, _, _, hreport, hlog⟩
  have hrendered : ∀ r : Rendering σ, r.events.filter RunEvent.isBoundary = [] := fun r =>
    filter_isBoundary_eq_nil _ (eventCount_rendering _ r) (eventCount_rendering _ r)
  have hclasses : ∀ h, (unresolvedInClasses h).filter RunEvent.isBoundary = [] := fun h =>
    filter_isBoundary_eq_nil _ (eventCount_unresolvedInClasses _ h)
      (eventCount_unresolvedInClasses _ h)
  have hnamespaces : ∀ l, (unresolvedInNamespaces l).filter RunEvent.isBoundary = [] := fun l =>
    filter_isBoundary_eq_nil _ (eventCount_unresolvedInNamespaces _ l)
      (eventCount_unresolvedInNamespaces _ l)
  have hskipped := filter_isBoundary_eq_nil _
    (eventCount_skipped _ (synthesize config sources)) (eventCount_skipped _ _)
  have hbases := filter_isBoundary_eq_nil _
    (eventCount_missingBases _ (synthesize config sources)) (eventCount_missingBases _ _)
  have hinherited := filter_isBoundary_eq_nil _
    (eventCount_inherited _ (synthesize config sources)) (eventCount_inherited _ _)
  rw [hlog, hreport, earlyLog]
  simp only [List.filter_append, filter_isBoundary_phase, hrendered, hclasses, hnamespaces,
    hskipped, hbases, hinherited]
  rfl

/-- The accounts of a run that succeeds add up. -/
theorem accounts_of_output :
    Accounts config sources (generate config sources renderer state).log output := by
  rcases exists_renderings_of_output config sources renderer state output hresult with
    ⟨enums, interfaces, classes, namespaces, henums, hinterfaces, hclasses, hnamespaces, hreport, _⟩
  have hitems : output.report.rendered + output.report.renderFailures.length =
      (synthesize config sources).enums.length + (synthesize config sources).interfaces.size +
        (synthesize config sources).classes.size +
        (synthesize config sources).namespaces.length := by
    rw [← henums, ← hinterfaces, ← hclasses, ← hnamespaces, ← enums.count_add_failures,
      ← interfaces.count_add_failures, ← classes.count_add_failures,
      ← namespaces.count_add_failures, hreport]
    simp only [List.length_append]
    omega
  exact
    { symbols := by rw [hreport]; exact length_synthesize config sources
      bases := by rw [hreport]; exact linked_add_unresolved_synthesize config sources
      methodsStay := forall₂_methods_of_output config sources renderer state output hresult
      overloads := by
        rw [hreport]
        exact length_methods_of_output config sources renderer state output hresult
      items := by rw [hitems, length_enums_synthesize, hreport]
      events := eventCount_log_of_output config sources renderer state output hresult
      phases := filter_isBoundary_log_of_output config sources renderer state output hresult }

end Run

/-- Two libraries with something for every pass: an enum and a namespace that is one, a
    namespace, an interface, a symbol that nothing is declared for, and three classes. One
    of them takes a method over from its base, and the base of another is missing. -/
def mixedSources : List Source :=
  [{ library := "base"
     symbols :=
       [{ kind := .enum, name := "base.Color" },
        { kind := .namespace, name := "base.Keys" },
        { kind := .class, name := "base.Control",
          methods := [{ name := "paint", returnValue := some { type := "base.Color" } }] },
        { kind := .other, name := "base.Thing" }] },
   { library := "more"
     symbols :=
       [{ kind := .namespace, name := "more.util" },
        { kind := .interface, name := "more.Shape" },
        { kind := .class, name := "more.Button", base := some "base.Control",
          methods := [{ name := "paint", returnValue := some { type := "string" } }] },
        { kind := .class, name := "more.Orphan", base := some "more.Missing" }] }]

/-- A configuration by which one of their namespaces is an enum. -/
def keysConfig : Config where
  enums := Table.ofList [("base.Keys", .object [])]

/-- A renderer that renders everything but classes. -/
def refuseClasses : Renderer Unit := fun _ item =>
  ((), if item.kind = .class then some (.other "no") else none)

/-- The accounts of a run over them, in which no class could be rendered. -/
theorem accounts_mixedSources :
    ∃ output, (generate keysConfig mixedSources refuseClasses ()).result = .ok output ∧
      Accounts keysConfig mixedSources
        (generate keysConfig mixedSources refuseClasses ()).log output ∧
      output.report.linkedBaseClasses = 1 ∧ output.report.inheritedOverloads = 1 ∧
      output.report.rendered = 3 ∧ output.report.renderFailures.length = 3 := by
  have hacyclic : (synthesize keysConfig mixedSources).classes.cycle? = none := by decide +kernel
  have hcounts : (generate keysConfig mixedSources refuseClasses ()).result.toOption.map (fun o =>
      (o.report.linkedBaseClasses, o.report.inheritedOverloads, o.report.rendered,
        o.report.renderFailures.length)) = some (1, 1, 3, 3) := by
    decide +kernel
  rcases exists_output_of_acyclic keysConfig mixedSources refuseClasses () hacyclic with
    ⟨output, hresult, _⟩
  rw [hresult] at hcounts
  simp only [Except.toOption, Option.map_some, Option.some_inj, Prod.mk.injEq] at hcounts
  exact ⟨output, hresult, accounts_of_output _ _ _ () output hresult, hcounts⟩

end Typings
