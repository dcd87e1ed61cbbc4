import Typings.Proofs.Run.Targets

/-!
# How Items Come Out

A renderer is asked for one item after the other and answers with an error if an item
fails. The answer is written down in three places: in the event for the item, in the
number of items that were rendered, and in the list of those that were not. A run never
looks at any of the three to decide what comes next.

So two renderers can only make the difference between those answers, whatever they do
and whatever they remember. Both are asked for the same items in the same order, both
runs end the same way, and what they report is the same as soon as it is left out how
items came out.

What a renderer is asked for cannot be seen in what a run leaves behind. A renderer that
writes it down makes it visible, and answers as the one inside it does.

## Main definitions

* `RunEvent.withoutOutcome`: An event that does not say how an item came out.
* `Output.withoutOutcomes`: An output that does not say so of any item.
* `Renderer.recording`: A renderer that writes down what it is asked for.
* `calls`: What a run asks a renderer for.

## Theorems

* `Rendering.map_events_all`: Events without outcomes follow from the items alone.
* `Rendering.all_recording`, `generate_recording`: Writing down changes nothing else.
* `calls_eq_rendered`: What a run asks for follows from the sources.
* `generate_of_renderers`: Renderers do not disturb a run.
-/

namespace Typings

open Api (Source)
open Emit (Item)

/-- An event that says of an item only that its turn has come, and not how it came out. -/
def RunEvent.withoutOutcome : RunEvent → RunEvent
  | .renderFailed kind name _ => .rendered kind name
  | event => event

/-- An output without the numbers and the list that say how items came out. -/
def Output.withoutOutcomes (o : Output) : Output :=
  { o with report := { o.report with rendered := 0, renderFailures := [] } }

section Recording

variable {σ : Type} (renderer : Renderer σ)

/-- A renderer that writes down what it is asked for, and answers as another does. -/
def Renderer.recording (renderer : Renderer σ) : Renderer (σ × List Item) := fun state item =>
  let (next, error) := renderer state.1 item
  ((next, state.2 ++ [item]), error)

/-- What a run asks a renderer for, in order. -/
def calls (config : Config) (sources : List Source) (renderer : Renderer σ) (state : σ) :
    List Item :=
  (generate config sources renderer.recording (state, [])).state.2

/-- How an item came out is the one thing that its event has from the renderer. -/
theorem RenderedItem.withoutOutcome_event (r : RenderedItem) :
    r.event.withoutOutcome = .rendered r.item.kind r.item.name := by
  rw [RenderedItem.event]
  cases r.error <;> rfl

/-- Without outcomes, events follow from the items alone. -/
theorem Rendering.map_events_all (state : σ) (items : List Item) :
    (all renderer state items).events.map RunEvent.withoutOutcome =
      items.map fun item => .rendered item.kind item.name := by
  have hitems := congrArg (List.map fun item : Item => RunEvent.rendered item.kind item.name)
    (map_item_all renderer state items)
  rw [List.map_map] at hitems
  rw [events, List.map_map, ← hitems]
  exact List.map_congr_left fun r _ => r.withoutOutcome_event

/-- What comes between the start and the end of a phase is all that can tell how items
    came out. -/
theorem Phase.map_events (phase : Phase) (items : Nat) (between : List RunEvent) :
    (phase.events items between).map RunEvent.withoutOutcome =
      phase.events items (between.map RunEvent.withoutOutcome) := by
  rw [events, events, List.map_append, List.map_cons]
  rfl

/-- Writing down what is asked for changes nothing about how items are rendered. -/
theorem Rendering.all_recording (state : σ) (seen items : List Item) :
    all renderer.recording (state, seen) items =
      ⟨((all renderer state items).state, seen ++ items), (all renderer state items).items⟩ := by
  induction items using List.reverseRecOn with
  | nil => rw [List.append_nil]; rfl
  | append_singleton items item ih =>
      -- Both renderers have come to the same state, so they answer the same.
      rw [all_concat, all_concat, ih, render, render, Renderer.recording, List.append_assoc]

/-- Writing down what is asked for changes nothing about a run. -/
theorem generate_recording (config : Config) (sources : List Source) (state : σ)
    (seen : List Item) :
    generate config sources renderer.recording (state, seen) =
      { state := ((generate config sources renderer state).state,
          seen ++ (synthesize config sources).rendered)
        log := (generate config sources renderer state).log
        result := (generate config sources renderer state).result } := by
  rw [generate, generate, Synthesis.rendered]
  cases hcycle : (synthesize config sources).classes.cycle? with
  | some cycle =>
      simp only [Rendering.all_recording, Option.isNone_some, Bool.false_eq_true, if_false,
        Synthesis.earlyItems, List.append_assoc]
      rfl
  | none =>
      simp only [Rendering.all_recording, Option.isNone_none, if_true, Synthesis.items,
        Synthesis.earlyItems, List.append_assoc]
      rfl

/-- What a run asks for follows from the sources. -/
theorem calls_eq_rendered (config : Config) (sources : List Source) (state : σ) :
    calls config sources renderer state = (synthesize config sources).rendered := by
  rw [calls, generate_recording, List.nil_append]

end Recording

section Independence

variable {σ τ : Type} (config : Config) (sources : List Source)
  (renderer : Renderer σ) (state : σ) (other : Renderer τ) (state' : τ)

/-- A run ends the same way whatever its renderer answers. -/
theorem map_result_generate :
    (generate config sources renderer state).result.map Output.withoutOutcomes =
      (generate config sources other state').result.map Output.withoutOutcomes := by
  rw [generate, generate]
  cases (synthesize config sources).classes.cycle? <;> rfl

/-- A run reports the same, but for how items came out. -/
theorem map_log_generate :
    (generate config sources renderer state).log.map RunEvent.withoutOutcome =
      (generate config sources other state').log.map RunEvent.withoutOutcome := by
  rw [generate, generate]
  -- Each log is put together from pieces that only the events of items make different.
  cases (synthesize config sources).classes.cycle? with
  | some cycle =>
      simp only [earlyLog, List.map_append, Phase.map_events, Rendering.map_events_all]
  | none =>
      simp only [earlyLog, List.map_append, Phase.map_events, Rendering.map_events_all]

/-- Renderers do not disturb a run. With any two of them it ends with the same cycle or
    succeeds, and if it succeeds everything it puts out is the same but for the number of
    items that were rendered and the list of those that were not. Its log is the same but
    for how items came out. And both renderers are asked for the same items in the same
    order. -/
theorem generate_of_renderers :
    (generate config sources renderer state).result.map Output.withoutOutcomes =
        (generate config sources other state').result.map Output.withoutOutcomes ∧
      (generate config sources renderer state).log.map RunEvent.withoutOutcome =
        (generate config sources other state').log.map RunEvent.withoutOutcome ∧
      calls config sources renderer state = calls config sources other state' := by
  refine ⟨map_result_generate config sources renderer state other state',
    map_log_generate config sources renderer state other state', ?_⟩
  rw [calls_eq_rendered, calls_eq_rendered]

end Independence

end Typings
