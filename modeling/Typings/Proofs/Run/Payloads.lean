import Typings.Proofs.Emit.Identifiers
import Typings.Proofs.Hierarchy.Origins
import Typings.Proofs.Run.Finished

/-!
# Payloads in Scope

A callback names the payload of its event, and an interface for the payload is declared
beside the class that has the event. In that module the callback makes sense. It is
carried further with its method, into classes of other modules, and nothing goes with
it: the name was made up and resolved from no token, so no requirement of the method
stands for it, and the class that takes it in declares payloads for its own events only.

So every payload is in scope in the class that has the event, and in all classes of its
module. Anywhere else it is in scope by accident, because a type of that name is
imported for another reason or another class there has such an event.

## Main definitions

* `ClassDeclaration.CanName`: A payload can be named where a class is declared.
* `Synthesis.HasCallback`: A finished class has a callback for an event.
* `PayloadsInScope`: The payloads of all callbacks can be named.

## Theorems

* `exists_callbackType_of_hasCallback`: The type of a callback.
* `exists_payload_of_hasCallback`: Payloads are declared beside their events.
* `payloadsInScope_output_iff`: When the payloads that a class names are in scope.
* `not_forall_payloadsInScope`: A callback can name a payload that is not.
-/

namespace Typings

open Api (Source)

/-- A payload can be named where a class is declared among others: the class declares it,
    or imports a type of that name, or a class of the same module declares it. -/
def ClassDeclaration.CanName (d : ClassDeclaration) (classes : List ClassDeclaration)
    (payload : String) : Prop :=
  payload ∈ d.payloads ∨ payload ∈ d.imports.map (·.name) ∨
    ∃ d' ∈ classes, d'.emittedModule = d.emittedModule ∧ payload ∈ d'.payloads

instance (d : ClassDeclaration) (classes : List ClassDeclaration) (payload : String) :
    Decidable (d.CanName classes payload) :=
  inferInstanceAs (Decidable (_ ∨ _ ∨ _))

/-- A finished class has a method with a callback for an event: the method stems from one
    of a class with this event, and has subscribed to it there. -/
def Synthesis.HasCallback (s : Synthesis) (i a : Nat) (e : Event) (p : Parameter) : Prop :=
  ∃ f m o c, s.finished.1.get? i = some f ∧ m ∈ f.methods ∧
    s.classes.StemsFrom s.resolver i m a o ∧ s.classes.get? a = some c ∧
    m.TakesCallback c.events e p

section Run

variable (config : Config) (sources : List Source)

/-- After a run that succeeds, all payloads that callbacks of a class name are in scope
    where the class is declared. -/
def PayloadsInScope : Prop :=
  ∀ {σ : Type} (renderer : Renderer σ) (state : σ) (output : Output),
    (generate config sources renderer state).result = .ok output →
      ∀ i d, output.classes[i]? = some d → ∀ a e p,
        (synthesize config sources).HasCallback i a e p → d.CanName output.classes e.payloadType

variable {i a : Nat} {e : Event} {p : Parameter}

/-- A callback has the type that was made up for its event, and no token. -/
theorem exists_callbackType_of_hasCallback
    (h : (synthesize config sources).HasCallback i a e p) :
    ∃ hasListener hasCustomData, p.type = callbackType e hasListener hasCustomData ∧
      p.rawType = "" := by
  rcases h with ⟨f, m, o, c, _, _, hstem, hget, hcallback⟩
  rcases hstem.call_eq with ⟨hname, hparameters, _⟩
  rcases hstem.exists_class with ⟨c', hget', ho⟩
  rw [hget, Option.some_inj] at hget'
  subst hget'
  -- The method it stems from was built by a class that has been linked since.
  rcases Hierarchy.get?_link_ofSources _ .class .class sources a c hget with ⟨q, _, hbuilt⟩
  have hbuiltMethod : o ∈ c.unlinked.methods := ho
  have horigin : o.TakesCallback c.unlinked.events e p := by
    rw [Method.TakesCallback, ← hname, ← hparameters]
    exact hcallback
  rw [hbuilt] at hbuiltMethod horigin
  exact ClassModel.exists_callbackType_of_mem_build _ a .class q.1 q.2 o hbuiltMethod e p horigin

section Output

variable {σ : Type} (renderer : Renderer σ) (state : σ) (output : Output)
  (hresult : (generate config sources renderer state).result = .ok output)

include hresult

/-- Every class is declared with the payloads of its events. -/
theorem exists_payloads_of_get? (c : ClassModel)
    (hget : (synthesize config sources).classes.get? a = some c) :
    ∃ b, output.classes[a]? = some b ∧ b.payloads = c.events.map (·.payloadType) := by
  have hsame := Hierarchy.sameSkeleton_propagate (synthesize config sources).resolver
    (synthesize config sources).classes a
  rw [hget, Option.map_some] at hsame
  rcases Option.map_eq_some_iff.mp hsame with ⟨f, hf, hskeleton⟩
  have hevents : f.skeleton.events = c.skeleton.events := by rw [hskeleton]
  have hclasses :=
    (output_of_generate renderer config sources state output hresult).2.2.2.1
  have hdeclared : output.classes[a]? =
      some (f.declaration ((synthesize config sources).finished.1.baseOf a)) := by
    rw [hclasses, Hierarchy.getElem?_declarations _ (consistent_finished config sources)]
    exact congrArg (Option.map _) hf
  refine ⟨_, hdeclared, ?_⟩
  refine Eq.trans ?_ (congrArg (List.map (·.payloadType)) hevents)
  exact List.map_map

/-- The payload of a callback is declared beside the class that the callback is from, which
    is the class itself or one above it. -/
theorem exists_payload_of_hasCallback (h : (synthesize config sources).HasCallback i a e p) :
    ∃ b, output.classes[a]? = some b ∧ e.payloadType ∈ b.payloads ∧
      (a = i ∨ Relation.TransGen (synthesize config sources).classes.Extends i a) := by
  rcases h with ⟨_, _, _, c, _, _, hstem, hget, hevent, _, _⟩
  rcases exists_payloads_of_get? config sources renderer state output hresult c hget with
    ⟨b, hb, hpayloads⟩
  refine ⟨b, hb, ?_, hstem.above⟩
  rw [hpayloads]
  exact List.mem_map_of_mem (mem_of_subscribedEvent? _ _ _ hevent)

/-- After a run that succeeds, a callback of a class has the type that was made up for its
    event, and the payload that this names is declared by the class itself or one above it.
    All payloads that callbacks of a class name are in scope where the class is declared
    exactly if those are that were carried into it from a class of another module. -/
theorem payloadsInScope_output_iff (d : ClassDeclaration) (hd : output.classes[i]? = some d) :
    (∀ a e p, (synthesize config sources).HasCallback i a e p →
        (∃ hasListener hasCustomData, p.type = callbackType e hasListener hasCustomData) ∧
          ∃ b, output.classes[a]? = some b ∧ e.payloadType ∈ b.payloads ∧
            (a = i ∨ Relation.TransGen (synthesize config sources).classes.Extends i a)) ∧
      ((∀ a e p, (synthesize config sources).HasCallback i a e p →
          d.CanName output.classes e.payloadType) ↔
        ∀ a e p b, (synthesize config sources).HasCallback i a e p →
          Relation.TransGen (synthesize config sources).classes.Extends i a →
          output.classes[a]? = some b → b.emittedModule ≠ d.emittedModule →
            d.CanName output.classes e.payloadType) := by
  refine ⟨fun a e p hcallback => ⟨?_, ?_⟩, ?_⟩
  · rcases exists_callbackType_of_hasCallback config sources hcallback with
      ⟨hasListener, hasCustomData, htype, _⟩
    exact ⟨hasListener, hasCustomData, htype⟩
  · exact exists_payload_of_hasCallback config sources renderer state output hresult hcallback
  · constructor
    · exact fun hall a e p b hcallback _ _ _ => hall a e p hcallback
    · intro hforeign a e p hcallback
      rcases exists_payload_of_hasCallback config sources renderer state output hresult hcallback
        with ⟨b, hb, hpayload, rfl | habove⟩
      · -- The class itself declares the payload.
        rw [hd, Option.some_inj] at hb
        exact Or.inl (hb ▸ hpayload)
      · by_cases hmodule : b.emittedModule = d.emittedModule
        · exact Or.inr (Or.inr ⟨b, List.mem_of_getElem? hb, hmodule, hpayload⟩)
        · exact hforeign a e p b hcallback habove hb hmodule

end Output

end Run

section Example

/-- A method that subscribes to the event `resize` where there is one. -/
def attachResize : Api.Method where
  name := "attachResize"
  parameters := [{ name := "fnFunction" }, { name := "oListener" }]

/-- A class with an event, and a class with a name that extends it and has a method for
    the event, but not the event. -/
def subscribers (name : String) : List Source :=
  [{ library := "lib"
     symbols :=
       [{ kind := .class, name := "lib.Panel", events := [{ name := "resize" }]
          methods := [attachResize] },
        { kind := .class, name := name, base := some "lib.Panel", methods := [attachResize] }] }]

/-- In a class of the same module the payload is in scope. -/
theorem canName_subscribers :
    ∃ output d, (generate {} (subscribers "lib.Dialog") noteKind []).result = .ok output ∧
      output.classes[1]? = some d ∧ d.payloads = [] ∧ d.methods.length = 2 ∧ ∀ a e p,
        (synthesize {} (subscribers "lib.Dialog")).HasCallback 1 a e p →
          d.CanName output.classes e.payloadType := by
  rcases exists_output_of_acyclic {} (subscribers "lib.Dialog") noteKind [] (by decide +kernel)
    with ⟨output, hresult, hclasses⟩
  have hdeclared : ((synthesize {} (subscribers "lib.Dialog")).finished.1.declarations[1]?).any
      (fun d => d.payloads = [] ∧ d.methods.length = 2 ∧
        ∀ b ∈ (synthesize {} (subscribers "lib.Dialog")).finished.1.declarations,
          b.emittedModule = d.emittedModule) = true := by
    decide +kernel
  rcases (Option.any_eq_true ..).mp hdeclared with ⟨d, hd, hmodule⟩
  rw [← hclasses] at hd hmodule
  rcases of_decide_eq_true hmodule with ⟨hpayloads, hmethods, hmodule⟩
  refine ⟨output, d, hresult, hd, hpayloads, hmethods, ?_⟩
  refine (payloadsInScope_output_iff {} _ noteKind [] output hresult d hd).2.mpr ?_
  exact fun a e p b _ _ hb hother => absurd (hmodule b (List.mem_of_getElem? hb)) hother

/-- The type of a callback for the event. -/
def resizeCallback : String := "(this: Tcontext, oEvent: ResizeEventArgs) => void"

/-- The callback was carried into a class of another module. -/
theorem hasCallback_subscribers :
    ∃ e p, (synthesize {} (subscribers "app.Dialog")).HasCallback 1 0 e p ∧
      e.payloadType = "ResizeEventArgs" := by
  have hacyclic : (synthesize {} (subscribers "app.Dialog")).classes.cycle? = none := by
    decide +kernel
  have hfinal : ((synthesize {} (subscribers "app.Dialog")).finished.1.get? 1).any (fun f =>
      f.methods.any fun m => m.parameters.any fun p => p.type = resizeCallback) = true := by
    decide +kernel
  rcases (Option.any_eq_true ..).mp hfinal with ⟨f, hget, hmethods⟩
  rcases List.any_eq_true.mp hmethods with ⟨m, hm, hparameters⟩
  rcases List.any_eq_true.mp hparameters with ⟨p, hp, htype⟩
  have hfinished := finished_of_get? {} (subscribers "app.Dialog") hacyclic 1 f hget
  rcases (Hierarchy.mem_methods_iff_stemsFrom hfinished m).mp hm with ⟨a, o, hstem⟩
  rcases hstem.call_eq with ⟨hname, hcall, _⟩
  rcases hstem.exists_class with ⟨c, hc, ho⟩
  -- Only the first class has the event, and only its method is typed that way.
  have horigin : ∀ a < 2, ∀ c ∈ (synthesize {} (subscribers "app.Dialog")).classes.get? a,
      ∀ o ∈ c.methods, ∀ p ∈ o.parameters, p.type = resizeCallback →
        a = 0 ∧ ∃ e ∈ c.events, e.payloadType = "ResizeEventArgs" ∧
          o.TakesCallback c.events e p := by
    decide +kernel
  have hlt : a < 2 := Hierarchy.lt_size_of_get? _ a c hc
  rcases horigin a hlt c hc o ho p (hcall ▸ hp) (of_decide_eq_true htype) with
    ⟨rfl, e, _, hpayload, htakes⟩
  rw [Method.TakesCallback, ← hname, ← hcall] at htakes
  exact ⟨e, p, ⟨f, m, o, c, hget, hm, hstem, hc, htakes⟩, hpayload⟩

/-- A callback can name a payload that is not in scope. -/
theorem not_forall_payloadsInScope : ¬ ∀ config sources, PayloadsInScope config sources := by
  intro hall
  rcases exists_output_of_acyclic {} (subscribers "app.Dialog") noteKind [] (by decide +kernel)
    with ⟨output, hresult, hclasses⟩
  rcases hasCallback_subscribers with ⟨e, p, hcallback, hpayload⟩
  have hdeclared : ((synthesize {} (subscribers "app.Dialog")).finished.1.declarations[1]?).any
      (fun d => ¬ d.CanName (synthesize {} (subscribers "app.Dialog")).finished.1.declarations
        "ResizeEventArgs") = true := by
    decide +kernel
  rcases (Option.any_eq_true ..).mp hdeclared with ⟨d, hd, hnone⟩
  rw [← hclasses] at hd hnone
  have hscope := hall {} _ noteKind [] output hresult 1 d hd 0 e p hcallback
  rw [hpayload] at hscope
  exact of_decide_eq_true hnone hscope

end Example

end Typings
