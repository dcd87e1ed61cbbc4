import Typings.Proofs.Emit.Identifiers
import Typings.Proofs.Naming
import Typings.Proofs.Run.Finished
import Typings.Proofs.Run.Imports

/-!
# Names That Declarations Share

Every declaration of a run has a qualified name of its own if all symbols have. The
names that are exported for it are shorter: its short name, and what is made of that and
of the names of its events. Two declarations of one module can come to share one of them
in four ways. They have the same short name, or one of them has the short name that the
other has reserved for settings or for a payload, or both have an event of the same
name. Nothing else makes them share one, and symbols that give neither a short name nor
a module path, and do belong to a module, do not have the same short name.

What declarations share is merged by those who read it. So the payload of an event comes
from sources of several types wherever another class or interface of the module has an
event of that name, and of one type everywhere else.

## Main definitions

* `Declaration.Reserves`: A name is made for something beside a declaration.
* `Declaration.Collides`: Two declarations have a name in common by their own names.
* `Output.declarations`: All declarations of a run.
* `NamesAreUnique`: Declarations of one module share no names.

## Theorems

* `Declaration.IsNamed.mem_identifiers_iff`: Where the exported names come from.
* `nodup_qualifiedNames`: Declarations differ in their qualified names.
* `not_forall_namesAreUnique`: Declarations can share names in each of the four ways.
* `exists_shared_identifier_iff`: When declarations of one module share a name.
-/

namespace Typings

open Api (Source)
open Emit (Item Export Publishes)

namespace Declaration

/-- A name is made for the settings of a declaration, or for the payload of one of its
    events. -/
def Reserves (x : Declaration) (n : String) : Prop :=
  (x.settings.isSome = true ∧ n = settingsInterfaceName x.name) ∨
    ∃ e ∈ x.events, n = Event.payloadTypeName e.name

/-- Two declarations have a name in common: their short names are the same, or the short
    name of one is made for something beside the other, or both have an event of the same
    name, apart from the case of the first letter. -/
def Collides (x y : Declaration) : Prop :=
  x.name = y.name ∨ x.Reserves y.name ∨ y.Reserves x.name ∨
    ∃ e ∈ x.events, ∃ e' ∈ y.events, Text.capitalize e.name = Text.capitalize e'.name

instance (x : Declaration) (n : String) : Decidable (x.Reserves n) :=
  inferInstanceAs (Decidable (_ ∨ _))

instance (x y : Declaration) : Decidable (x.Collides y) :=
  inferInstanceAs (Decidable (_ ∨ _ ∨ _ ∨ _))

/-- What stands beside a declaration is named after it and its events. -/
structure IsNamed (x : Declaration) : Prop where
  settings : ∀ s, x.settings = some s → s.name = settingsInterfaceName x.name
  payload : ∀ e ∈ x.events, e.payloadType = Event.payloadTypeName e.name

theorem IsNamed.mem_payloads_iff {x : Declaration} (hx : x.IsNamed) (n : String) :
    n ∈ x.events.map (·.payloadType) ↔ ∃ e ∈ x.events, n = Event.payloadTypeName e.name := by
  rw [List.mem_map]
  refine exists_congr fun e => and_congr_right fun he => ?_
  rw [hx.payload e he, eq_comm]

/-- The exported names are the short name and those that are made for what stands beside. -/
theorem IsNamed.mem_identifiers_iff {x : Declaration} (hx : x.IsNamed) (n : String) :
    n ∈ x.identifiers ↔ n = x.name ∨ x.Reserves n := by
  -- There is one interface for settings at most.
  have hsettings : n ∈ x.settings.toList.map (·.name) ↔
      x.settings.isSome = true ∧ n = settingsInterfaceName x.name := by
    cases hs : x.settings with
    | none => simp only [Option.toList_none, List.map_nil, List.not_mem_nil, Option.isSome_none,
        Bool.false_eq_true, false_and]
    | some s => simp only [Option.toList_some, List.map_cons, List.map_nil, List.mem_singleton,
        Option.isSome_some, true_and, hx.settings s hs]
  rw [identifiers, List.mem_cons, List.mem_append, hsettings, hx.mem_payloads_iff, Reserves]

/-- Two declarations export a name in common exactly if their own names collide. -/
theorem exists_mem_identifiers_iff {x y : Declaration} (hx : x.IsNamed) (hy : y.IsNamed) :
    (∃ n ∈ x.identifiers, n ∈ y.identifiers) ↔ x.Collides y := by
  constructor
  · rintro ⟨n, hnx, hny⟩
    rcases (hx.mem_identifiers_iff n).mp hnx with rfl | hreserved
    · rcases (hy.mem_identifiers_iff _).mp hny with hname | hreserved
      · exact Or.inl hname
      · exact Or.inr (Or.inr (Or.inl hreserved))
    · rcases (hy.mem_identifiers_iff n).mp hny with rfl | hreserved'
      · exact Or.inr (Or.inl hreserved)
      · -- Both names are made, so they are made in the same way.
        rcases hreserved with ⟨_, rfl⟩ | ⟨e, he, rfl⟩
        · rcases hreserved' with ⟨_, hsame⟩ | ⟨e', _, hsame⟩
          · exact Or.inl ((settingsInterfaceName_inj _ _).mp hsame)
          · exact absurd hsame (settingsInterfaceName_ne_payloadTypeName _ _)
        · rcases hreserved' with ⟨_, hsame⟩ | ⟨e', he', hsame⟩
          · exact absurd hsame.symm (settingsInterfaceName_ne_payloadTypeName _ _)
          · exact Or.inr (Or.inr (Or.inr
              ⟨e, he, e', he', (Event.payloadTypeName_inj _ _).mp hsame⟩))
  · rintro (hname | hreserved | hreserved | ⟨e, he, e', he', hsame⟩)
    · exact ⟨x.name, (hx.mem_identifiers_iff _).mpr (Or.inl rfl),
        (hy.mem_identifiers_iff _).mpr (Or.inl hname)⟩
    · exact ⟨y.name, (hx.mem_identifiers_iff _).mpr (Or.inr hreserved),
        (hy.mem_identifiers_iff _).mpr (Or.inl rfl)⟩
    · exact ⟨x.name, (hx.mem_identifiers_iff _).mpr (Or.inl rfl),
        (hy.mem_identifiers_iff _).mpr (Or.inr hreserved)⟩
    · have hname := (Event.payloadTypeName_inj e.name e'.name).mpr hsame
      exact ⟨Event.payloadTypeName e.name,
        (hx.mem_identifiers_iff _).mpr (Or.inr (Or.inr ⟨e, he, rfl⟩)),
        (hy.mem_identifiers_iff _).mpr (Or.inr (Or.inr ⟨e', he', hname⟩))⟩

end Declaration

/-- All declarations of a run. -/
def Output.declarations (output : Output) : List Declaration :=
  output.enums.map .enum ++ output.interfaces.map .interface ++ output.classes.map .class ++
    output.namespaces.map .namespace

namespace ClassModel

/-- A class that is built has payloads named after its events. -/
theorem payloadType_of_mem_build (r : Resolver) (id : Nat) (kind : ClassKind) (library : String)
    (s : Api.Symbol) (e : Event) (he : e ∈ (build r id kind library s).events) :
    e.payloadType = Event.payloadTypeName e.name := by
  rcases List.mem_map.mp he with ⟨q, hq, rfl⟩
  rcases List.mem_map.mp hq with ⟨raw, _, rfl⟩
  rfl

theorem payloadType_of_mem_declaration (c : ClassModel) (base : Option ClassModel)
    (hevents : ∀ e ∈ c.events, e.payloadType = Event.payloadTypeName e.name)
    (e : EventDeclaration) (he : e ∈ (c.declaration base).events) :
    e.payloadType = Event.payloadTypeName e.name := by
  rcases List.mem_map.mp he with ⟨event, hevent, rfl⟩
  exact hevents event hevent

end ClassModel

section Run

variable (config : Config) (sources : List Source)

/-- If all symbols have different names, declarations of one module share no names after a
    run that succeeds. -/
def NamesAreUnique : Prop :=
  ((declaredSymbols sources).map (·.2.name)).Nodup →
  ∀ {σ : Type} (renderer : Renderer σ) (state : σ) (output : Output),
    (generate config sources renderer state).result = .ok output →
      ∀ (i j : Nat) (x y : Declaration), i ≠ j → output.declarations[i]? = some x →
        output.declarations[j]? = some y → x.emittedModule = y.emittedModule →
          ∀ n ∈ x.identifiers, n ∉ y.identifiers

/-- Whether a symbol is declared by the pass for a kind of items. -/
def isDeclaredAs (config : Config) : Emit.RenderKind → Api.Symbol → Bool
  | .enums, s => isEnumSymbol config s
  | .interface, s => s.kind = .interface
  | .class, s => s.kind = .class
  | .namespace, s => isNamespaceSymbol config s

/-- The symbols that are declared, in the order of their declarations. -/
def declaringSymbols : List (String × Api.Symbol) :=
  [Emit.RenderKind.enums, .interface, .class, .namespace].flatMap fun kind =>
    (declaredSymbols sources).filter (isDeclaredAs config kind ·.2)

/-- A symbol is declared by one pass, since it has one kind, and a namespace is listed as
    an enum or not. -/
theorem isDeclaredAs_unique (s : Api.Symbol) (kind kind' : Emit.RenderKind)
    (h : isDeclaredAs config kind s = true) (h' : isDeclaredAs config kind' s = true) :
    kind = kind' := by
  -- There are sixteen pairs of passes, and what a symbol is decides between any two of them.
  revert h h'
  cases kind <;> cases kind' <;>
    simp only [isDeclaredAs, isEnumSymbol, isNamespaceSymbol] <;>
    cases s.kind <;> cases config.isEnumNamespace s.name <;> decide

/-- No symbol is declared twice. -/
theorem nodup_declaringSymbols (hnames : ((declaredSymbols sources).map (·.2.name)).Nodup) :
    ((declaringSymbols config sources).map (·.2.name)).Nodup := by
  have hall : (declaredSymbols sources).Nodup := hnames.of_map
  have hmem : ∀ p ∈ declaringSymbols config sources, p ∈ declaredSymbols sources := by
    intro p hp
    rcases List.mem_flatMap.mp hp with ⟨_, _, hp⟩
    exact (List.mem_filter.mp hp).1
  -- Different names of symbols make it enough that no symbol is there twice.
  refine List.Nodup.map_on (fun p hp q hq => List.inj_on_of_nodup_map hnames (hmem p hp)
    (hmem q hq)) ?_
  have hkinds : [Emit.RenderKind.enums, .interface, .class, .namespace].Nodup := by decide
  refine List.nodup_flatMap.mpr ⟨fun kind _ => hall.filter _, hkinds.imp ?_⟩
  intro kind kind' hne p hp hp'
  exact hne (isDeclaredAs_unique config p.2 kind kind' (List.mem_filter.mp hp).2
    (List.mem_filter.mp hp').2)

theorem flatMap_exports_eq :
    (synthesize config sources).items.flatMap Item.exports =
      (declaringSymbols config sources).map fun p => Export.ofSymbol config p.2 := by
  rw [flatMap_exports_items]
  simp only [declaringSymbols, List.flatMap_cons, List.flatMap_nil, List.append_nil,
    List.append_assoc]
  rfl

theorem flatMap_declarations_enums (s : Synthesis) :
    (s.enums.map fun (library, ds) => Item.enums library ds).flatMap Item.declarations =
      s.allEnums.map .enum := by
  rw [Synthesis.allEnums, List.map_flatMap, List.flatMap_map]
  rfl

/-- What the items of a run declare is its output. -/
theorem flatMap_declarations_items {σ : Type} (renderer : Renderer σ) (state : σ)
    (output : Output) (hresult : (generate config sources renderer state).result = .ok output) :
    (synthesize config sources).items.flatMap Item.declarations = output.declarations := by
  rcases output_of_generate renderer config sources state output hresult with
    ⟨_, henums, hinterfaces, hclasses, hnamespaces⟩
  rw [Synthesis.items, Synthesis.earlyItems, Output.declarations, henums, hinterfaces, hclasses,
    hnamespaces]
  simp only [List.flatMap_append, flatMap_declarations_enums,
    flatMap_map_singleton _ Item.interface Item.declarations .interface fun _ => rfl,
    flatMap_map_singleton _ Item.class Item.declarations .class fun _ => rfl,
    flatMap_map_singleton _ Item.namespace Item.declarations .namespace fun _ => rfl]

variable {σ : Type} (renderer : Renderer σ) (state : σ) (output : Output)
  (hresult : (generate config sources renderer state).result = .ok output)

include hresult

theorem map_exported_declarations :
    output.declarations.map Declaration.exported =
      (declaringSymbols config sources).map fun p => Export.ofSymbol config p.2 := by
  rw [← flatMap_declarations_items config sources renderer state output hresult,
    ← flatMap_exports_eq, List.map_flatMap]
  exact List.flatMap_congr fun item _ => item.exports_eq.symm

/-- Declarations differ in their qualified names if their symbols do. -/
theorem nodup_qualifiedNames (hnames : ((declaredSymbols sources).map (·.2.name)).Nodup) :
    (output.declarations.map (·.qualifiedName)).Nodup := by
  have hmapped := congrArg (List.map (·.qualifiedName))
    (map_exported_declarations config sources renderer state output hresult)
  rw [List.map_map, List.map_map] at hmapped
  -- Declarations are named after their symbols.
  have hnamesEq : output.declarations.map (·.qualifiedName) =
      (declaringSymbols config sources).map (·.2.name) :=
    (List.map_congr_left fun x _ => (Emit.exported_eq x).2.1.symm).trans hmapped
  rw [hnamesEq]
  exact nodup_declaringSymbols config sources hnames

/-- A declaration has the short name, the name and the module of a symbol. -/
theorem exists_symbol_of_declaration (x : Declaration) (hx : x ∈ output.declarations) :
    ∃ p ∈ declaredSymbols sources, x.name = p.2.shortName ∧ x.qualifiedName = p.2.name ∧
      x.module = TypePath.moduleOf p.2.modulePath := by
  have hmem : x.exported ∈ output.declarations.map Declaration.exported := List.mem_map_of_mem hx
  rw [map_exported_declarations config sources renderer state output hresult] at hmem
  rcases List.mem_map.mp hmem with ⟨p, hp, hexported⟩
  rcases List.mem_flatMap.mp hp with ⟨_, _, hp⟩
  rcases Emit.exported_eq x with ⟨hname, hqualified, hmodule⟩
  rw [← hexported] at hname hqualified hmodule
  exact ⟨p, (List.mem_filter.mp hp).1, hname.symm, hqualified.symm, hmodule.symm⟩

/-- The files of a run export all names that are exported for its declarations. -/
theorem exists_publishes_of_mem (x : Declaration) (hx : x ∈ output.declarations) (n : String)
    (hn : n ∈ x.identifiers) :
    ∃ item ∈ (synthesize config sources).items, ∃ keyword,
      Publishes item.text keyword n x.emittedModule := by
  rw [← flatMap_declarations_items config sources renderer state output hresult,
    List.mem_flatMap] at hx
  rcases hx with ⟨item, hitem, hx⟩
  exact ⟨item, hitem, Emit.publishes_of_mem_identifiers item x hx n hn⟩

/-- What stands beside a declaration of a run is named after it and its events. -/
theorem isNamed_of_mem (x : Declaration) (hx : x ∈ output.declarations) : x.IsNamed := by
  rcases output_of_generate renderer config sources state output hresult with
    ⟨_, _, hinterfaces, _, _⟩
  simp only [Output.declarations, List.mem_append, List.mem_map] at hx
  rcases hx with ((⟨d, _, rfl⟩ | ⟨d, hd, rfl⟩) | ⟨d, hd, rfl⟩) | ⟨d, _, rfl⟩
  · exact ⟨nofun, nofun⟩
  · rw [hinterfaces] at hd
    rcases List.mem_map.mp hd with ⟨c, hc, rfl⟩
    rcases (Hierarchy.mem_classes_ofSources _ _ _ sources c).mp hc with ⟨k, p, _, rfl⟩
    exact ⟨nofun, ClassModel.payloadType_of_mem_declaration _ _
      (ClassModel.payloadType_of_mem_build _ k .interface p.1 p.2)⟩
  · rcases List.mem_iff_getElem?.mp hd with ⟨i, hd⟩
    -- A class was finished after it was built, which leaves its events as they were.
    rcases exists_class_of_output config sources renderer state output hresult i d hd with
      ⟨c, hget, rfl⟩
    rcases exists_symbol_of_finished config sources i c hget with ⟨p, _, hcore⟩
    refine ⟨fun s hs => ?_, ClassModel.payloadType_of_mem_declaration c _ fun e he => ?_⟩
    · have hsettings := (if_pos (kind_of_finished config sources i c hget)).symm.trans hs
      rw [Option.some_inj] at hsettings
      rw [← hsettings]
      rfl
    · have hbuilt : e ∈ c.core.events := he
      rw [hcore] at hbuilt
      exact ClassModel.payloadType_of_mem_build _ i .class p.1 p.2 e hbuilt
  · exact ⟨nofun, nofun⟩

/-- After a run that succeeds, all names that are exported for a declaration are exported
    from its module. Of two declarations of one module, some name is exported for both
    exactly if their own names collide. The payload of an event of the one is declared by
    the other exactly if that has an event of the same name. Declarations of plain symbols
    do not have the same short name. -/
theorem exists_shared_identifier_iff
    (hnames : ((declaredSymbols sources).map (·.2.name)).Nodup) :
    (∀ x ∈ output.declarations, ∀ n ∈ x.identifiers,
        ∃ item ∈ (synthesize config sources).items, ∃ keyword,
          Publishes item.text keyword n x.emittedModule) ∧
      ∀ (i j : Nat) (x y : Declaration), i ≠ j → output.declarations[i]? = some x →
        output.declarations[j]? = some y → x.emittedModule = y.emittedModule →
          ((∃ n ∈ x.identifiers, n ∈ y.identifiers) ↔ x.Collides y) ∧
          (∀ e ∈ x.events, e.payloadType ∈ y.events.map (·.payloadType) ↔
            ∃ e' ∈ y.events, Text.capitalize e.name = Text.capitalize e'.name) ∧
          ∀ p ∈ declaredSymbols sources, ∀ q ∈ declaredSymbols sources,
            p.2.name = x.qualifiedName → q.2.name = y.qualifiedName →
              p.2.IsPlain → q.2.IsPlain → x.name ≠ y.name := by
  refine ⟨exists_publishes_of_mem config sources renderer state output hresult,
    fun i j x y hne hx hy hmodule => ?_⟩
  have hxmem := List.mem_of_getElem? hx
  have hymem := List.mem_of_getElem? hy
  have hxnamed := isNamed_of_mem config sources renderer state output hresult x hxmem
  have hynamed := isNamed_of_mem config sources renderer state output hresult y hymem
  refine ⟨Declaration.exists_mem_identifiers_iff hxnamed hynamed, ?_, ?_⟩
  · intro e he
    rw [hynamed.mem_payloads_iff, hxnamed.payload e he]
    exact exists_congr fun e' => and_congr_right fun _ => Event.payloadTypeName_inj _ _
  · intro p hp q hq hpx hqy hplain hplain' hname
    rcases exists_symbol_of_declaration config sources renderer state output hresult x hxmem with
      ⟨p', hp', hxname, hxqualified, hxmodule⟩
    rcases exists_symbol_of_declaration config sources renderer state output hresult y hymem with
      ⟨q', hq', hyname, hyqualified, hymodule⟩
    -- The symbols are those of the declarations, since no other has their names.
    have hpp : p' = p := List.inj_on_of_nodup_map hnames hp' hp (hxqualified.symm.trans hpx.symm)
    have hqq : q' = q := List.inj_on_of_nodup_map hnames hq' hq (hyqualified.symm.trans hqy.symm)
    subst hpp hqq
    rw [Declaration.emittedModule, Declaration.emittedModule, hxmodule, hymodule,
      Emit.moduleOrName_of_ne _ _ hplain.moduleOf_ne,
      Emit.moduleOrName_of_ne _ _ hplain'.moduleOf_ne] at hmodule
    -- Plain names are told by their modules and short names.
    have hqualified : x.qualifiedName = y.qualifiedName := by
      rw [hxqualified, hyqualified]
      exact hplain.name_eq hplain' hmodule (hxname.symm.trans (hname.trans hyname))
    have hnodup := nodup_qualifiedNames config sources renderer state output hresult hnames
    -- So the two declarations stand at one place.
    refine hne ((List.getElem?_inj ?_ hnodup).mp ?_)
    · rw [List.length_map]
      exact (List.getElem?_eq_some_iff.mp hx).1
    · rw [List.getElem?_map, List.getElem?_map, hx, hy]
      exact congrArg some hqualified

end Run

section Example

/-- A library with two symbols. -/
def twoSymbols (s t : Api.Symbol) : List Source :=
  [{ library := "lib", symbols := [s, t] }]

/-- A class with an event. -/
def firing (name event : String) : Api.Symbol :=
  { kind := .class, name := name, events := [{ name := event }] }

/-- Two classes of one module with different events share no names. -/
theorem no_shared_identifier_firing :
    ∃ output x y, (generate {} (twoSymbols (firing "lib.Button" "press")
        (firing "lib.List" "select")) noteKind []).result = .ok output ∧
      output.declarations[0]? = some x ∧ output.declarations[1]? = some y ∧
      x.emittedModule = y.emittedModule ∧ ¬ ∃ n ∈ x.identifiers, n ∈ y.identifiers := by
  rcases exists_output_of_acyclic {} (twoSymbols (firing "lib.Button" "press")
    (firing "lib.List" "select")) noteKind [] (by decide +kernel) with ⟨output, hresult, _⟩
  have hdeclared := flatMap_declarations_items {} _ noteKind [] output hresult
  have happart : ((synthesize {} (twoSymbols (firing "lib.Button" "press")
      (firing "lib.List" "select"))).items.flatMap Item.declarations)[0]?.any (fun x =>
        ((synthesize {} (twoSymbols (firing "lib.Button" "press")
          (firing "lib.List" "select"))).items.flatMap Item.declarations)[1]?.any fun y =>
            x.emittedModule = y.emittedModule ∧ ¬ x.Collides y) = true := by
    decide +kernel
  rw [hdeclared] at happart
  rcases (Option.any_eq_true ..).mp happart with ⟨x, hx, happart⟩
  rcases (Option.any_eq_true ..).mp happart with ⟨y, hy, happart⟩
  rcases of_decide_eq_true happart with ⟨hmodule, hcollides⟩
  refine ⟨output, x, y, hresult, hx, hy, hmodule, ?_⟩
  rcases exists_shared_identifier_iff {} _ noteKind [] output hresult (by decide +kernel) with
    ⟨_, hshared⟩
  rwa [(hshared 0 1 x y (by decide) hx hy hmodule).1]

/-- The first two declarations of a run share a name. -/
theorem not_namesAreUnique {config : Config} {sources : List Source}
    (hnames : ((declaredSymbols sources).map (·.2.name)).Nodup)
    (hacyclic : (synthesize config sources).classes.cycle? = none)
    (hshared : ((synthesize config sources).items.flatMap Item.declarations)[0]?.any (fun x =>
      ((synthesize config sources).items.flatMap Item.declarations)[1]?.any fun y =>
        x.emittedModule = y.emittedModule ∧ ∃ n ∈ x.identifiers, n ∈ y.identifiers) = true) :
    ¬ NamesAreUnique config sources := by
  intro hall
  rcases exists_output_of_acyclic config sources noteKind [] hacyclic with ⟨output, hresult, _⟩
  rw [flatMap_declarations_items config sources noteKind [] output hresult] at hshared
  rcases (Option.any_eq_true ..).mp hshared with ⟨x, hx, hshared⟩
  rcases (Option.any_eq_true ..).mp hshared with ⟨y, hy, hshared⟩
  rcases of_decide_eq_true hshared with ⟨hmodule, n, hnx, hny⟩
  exact hall hnames noteKind [] output hresult 0 1 x y (by decide) hx hy hmodule n hnx hny

/-- Two declarations of one module can share the names of payloads, the name of a payload
    or of settings and a short name, and short names. -/
theorem not_forall_namesAreUnique :
    ¬ NamesAreUnique {} (twoSymbols (firing "lib.Button" "press") (firing "lib.Link" "press")) ∧
      ¬ NamesAreUnique {} (twoSymbols (firing "lib.Button" "press")
        { kind := .class, name := "lib.PressEventArgs" }) ∧
      ¬ NamesAreUnique {} (twoSymbols { kind := .class, name := "lib.Button" }
        { kind := .class, name := "lib.IButtonSettings" }) ∧
      ¬ NamesAreUnique {} (twoSymbols { kind := .class, name := "lib.Button" }
        { kind := .class, name := "lib.Link", basename := "Button" }) := by
  refine ⟨?_, ?_, ?_, ?_⟩ <;>
    exact not_namesAreUnique (by decide +kernel) (by decide +kernel) (by decide +kernel)

end Example

end Typings
