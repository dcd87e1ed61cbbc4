import Typings.Proofs.Run.Imports

/-!
# The Targets of a Run

A run hands its items to a renderer one after the other and counts those that do not
fail. Which items they are depends on the renderer, and on nothing else: the items
themselves and their order follow from the sources.

The target of an item is made of its kind and its path. The paths of enums and
namespaces are the names of libraries and of symbols, so no two of them are the same.
The path of a class is its module path, and that of an interface is its module path
with its name, and symbols are free to share those. So it is for two classes or two
interfaces to have one target, and for no other items.

## Main definitions

* `Item.path`: What the target of an item has behind the directory of its kind.
* `pathsOf`: The paths of the items of one kind.
* `Synthesis.rendered`: What is handed to a renderer.
* `Rendering.succeeded`: The items that were rendered.

## Theorems

* `Item.target_eq_iff`: When items have the same target.
* `Rendering.items_all_append`: Items are rendered one after the other.
* `Rendering.count_eq`: The items that were rendered are counted.
* `generate_eq_rendering`: What a run leaves comes from its items.
* `pathsOf_class_items`, `pathsOf_interface_items`: The paths that symbols can share.
* `nodup_targets_iff`: When the items that were rendered have different targets.
* `nodup_targets_of_paths`: Symbols that do not share a path have targets of their own.
-/

namespace Typings

open Api (Source)
open Emit (Item RenderKind RenderError)

namespace Emit.Item

/-- What the target of an item has behind the directory of its kind: the library of
    enums, the module path of an interface with its name, the module path of a class, and
    the name of a namespace. -/
def path : Item → String
  | .enums library _ => library
  | .interface d => d.fullName ++ "." ++ d.name
  | .class d => d.fullName
  | .namespace d => d.qualifiedName

/-- The letter that the directory of a kind begins with. -/
def letter : RenderKind → Char
  | .enums => 'e'
  | .interface => 'i'
  | .class => 'c'
  | .namespace => 'n'

theorem head?_target (x : Item) : x.target.toList.head? = some (letter x.kind) := by
  cases x with
  | enums library declarations =>
      rw [target, enumsTarget, String.toList_append, String.toList_append]
      rfl
  | interface d =>
      rw [target, interfaceTarget, String.toList_append, String.toList_append,
        String.toList_append]
      rfl
  | «class» d =>
      rw [target, classTarget, String.toList_append]
      rfl
  | «namespace» d =>
      rw [target, namespaceTarget, String.toList_append]
      rfl

/-- Items have the same target exactly if they have the same kind and the same path. -/
theorem target_eq_iff (x y : Item) :
    x.target = y.target ↔ x.kind = y.kind ∧ x.path = y.path := by
  have hkind : x.target = y.target → x.kind = y.kind := by
    intro htarget
    -- The directories of the kinds begin with different letters.
    have hhead := congrArg (·.toList.head?) htarget
    simp only [head?_target, Option.some_inj] at hhead
    revert hhead
    cases x.kind <;> cases y.kind <;> decide
  have hpath : x.kind = y.kind → (x.target = y.target ↔ x.path = y.path) := by
    intro hkind
    -- What is put around a path depends on the kind alone, and is cancelled.
    cases x <;> cases y <;> first | contradiction | skip
    · simp only [target, enumsTarget, path, String.append_left_inj, String.append_right_inj]
    · simp only [target, interfaceTarget, path, String.append_assoc, String.append_right_inj]
    · simp only [target, classTarget, path, String.append_right_inj]
    · simp only [target, namespaceTarget, path, String.append_right_inj]
  exact ⟨fun h => ⟨hkind h, (hpath (hkind h)).mp h⟩, fun h => (hpath h.1).mpr h.2⟩

end Emit.Item

/-- The paths of the items of one kind. -/
def pathsOf (kind : RenderKind) (items : List Item) : List String :=
  (items.filter (·.kind = kind)).map Item.path

theorem pathsOf_append (kind : RenderKind) (items others : List Item) :
    pathsOf kind (items ++ others) = pathsOf kind items ++ pathsOf kind others := by
  rw [pathsOf, List.filter_append, List.map_append]
  rfl

/-- Where all items are of one kind, that kind has all the paths. -/
theorem pathsOf_map {α : Type} (kind own : RenderKind) (declarations : List α) (item : α → Item)
    (hown : ∀ d, (item d).kind = own) :
    pathsOf kind (declarations.map item) =
      if own = kind then declarations.map fun d => (item d).path else [] := by
  rw [pathsOf, List.filter_map, List.map_map]
  split_ifs with hkind
  · rw [List.filter_eq_self.mpr]
    · rfl
    · exact fun d _ => decide_eq_true ((hown d).trans hkind)
  · rw [List.filter_eq_nil_iff.mpr, List.map_nil]
    exact fun d _ h => hkind ((hown d).symm.trans (of_decide_eq_true h))

/-- Items have different targets exactly if those of each kind have different paths. -/
theorem nodup_map_target_iff (items : List Item) :
    (items.map Item.target).Nodup ↔ ∀ kind, (pathsOf kind items).Nodup := by
  -- Said pair by pair, both sides speak about the items themselves.
  have hkinds : ∀ kind, (pathsOf kind items).Nodup ↔
      items.Pairwise fun x y => x.kind = kind → y.kind = kind → x.path ≠ y.path := by
    intro kind
    rw [pathsOf, List.Nodup, List.pairwise_map, List.pairwise_filter]
    simp only [decide_eq_true_eq]
  rw [forall_congr' hkinds, List.Nodup, List.pairwise_map, List.pairwise_iff_forall_sublist]
  simp only [List.pairwise_iff_forall_sublist, ne_eq, Item.target_eq_iff, not_and]
  constructor
  · intro h kind x y hxy hx hy
    exact h hxy (hx.trans hy.symm)
  · intro h x y hxy hkind
    exact h x.kind hxy rfl hkind.symm

namespace Rendering

variable {σ : Type} (renderer : Renderer σ)

/-- The items that were rendered. -/
def succeeded (r : Rendering σ) : List Item :=
  (r.items.filter (·.error.isNone)).map (·.item)

/-- What was rendered before the items has no part in how they are rendered, apart from the
    state it has led to. -/
theorem foldl_render (items : List Item) (r : Rendering σ) :
    items.foldl (render renderer) r =
      ⟨(all renderer r.state items).state, r.items ++ (all renderer r.state items).items⟩ := by
  induction items generalizing r with
  | nil => rw [all, List.foldl_nil, List.foldl_nil, List.append_nil]
  | cons item rest ih =>
      rw [all, List.foldl_cons, List.foldl_cons, ih, ih (render renderer ⟨r.state, []⟩ item)]
      simp only [render, List.nil_append, List.append_assoc]

/-- Items are rendered one after the other. -/
theorem all_append (state : σ) (items others : List Item) :
    all renderer state (items ++ others) =
      ⟨(all renderer (all renderer state items).state others).state,
        (all renderer state items).items ++
          (all renderer (all renderer state items).state others).items⟩ := by
  rw [all, List.foldl_append, foldl_render]
  rfl

theorem all_concat (state : σ) (items : List Item) (item : Item) :
    all renderer state (items ++ [item]) = (all renderer state items).render renderer item :=
  List.foldl_concat ..

/-- What one more item does to the items that were rendered. -/
theorem succeeded_render (r : Rendering σ) (item : Item) :
    (render renderer r item).succeeded =
      r.succeeded ++ if (renderer r.state item).2.isNone then [item] else [] := by
  rw [succeeded, render, List.filter_append, List.map_append]
  cases (renderer r.state item).2 <;> rfl

theorem map_item_all (state : σ) (items : List Item) :
    (all renderer state items).items.map (·.item) = items := by
  induction items using List.reverseRecOn with
  | nil => rfl
  | append_singleton items item ih =>
      rw [all_append, List.map_append, ih]
      rfl

theorem succeeded_sublist (state : σ) (items : List Item) :
    (all renderer state items).succeeded.Sublist items := by
  have hsublist := (List.filter_sublist (p := fun r : RenderedItem => r.error.isNone)
    (l := (all renderer state items).items)).map (·.item)
  rwa [map_item_all] at hsublist

/-- The items that were rendered are counted. -/
theorem count_eq (r : Rendering σ) : r.count = r.succeeded.length := by
  -- Every item was rendered or has failed.
  have hsum : ∀ items : List RenderedItem, (items.filter (·.error.isNone)).length +
      (items.filterMap RenderedItem.failure?).length = items.length := by
    intro items
    induction items with
    | nil => rfl
    | cons item rest ih =>
        cases herror : item.error with
        | none =>
            have hfailure : item.failure? = none := by rw [RenderedItem.failure?, herror]; rfl
            rw [List.filter_cons_of_pos (by rw [herror]; rfl), List.filterMap_cons_none hfailure,
              List.length_cons, List.length_cons]
            omega
        | some e =>
            have hfailure : item.failure? = some ⟨item.item.kind, item.item.name, e.message⟩ := by
              rw [RenderedItem.failure?, herror]; rfl
            rw [List.filter_cons_of_neg (by rw [herror]; exact nofun),
              List.filterMap_cons_some hfailure, List.length_cons, List.length_cons]
            omega
  rw [count, succeeded, List.length_map, failures, ← hsum r.items, Nat.add_sub_cancel]

theorem count_all_append (state : σ) (items others : List Item) :
    (all renderer state (items ++ others)).count = (all renderer state items).count +
      (all renderer (all renderer state items).state others).count := by
  rw [count_eq, count_eq, count_eq, all_append, succeeded, List.filter_append, List.map_append,
    List.length_append]
  rfl

theorem state_all_append (state : σ) (items others : List Item) :
    (all renderer state (items ++ others)).state =
      (all renderer (all renderer state items).state others).state := by
  rw [all_append]

end Rendering

/-- What is handed to a renderer, in order: all items if there is no cycle, and otherwise
    those that come before the search for cycles. -/
def Synthesis.rendered (s : Synthesis) : List Item :=
  if s.classes.cycle?.isNone then s.items else s.earlyItems

section Run

variable {σ : Type} (config : Config) (sources : List Source) (renderer : Renderer σ) (state : σ)

/-- How the items of a run are rendered. -/
def rendering : Rendering σ :=
  Rendering.all renderer state (synthesize config sources).rendered

/-- A run leaves the state that its items lead to, and a run that succeeds counts those
    that were rendered. -/
theorem generate_eq_rendering :
    (generate config sources renderer state).state =
        (rendering config sources renderer state).state ∧
      ∀ output, (generate config sources renderer state).result = .ok output →
        output.report.rendered = (rendering config sources renderer state).succeeded.length := by
  rw [rendering, Synthesis.rendered]
  cases hcycle : (synthesize config sources).classes.cycle? with
  | some cycle =>
      rw [state_generate_of_cycle renderer config sources state cycle hcycle,
        (result_generate_eq_error_iff renderer config sources state cycle).mpr hcycle]
      exact ⟨(Rendering.state_all renderer state _).symm, nofun⟩
  | none =>
      rw [state_generate_of_acyclic config sources renderer state hcycle]
      refine ⟨(Rendering.state_all renderer state _).symm, fun output hresult => ?_⟩
      rw [generate] at hresult
      simp only [hcycle, Except.ok.injEq] at hresult
      -- Each kind is rendered from the state that the kinds before it lead to.
      rw [← hresult, ← Rendering.count_eq]
      simp only [Option.isNone_none, if_true, Synthesis.items, Synthesis.earlyItems,
        Rendering.count_all_append, Rendering.state_all_append]

/-- Every item that is rendered is one of those that follow from the sources. -/
theorem succeeded_sublist_items :
    (rendering config sources renderer state).succeeded.Sublist
      (synthesize config sources).items := by
  refine (Rendering.succeeded_sublist renderer state _).trans ?_
  rw [Synthesis.rendered]
  -- A cycle keeps classes and namespaces, which come last, from being rendered.
  split_ifs
  · exact List.Sublist.refl _
  · exact (List.sublist_append_left _ _).trans (List.sublist_append_left _ _)

theorem pathsOf_sublist (kind : RenderKind) :
    (pathsOf kind (rendering config sources renderer state).succeeded).Sublist
      (pathsOf kind (synthesize config sources).items) :=
  ((succeeded_sublist_items config sources renderer state).filter _).map _

/-- The items of a kind are those that one pass makes. -/
theorem pathsOf_items (kind : RenderKind) :
    pathsOf kind (synthesize config sources).items =
      match kind with
      | .enums => (synthesize config sources).enums.map Prod.fst
      | .interface => (synthesize config sources).interfaceDeclarations.map fun d =>
          d.fullName ++ "." ++ d.name
      | .class => (synthesize config sources).finished.1.declarations.map (·.fullName)
      | .namespace => (synthesize config sources).namespaceDeclarations.map (·.qualifiedName) := by
  rw [Synthesis.items, Synthesis.earlyItems]
  simp only [pathsOf_append]
  rw [pathsOf_map kind .enums _ _ fun _ => rfl, pathsOf_map kind .interface _ _ fun _ => rfl,
    pathsOf_map kind .class _ _ fun _ => rfl, pathsOf_map kind .namespace _ _ fun _ => rfl]
  cases kind <;>
    simp only [reduceCtorEq, if_true, if_false, List.nil_append, List.append_nil] <;> rfl

/-- The paths of classes are the module paths of their symbols. -/
theorem pathsOf_class_items :
    pathsOf .class (synthesize config sources).items = classPaths sources := by
  have hnames := congrArg (List.map (·.2.2)) (names_finished_synthesize config sources)
  rw [List.map_map, List.map_map] at hnames
  rw [pathsOf_items, Hierarchy.declarations, List.map_map]
  exact hnames

/-- The paths of interfaces are the module paths of their symbols with their short names. -/
theorem pathsOf_interface_items :
    pathsOf .interface (synthesize config sources).items =
      (symbolsOf .interface sources).map fun p => p.2.modulePath ++ "." ++ p.2.shortName := by
  have hnames := congrArg (List.map fun n => n.2.2 ++ "." ++ n.1)
    (names_interfaces_synthesize config sources)
  rw [List.map_map, List.map_map] at hnames
  rw [pathsOf_items, Synthesis.interfaceDeclarations, List.map_map]
  exact hnames

/-- Enums have different paths if libraries have different names. -/
theorem nodup_pathsOf_enums (hlibraries : (sources.map (·.library)).Nodup) :
    (pathsOf .enums (synthesize config sources).items).Nodup := by
  rw [pathsOf_items]
  -- Libraries without enums have no item.
  refine ((List.filter_sublist (l := sources.map fun s => (s.library, enumsOf config s))).map
    Prod.fst).nodup ?_
  rw [List.map_map]
  exact hlibraries

/-- Namespaces have different paths if symbols have different names. -/
theorem nodup_pathsOf_namespaces (hnames : ((declaredSymbols sources).map (·.2.name)).Nodup) :
    (pathsOf .namespace (synthesize config sources).items).Nodup := by
  have hexports := congrArg (List.map (·.qualifiedName)) (flatMap_exports_namespaces config sources)
  rw [flatMap_map_singleton _ Item.namespace Item.exports Emit.Export.ofNamespace fun _ => rfl,
    List.map_map, List.map_map] at hexports
  rw [pathsOf_items]
  have hpaths : (synthesize config sources).namespaceDeclarations.map (·.qualifiedName) =
      ((declaredSymbols sources).filter (isNamespaceSymbol config ·.2)).map (·.2.name) := hexports
  simp only [hpaths]
  exact (List.filter_sublist.map _).nodup hnames

/-- The items that were rendered have different targets exactly if the classes among them
    have different module paths, and so have the interfaces with their names. -/
theorem nodup_targets_iff (hlibraries : (sources.map (·.library)).Nodup)
    (hnames : ((declaredSymbols sources).map (·.2.name)).Nodup) :
    ((rendering config sources renderer state).succeeded.map Item.target).Nodup ↔
      (pathsOf .class (rendering config sources renderer state).succeeded).Nodup ∧
        (pathsOf .interface (rendering config sources renderer state).succeeded).Nodup := by
  rw [nodup_map_target_iff]
  refine ⟨fun h => ⟨h .class, h .interface⟩, fun h kind => ?_⟩
  cases kind with
  | enums =>
      exact (pathsOf_sublist config sources renderer state .enums).nodup
        (nodup_pathsOf_enums config sources hlibraries)
  | interface => exact h.2
  | «class» => exact h.1
  | «namespace» =>
      exact (pathsOf_sublist config sources renderer state .namespace).nodup
        (nodup_pathsOf_namespaces config sources hnames)

/-- Symbols that do not share a path have targets of their own, whichever of them are
    rendered. -/
theorem nodup_targets_of_paths (hlibraries : (sources.map (·.library)).Nodup)
    (hnames : ((declaredSymbols sources).map (·.2.name)).Nodup)
    (hclasses : (classPaths sources).Nodup)
    (hinterfaces : ((symbolsOf .interface sources).map fun p =>
      p.2.modulePath ++ "." ++ p.2.shortName).Nodup) :
    ((rendering config sources renderer state).succeeded.map Item.target).Nodup := by
  rw [← pathsOf_class_items config] at hclasses
  rw [← pathsOf_interface_items config] at hinterfaces
  exact (nodup_targets_iff config sources renderer state hlibraries hnames).mpr
    ⟨(pathsOf_sublist config sources renderer state .class).nodup hclasses,
      (pathsOf_sublist config sources renderer state .interface).nodup hinterfaces⟩

end Run

end Typings
