import Typings.Project.Output
import Typings.Proofs.FileTree
import Typings.Proofs.Run.Targets

/-!
# What Files Hold After a Run

Every item that is rendered is written to the file of its target, whatever is there. So a
file holds the text of the item that was the last to be written there, and items that were
written there before are gone, though the run counts all of them.

Items come to the same file in two ways. They can have the same target: two classes of
one module path, or two interfaces of one module path and name. Or their targets are
spelled differently and lead to the same place, which takes a part that is not a name. A
run that meets neither keeps all that it counts.

## Main definitions

* `OutputDirectory.fileOf`, `OutputDirectory.contentOf`: The file of an item, and the text
  that is written to it.
* `OutputDirectory.HoldsOwnText`: The file of an item holds that text.
* `OutputDirectory.Clash`: Two items came to one place with different texts.
* `OutputDirectory.Keeps`: Every file holds the text of the last item written to it.
* `NothingIsOverwritten`: All items that are counted have targets of their own, and their
  files hold their texts.

## Theorems

* `FileTree.writeText_cases`, `FileTree.writesOnly_writeText`: What writing a text does.
* `OutputDirectory.Keeps.render`: Rendering one more item.
* `OutputDirectory.keeps_all`: Every file holds the text of the last item.
* `OutputDirectory.Keeps.holdsOwnText_iff`: When all items keep their texts.
* `written_kept_iff`: When no item of a run is overwritten.
* `not_nothingIsOverwritten`: Items that are counted can be overwritten.
-/

namespace Typings

open Api (Source)
open Emit (Item RenderError)

/-- Writing a text fails after some directories were made, or puts a file in a place
    where there is no directory. -/
theorem FileTree.writeText_cases (t : FileTree) (path text : String) :
    (∃ made e, t.writeText path text = (made, some e) ∧ t.Grows made) ∨
      ∃ made place, t.writeText path text = (made.put place (.file text.toUTF8), none) ∧
        t.Grows made ∧ made.locate path = .ok place ∧ made.get? place ≠ some .directory := by
  have hgrows := grows_createDirs t ((Path.parent? path).getD "")
  rcases hmade : t.createDirs ((Path.parent? path).getD "") with ⟨made, _ | fault⟩
  · rw [hmade] at hgrows
    cases hwrite : made.write path text.toUTF8 with
    | error fault =>
        refine Or.inl ⟨made, .io path fault.message, ?_, hgrows⟩
        simp only [writeText, hmade, hwrite]
    | ok written =>
        rcases exists_place_of_write made written path _ hwrite with ⟨place, hlocate, hget, rfl⟩
        refine Or.inr ⟨made, place, ?_, hgrows, hlocate, hget⟩
        simp only [writeText, hmade, hwrite]
  · rw [hmade] at hgrows
    refine Or.inl ⟨made, .io ((Path.parent? path).getD "") fault.message, ?_, hgrows⟩
    simp only [writeText, hmade]

/-- Writing a text writes it at the place that its path leads to, and makes directories
    above. -/
theorem FileTree.writesOnly_writeText (t : FileTree) (path text : String) :
    t.WritesOnly (fun place content => placeOf? path = some place ∧ content = text.toUTF8)
      (LeadsThrough ((Path.parent? path).getD "")) (t.writeText path text).1 := by
  have hdirectories := writesOnly_createDirs
    (fun place content => placeOf? path = some place ∧ content = text.toUTF8) t
    ((Path.parent? path).getD "")
  rw [writeText]
  rcases hmade : t.createDirs ((Path.parent? path).getD "") with ⟨made, _ | fault⟩
  · rw [hmade] at hdirectories
    simp only
    cases hwrite : made.write path text.toUTF8 with
    | error fault => exact hdirectories
    | ok written => exact hdirectories.trans (writesOnly_write _ made written path _ hwrite)
  · rwa [hmade] at hdirectories

namespace OutputDirectory

variable (o : OutputDirectory)

/-- The file of an item. -/
def fileOf (item : Item) : String :=
  o.pathOf item.target

/-- The text that is written for an item, after it was reworked. -/
def contentOf (item : Item) : String :=
  o.processor.apply item.target item.text

/-- The file of an item holds the text that was written for it. -/
def HoldsOwnText (t : FileTree) (item : Item) : Prop :=
  t.readText (o.fileOf item) = .ok (o.contentOf item)

/-- Two items came to one place with different texts. -/
def Clash (t : FileTree) (x y : Item) : Prop :=
  t.locate (o.fileOf x) = t.locate (o.fileOf y) ∧ o.contentOf x ≠ o.contentOf y

instance (t : FileTree) (x y : Item) : Decidable (o.Clash t x y) :=
  inferInstanceAs (Decidable (_ ∧ _))

/-- The items whose files are at a place. -/
def itemsAt (t : FileTree) (items : List Item) (place : Place) : List Item :=
  items.filter fun item => t.locate (o.fileOf item) = .ok place

/-- Every item that was written has a file, and what is at a place is the text of the last
    item that was written there. -/
structure Keeps (t : FileTree) (written : List Item) : Prop where
  located : ∀ item ∈ written, ∃ place, t.locate (o.fileOf item) = .ok place
  holdsLast : ∀ place last, (o.itemsAt t written place).getLast? = some last →
    t.get? place = some (.file (o.contentOf last).toUTF8)

variable {o} {t t' : FileTree} {written : List Item}

section Staying

variable (hlocated : ∀ item ∈ written, ∃ place, t.locate (o.fileOf item) = .ok place)
  (hkeeps : t.KeepsDirectories t')

include hlocated hkeeps

/-- Items keep their files as long as directories stay. -/
theorem located_of_keeps : ∀ item ∈ written, ∃ place, t'.locate (o.fileOf item) = .ok place := by
  intro item hitem
  rcases hlocated item hitem with ⟨place, hlocate⟩
  exact ⟨place, FileTree.locate_of_keeps hkeeps _ _ hlocate⟩

/-- Items stay where they are as long as directories stay. -/
theorem itemsAt_of_keeps (place : Place) :
    o.itemsAt t' written place = o.itemsAt t written place := by
  refine List.filter_congr fun item hitem => ?_
  rcases hlocated item hitem with ⟨place', hlocate⟩
  rw [hlocate, FileTree.locate_of_keeps hkeeps _ _ hlocate]

end Staying

theorem itemsAt_concat (item : Item) (place other : Place)
    (hlocate : t.locate (o.fileOf item) = .ok place) :
    o.itemsAt t (written ++ [item]) other =
      o.itemsAt t written other ++ if place = other then [item] else [] := by
  rw [itemsAt, List.filter_append, List.filter_singleton, hlocate]
  by_cases hplace : place = other
  · rw [if_pos hplace, hplace, decide_eq_true rfl]
    rfl
  · rw [if_neg hplace, decide_eq_false fun h => hplace (Except.ok.inj h)]
    rfl

theorem Keeps.mono (h : o.Keeps t written) (hgrows : t.Grows t') : o.Keeps t' written where
  located := located_of_keeps h.located hgrows.keepsDirectories
  holdsLast place last hlast := by
    rw [itemsAt_of_keeps h.located hgrows.keepsDirectories] at hlast
    exact hgrows place _ (h.holdsLast place last hlast)

/-- One more item is written. What is at its place is its text, and everything else is what
    it was. -/
theorem Keeps.put (h : o.Keeps t written) (item : Item) (place : Place)
    (hlocate : t.locate (o.fileOf item) = .ok place) (hget : t.get? place ≠ some .directory) :
    o.Keeps (t.put place (.file (o.contentOf item).toUTF8)) (written ++ [item]) := by
  -- A file in the place of a file changes no directory, so all items stay where they are.
  have hkeeps := FileTree.keepsDirectories_put t place (.file (o.contentOf item).toUTF8) hget
  have hlocated : ∀ x ∈ written ++ [item], ∃ place, t.locate (o.fileOf x) = .ok place := by
    intro x hx
    rcases List.mem_append.mp hx with hx | hx
    · exact h.located x hx
    · rw [List.mem_singleton.mp hx]
      exact ⟨place, hlocate⟩
  refine ⟨located_of_keeps hlocated hkeeps, fun other last hlast => ?_⟩
  rw [itemsAt_of_keeps hlocated hkeeps, itemsAt_concat item place other hlocate] at hlast
  rw [FileTree.get?_put _ _ _ _ (FileTree.ne_nil_of_get? t place hget)]
  by_cases hplace : other = place
  · -- The item is the last one there.
    rw [if_pos hplace.symm, List.getLast?_concat, Option.some_inj] at hlast
    rw [if_pos hplace, hlast]
  · -- Elsewhere both the items and what is there are what they were.
    rw [if_neg (Ne.symm hplace), List.append_nil] at hlast
    rw [if_neg hplace]
    exact h.holdsLast other last hlast

/-- One more item is rendered: it is written, or it fails and leaves what was written. -/
theorem Keeps.render {r : Rendering FileTree} (h : o.Keeps r.state r.succeeded) (item : Item) :
    o.Keeps (r.render o.renderer item).state (r.render o.renderer item).succeeded := by
  rw [Rendering.succeeded_render]
  rcases FileTree.writeText_cases r.state (o.fileOf item) (o.contentOf item) with
    ⟨made, e, hresult, hgrows⟩ | ⟨made, place, hresult, hgrows, hlocate, hget⟩
  · have hrender : o.renderer r.state item = (made, some e) := hresult
    rw [Rendering.render, hrender]
    simp only [Option.isNone_some, Bool.false_eq_true, if_false, List.append_nil]
    exact h.mono hgrows
  · have hrender : o.renderer r.state item =
      (made.put place (.file (o.contentOf item).toUTF8), none) := hresult
    rw [Rendering.render, hrender]
    simp only [Option.isNone_none, if_true]
    exact (h.mono hgrows).put item place hlocate hget

/-- After a run every file holds the text of the last item that was written there. -/
theorem keeps_all (t : FileTree) (items : List Item) :
    o.Keeps (Rendering.all o.renderer t items).state
      (Rendering.all o.renderer t items).succeeded := by
  induction items using List.reverseRecOn with
  | nil => exact ⟨nofun, nofun⟩
  | append_singleton items item ih =>
      rw [Rendering.all_concat]
      exact ih.render item

/-- All items that were written keep their texts exactly if no two of them clash. -/
theorem Keeps.holdsOwnText_iff (h : o.Keeps t written) :
    (∀ item ∈ written, o.HoldsOwnText t item) ↔
      ∀ x ∈ written, ∀ y ∈ written, ¬ o.Clash t x y := by
  constructor
  · rintro hown x hx y hy ⟨hlocate, hcontent⟩
    have hread : t.readText (o.fileOf x) = .ok (o.contentOf y) :=
      (FileTree.readText_eq_of_locate t _ _ hlocate).trans (hown y hy)
    exact hcontent (Except.ok.inj ((hown x hx).symm.trans hread))
  · intro hclash item hitem
    rcases h.located item hitem with ⟨place, hlocate⟩
    have hmem : item ∈ o.itemsAt t written place :=
      List.mem_filter.mpr ⟨hitem, decide_eq_true hlocate⟩
    cases hlast : (o.itemsAt t written place).getLast? with
    | none =>
        rw [List.getLast?_eq_none_iff.mp hlast] at hmem
        exact absurd hmem List.not_mem_nil
    | some last =>
        rcases List.mem_filter.mp (List.mem_of_getLast? hlast) with ⟨hwritten, hthere⟩
        -- The text that is there is that of the last item, which does not clash with this one.
        have hsame : o.contentOf item = o.contentOf last := by
          by_contra hcontent
          exact hclash item hitem last hwritten
            ⟨hlocate.trans (of_decide_eq_true hthere).symm, hcontent⟩
        rw [HoldsOwnText, hsame]
        exact FileTree.readText_of_get? t _ place _ hlocate (h.holdsLast place last hlast)

/-- Different targets whose files have plain paths are written to different places. -/
theorem Keeps.holdsOwnText_of_plain (h : o.Keeps t written)
    (htargets : (written.map Item.target).Nodup)
    (hplain : ∀ item ∈ written, Path.IsPlain (Emit.targetFile item.target)) :
    ∀ item ∈ written, o.HoldsOwnText t item := by
  refine h.holdsOwnText_iff.mpr ?_
  rintro x hx y hy ⟨hlocate, hcontent⟩
  -- One place means one target, and there is one item with that.
  rcases h.located x hx with ⟨place, hplace⟩
  have hfile : Emit.targetFile x.target = Emit.targetFile y.target :=
    FileTree.eq_of_locate_join t o.path _ _ place (hplain x hx) (hplain y hy) hplace
      (hlocate.symm.trans hplace)
  have htarget : x.target = y.target := (String.append_left_inj _).mp hfile
  rw [List.inj_on_of_nodup_map htargets hx hy htarget] at hcontent
  exact hcontent rfl

end OutputDirectory

section Run

variable (o : OutputDirectory) (t : FileTree) (config : Config) (sources : List Source)

/-- The items that a run writes to files, in order. -/
def OutputDirectory.written : List Item :=
  (rendering config sources o.renderer t).succeeded

/-- If all libraries and all symbols have different names, all items that a run has written
    have different targets, and their files hold their texts. -/
def NothingIsOverwritten : Prop :=
  (sources.map (·.library)).Nodup → ((declaredSymbols sources).map (·.2.name)).Nodup →
    ((o.written t config sources).map Item.target).Nodup ∧
      ∀ item ∈ o.written t config sources,
        o.HoldsOwnText (generate config sources o.renderer t).state item

theorem keeps_generate :
    o.Keeps (generate config sources o.renderer t).state (o.written t config sources) := by
  rw [(generate_eq_rendering config sources o.renderer t).1]
  exact OutputDirectory.keeps_all t _

/-- The items that a run has written, which are as many as it counts, have different targets
    exactly if the classes among them have different module paths, and so have the
    interfaces with their names. They all keep their texts exactly if no two of them clash,
    and they do if all targets are different and plain. -/
theorem written_kept_iff (hlibraries : (sources.map (·.library)).Nodup)
    (hnames : ((declaredSymbols sources).map (·.2.name)).Nodup) :
    (((o.written t config sources).map Item.target).Nodup ↔
        (pathsOf .class (o.written t config sources)).Nodup ∧
          (pathsOf .interface (o.written t config sources)).Nodup) ∧
      ((∀ item ∈ o.written t config sources,
          o.HoldsOwnText (generate config sources o.renderer t).state item) ↔
        ∀ x ∈ o.written t config sources, ∀ y ∈ o.written t config sources,
          ¬ o.Clash (generate config sources o.renderer t).state x y) ∧
      (((o.written t config sources).map Item.target).Nodup →
        (∀ item ∈ o.written t config sources, Path.IsPlain (Emit.targetFile item.target)) →
          ∀ item ∈ o.written t config sources,
            o.HoldsOwnText (generate config sources o.renderer t).state item) ∧
      ∀ output, (generate config sources o.renderer t).result = .ok output →
        output.report.rendered = (o.written t config sources).length := by
  have hkeeps := keeps_generate o t config sources
  exact ⟨nodup_targets_iff config sources o.renderer t hlibraries hnames,
    hkeeps.holdsOwnText_iff, hkeeps.holdsOwnText_of_plain,
    (generate_eq_rendering config sources o.renderer t).2⟩

end Run

section Example

/-- A directory whose texts are not reworked. -/
def plainDirectory : OutputDirectory := { path := "/out" }

/-- A library with a declaration of each kind. -/
def oneOfEach : List Source :=
  [{ library := "lib"
     symbols :=
       [{ kind := .enum, name := "lib.Color" }, { kind := .interface, name := "lib.Shape" },
        { kind := .class, name := "lib.Button" }, { kind := .namespace, name := "lib.util" }] }]

/-- A library with two declarations of one kind, of one module path and name. -/
def moduleMates (kind : Api.SymbolKind) : List Source :=
  [{ library := "lib"
     symbols :=
       [{ kind := kind, name := "lib.First", basename := "All", module := "lib/All"
          description := "The first." },
        { kind := kind, name := "lib.Second", basename := "All", module := "lib/All" }] }]

/-- Declarations of different kinds do not come to the same file, and keep their texts. -/
theorem written_kept_oneOfEach :
    (plainDirectory.written .empty {} oneOfEach).map Item.target =
        ["enums/lib.enums", "interfaces/lib/Shape.Shape", "classes/lib/Button",
          "namespaces/lib.util"] ∧
      ∀ item ∈ plainDirectory.written .empty {} oneOfEach,
        plainDirectory.HoldsOwnText
          (generate {} oneOfEach plainDirectory.renderer .empty).state item := by
  have htargets : (plainDirectory.written .empty {} oneOfEach).map Item.target =
      ["enums/lib.enums", "interfaces/lib/Shape.Shape", "classes/lib/Button",
        "namespaces/lib.util"] := by
    decide +kernel
  have hnodup : ((plainDirectory.written .empty {} oneOfEach).map Item.target).Nodup :=
    htargets ▸ by decide +kernel
  exact ⟨htargets, (written_kept_iff plainDirectory .empty {} oneOfEach (by decide +kernel)
    (by decide +kernel)).2.2.1 hnodup (by decide +kernel)⟩

/-- Items of which two clash do not all keep their texts. -/
theorem not_forall_holdsOwnText {o : OutputDirectory} {t : FileTree} {config : Config}
    {sources : List Source}
    (hclash : (o.written t config sources).any (fun x => (o.written t config sources).any fun y =>
      o.Clash (generate config sources o.renderer t).state x y) = true) :
    ¬ ∀ item ∈ o.written t config sources,
      o.HoldsOwnText (generate config sources o.renderer t).state item := by
  rw [(keeps_generate o t config sources).holdsOwnText_iff]
  intro hnone
  rcases List.any_eq_true.mp hclash with ⟨x, hx, hclash⟩
  rcases List.any_eq_true.mp hclash with ⟨y, hy, hclash⟩
  exact hnone x hx y hy (of_decide_eq_true hclash)

/-- Two classes of one module path have one target, and the text of one of them is lost. Two
    interfaces of one module path and name have one target as well. -/
theorem not_nothingIsOverwritten :
    ¬ NothingIsOverwritten plainDirectory .empty {} (moduleMates .class) ∧
      (¬ ((plainDirectory.written .empty {} (moduleMates .class)).map Item.target).Nodup) ∧
      (¬ ∀ item ∈ plainDirectory.written .empty {} (moduleMates .class),
        plainDirectory.HoldsOwnText
          (generate {} (moduleMates .class) plainDirectory.renderer .empty).state item) ∧
      ¬ NothingIsOverwritten plainDirectory .empty {} (moduleMates .interface) := by
  have hclass : ¬ ((plainDirectory.written .empty {} (moduleMates .class)).map
      Item.target).Nodup := by
    decide +kernel
  have hinterface : ¬ ((plainDirectory.written .empty {} (moduleMates .interface)).map
      Item.target).Nodup := by
    decide +kernel
  refine ⟨fun hall => ?_, hclass, not_forall_holdsOwnText (by decide +kernel), fun hall => ?_⟩
  · exact hclass (hall (by decide +kernel) (by decide +kernel)).1
  · exact hinterface (hall (by decide +kernel) (by decide +kernel)).1

end Example

end Typings
