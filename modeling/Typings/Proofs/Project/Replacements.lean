import Typings.Project.Replacements
import Typings.Proofs.Project.Output
import Typings.Proofs.Project.Trees

/-!
# Replacement Files Overlay the Output

Replacements are copied while their directory is walked through, name by name and down into
every directory. What is read next is looked up in a tree that has been written to already,
so it matters that the two directories lie apart: no copy is among the files that are still
to come. Directories may be made among them, since the path of the output directory can
lead through them and up again, but these have no files.

So the walk comes by every file once, and finds it as it was in the beginning. What it
leaves is told by the files it has come by: their copies, where the output directory has
a place for them, and everything else unchanged. This holds after every step, and in the
end the files it has come by are all there are.

## Main definitions

* `FileTree.filesUnder`: The files of a replacement tree.
* `FileTree.Replaces`: One file is written, and nothing else.
* `OutputDirectory.IsOverlay`: What the copy of a file has for its content.
* `OutputDirectory.Overlaid`: What the copying of some files has come to.

## Theorems

* `FileTree.IsTree.filesUnder_eq_nil`: There are no replacements without a directory of them.
* `OutputDirectory.reworkedTarget?_eq_some_iff`: The targets of declarations.
* `OutputDirectory.exists_replaces_of_copyFile`: What copying one file does.
* `OutputDirectory.Overlaid.copyName`: One more name of a directory.
* `OutputDirectory.Overlaid.copiesBelow`: All files below a directory.
* `OutputDirectory.copyReplacements_overlays`: Replacements overlay the output exactly.
-/

namespace Typings

open Emit (RenderError)

namespace FileTree

/-- The files below the directory that a path leads to, as seen from there. -/
def filesUnder (t : FileTree) (path : String) : List (Place × ByteArray) :=
  match t.locate path with
  | .ok place => t.filesBelow place
  | .error _ => []

/-- Where there is no directory, there are no files below one. -/
theorem IsTree.filesUnder_eq_nil {t : FileTree} (ht : t.IsTree) (path : String)
    (hdir : ¬ t.isDir path = true) : t.filesUnder path = [] := by
  rw [filesUnder]
  cases hlocate : t.locate path with
  | error fault => rfl
  | ok root =>
      have hget : t.get? root ≠ some .directory := fun hget =>
        hdir ((t.isDir_iff path).mpr ⟨root, hlocate, hget⟩)
      rw [List.eq_nil_iff_forall_not_mem]
      rintro ⟨relative, content⟩ hf
      rcases (ht.mem_filesBelow_iff root relative content).mp hf with ⟨hne, hfile⟩
      exact get?_ne_none (Option.isSome_of_mem hfile) (ht.get?_below root relative hne hget)

/-- From one tree to another a file is written, and no other file. -/
structure Replaces (t t' : FileTree) (place : Place) (content : ByteArray) : Prop where
  written : t'.fileAt? place = some content
  others : ∀ other, other ≠ place → t'.fileAt? other = t.fileAt? other
  keeps : t.KeepsDirectories t'
  isTree : t.IsTree → t'.IsTree

theorem KeepsDirectories.trans {t t' t'' : FileTree} (h : t.KeepsDirectories t')
    (h' : t'.KeepsDirectories t'') : t.KeepsDirectories t'' :=
  fun place hplace => h' place (h place hplace)

/-- A file is read at the place that its path leads to. -/
theorem exists_of_readBytes (t : FileTree) (path : String) (content : ByteArray)
    (hread : t.readBytes path = .ok content) :
    ∃ place, t.locate path = .ok place ∧ t.fileAt? place = some content := by
  rcases bind_eq_ok _ _ _ hread with ⟨place, hlocate, hcontent⟩
  refine ⟨place, hlocate, (fileAt?_eq_some_iff ..).mpr ?_⟩
  rcases hget : t.get? place with _ | ⟨found⟩ | _
  · rw [hget] at hcontent
    contradiction
  · rw [hget] at hcontent
    rw [Except.ok.inj hcontent]
  · rw [hget] at hcontent
    contradiction

/-- Writing a file writes it, and no other file. -/
theorem exists_replaces_of_write (t written : FileTree) (path : String) (content : ByteArray)
    (hwritten : t.write path content = .ok written) :
    ∃ place, t.locate path = .ok place ∧ t.Replaces written place content := by
  rcases exists_place_of_write t written path content hwritten with ⟨place, hlocate, hget, rfl⟩
  have hplace := placeOf?_of_locate t path place hlocate
  refine ⟨place, hlocate, ?_, fun other hother => ?_, keepsDirectories_put t place _ hget,
    fun ht => ?_⟩
  · rw [fileAt?_put_file t place place content hget, if_pos rfl]
  · rw [fileAt?_put_file t place other content hget, if_neg hother]
  · exact ht.put place _ (t.reaches_of_locate path place hlocate)
      (isName_of_placeOf? path place hplace) hget

/-- A file that is written twice has what was written last. -/
theorem Replaces.trans {t t' t'' : FileTree} {place : Place} {content content' : ByteArray}
    (h : t.Replaces t' place content) (h' : t'.Replaces t'' place content') :
    t.Replaces t'' place content' where
  written := h'.written
  others other hother := (h'.others other hother).trans (h.others other hother)
  keeps := h.keeps.trans h'.keeps
  isTree ht := h'.isTree (h.isTree ht)

/-- Directories that are made before do not matter. -/
theorem Replaces.of_createDirs {t made t' : FileTree} {path : String} {place : Place}
    {content : ByteArray} (hmade : (t.createDirs path).1 = made)
    (h : made.Replaces t' place content) : t.Replaces t' place content where
  written := h.written
  others other hother := by rw [h.others other hother, ← hmade, fileAt?_createDirs]
  keeps := (hmade ▸ grows_createDirs t path).keepsDirectories.trans h.keeps
  isTree ht := h.isTree (hmade ▸ ht.createDirs path)

/-- Copying a file writes what is read, unless the file is copied onto itself. -/
theorem exists_replaces_of_copy (t copied : FileTree) (source path : String)
    (hcopied : t.copy source path = .ok copied)
    (hapart : ∀ place target, placeOf? source = some place → placeOf? path = some target →
      place ≠ target) :
    ∃ place target content, placeOf? source = some place ∧ t.fileAt? place = some content ∧
      placeOf? path = some target ∧ t.Replaces copied target content := by
  rcases bind_eq_ok _ _ _ hcopied with ⟨content, hread, hrest⟩
  rcases bind_eq_ok _ _ _ hrest with ⟨emptied, hemptied, hrest⟩
  rcases bind_eq_ok _ _ _ hrest with ⟨place, hplace, hrest⟩
  rcases bind_eq_ok _ _ _ hrest with ⟨target, htarget, hrest⟩
  rcases exists_of_readBytes t source content hread with ⟨place', hplace', hfile⟩
  rcases exists_replaces_of_write t emptied path _ hemptied with ⟨target', htarget', hfirst⟩
  have hplaceOf := placeOf?_of_locate t source place hplace
  have htargetOf := placeOf?_of_locate t path target htarget
  have hne := hapart place target hplaceOf htargetOf
  rw [hplace, Except.ok.injEq] at hplace'
  rw [htarget, Except.ok.injEq] at htarget'
  subst hplace' htarget'
  rw [if_neg hne] at hrest
  rcases exists_replaces_of_write emptied copied path content hrest with ⟨found, hfound, hsecond⟩
  -- The path leads to the same place as before.
  have hsame := locate_of_keeps hfirst.keeps path target htarget
  rw [hfound, Except.ok.injEq] at hsame
  subst hsame
  exact ⟨place, found, content, hplaceOf, hfile, htargetOf, hfirst.trans hsecond⟩

end FileTree

namespace PostProcessor

/-- A text stays as it is if no rules are for its target. -/
theorem apply_of_not_appliesTo (p : PostProcessor) (target text : String)
    (h : p.appliesTo target = false) : p.apply target text = text := by
  rw [appliesTo, Bool.not_eq_false', List.isEmpty_iff] at h
  rw [apply, h, List.foldl_nil]

end PostProcessor

namespace OutputDirectory

variable (o : OutputDirectory)

/-- What the copy of a file has for its content. A declaration is reworked, if there are rules
    at all, by those for its path without the extension and with slashes for backslashes. Any
    other file is copied as it is, and so is one that no rules are for. -/
structure IsOverlay (relative : String) (content written : ByteArray) : Prop where
  reworked : ∀ front, relative = front ++ Emit.declarationExtension →
    o.processor.isEmpty = false → ∃ text : String, content = text.toUTF8 ∧
      written = (o.processor.apply (Text.replaceChar '\\' '/' front) text).toUTF8
  asItIs : (o.processor.isEmpty = true ∨ ∀ front, relative ≠ front ++ Emit.declarationExtension) →
    written = content
  untouched : ∀ front, relative = front ++ Emit.declarationExtension →
    o.processor.appliesTo (Text.replaceChar '\\' '/' front) = false → written = content

/-- No character of an extension can come from a backslash. -/
theorem replaceChar_eq_append_iff (relative target : String) :
    Text.replaceChar '\\' '/' relative = target ++ Emit.declarationExtension ↔
      ∃ front, relative = front ++ Emit.declarationExtension ∧
        target = Text.replaceChar '\\' '/' front := by
  have hsame : ∀ chars : List Char, (chars.map fun c => if c = '\\' then '/' else c) =
      Emit.declarationExtension.toList → chars = Emit.declarationExtension.toList := by
    intro chars hchars
    rw [← hchars]
    refine (List.map_id chars).symm.trans (List.map_congr_left fun c hc => ?_)
    by_cases hback : c = '\\'
    · -- Then there would be a slash in the extension.
      have hslash : '/' ∈ Emit.declarationExtension.toList := by
        rw [← hchars]
        exact List.mem_map.mpr ⟨c, hc, if_pos hback⟩
      exact absurd hslash (by decide)
    · exact (if_neg hback).symm
  constructor
  · intro heq
    have hchars := congrArg String.toList heq
    rw [Text.replaceChar, String.toList_ofList, String.toList_append,
      List.map_eq_append_iff] at hchars
    rcases hchars with ⟨first, last, hsplit, hfirst, hlast⟩
    refine ⟨String.ofList first, ?_, ?_⟩
    · apply String.toList_injective
      rw [hsplit, hsame last hlast, String.toList_append, String.toList_ofList]
    · apply String.toList_injective
      rw [← hfirst, Text.replaceChar, String.toList_ofList, String.toList_ofList]
  · rintro ⟨front, rfl, rfl⟩
    apply String.toList_injective
    rw [Text.replaceChar, Text.replaceChar, String.toList_ofList, String.toList_append,
      String.toList_append, String.toList_ofList, List.map_append]
    rfl

/-- The target of a declaration is its path without the extension. -/
theorem reworkedTarget?_eq_some_iff (relative target : String) :
    o.reworkedTarget? relative = some target ↔ o.processor.isEmpty = false ∧
      ∃ front, relative = front ++ Emit.declarationExtension ∧
        target = Text.replaceChar '\\' '/' front := by
  rw [reworkedTarget?, ← replaceChar_eq_append_iff, ← Text.withoutEnd?_eq_some_iff]
  cases o.processor.isEmpty with
  | true =>
      rw [if_pos rfl]
      exact iff_of_false (Option.some_ne_none _).symm fun h => absurd h.1.symm Bool.false_ne_true
  | false => rw [if_neg Bool.false_ne_true, and_iff_right rfl]

theorem isOverlay_reworked (relative target text : String)
    (htarget : o.reworkedTarget? relative = some target) :
    o.IsOverlay relative text.toUTF8 (o.processor.apply target text).toUTF8 := by
  rcases (o.reworkedTarget?_eq_some_iff relative target).mp htarget with
    ⟨hrules, front, hfront, rfl⟩
  have hunique : ∀ front', relative = front' ++ Emit.declarationExtension → front' = front :=
    fun front' hfront' => (String.append_left_inj _).mp (hfront'.symm.trans hfront)
  refine ⟨fun front' hfront' _ => ?_, fun hnot => ?_, fun front' hfront' hnone => ?_⟩
  · rw [hunique front' hfront']
    exact ⟨text, rfl, rfl⟩
  · rcases hnot with hempty | hnot
    · rw [hrules] at hempty
      contradiction
    · exact absurd hfront (hnot front)
  · rw [hunique front' hfront'] at hnone
    rw [PostProcessor.apply_of_not_appliesTo _ _ _ hnone]

theorem isOverlay_asItIs (relative : String) (content : ByteArray)
    (htarget : o.reworkedTarget? relative = none) : o.IsOverlay relative content content := by
  refine ⟨fun front hfront hrules => ?_, fun _ => rfl, fun _ _ _ => rfl⟩
  have hsome := (o.reworkedTarget?_eq_some_iff relative _).mpr ⟨hrules, front, hfront, rfl⟩
  rw [htarget] at hsome
  contradiction

/-- Copying a file writes what it has for its content, reworked if it is to be. -/
theorem exists_replaces_of_copyFile (t t' : FileTree) (source relative : String)
    (hapart : ∀ place target, FileTree.placeOf? source = some place →
      FileTree.placeOf? (Path.join o.path relative) = some target → place ≠ target)
    (hcopied : o.copyFile t source relative = (t', none)) :
    ∃ place target content written, FileTree.placeOf? source = some place ∧
      t.fileAt? place = some content ∧
      FileTree.placeOf? (Path.join o.path relative) = some target ∧
      o.IsOverlay relative content written ∧ t.Replaces t' target written := by
  unfold copyFile at hcopied
  rcases hmade : t.createDirs ((Path.parent? (Path.join o.path relative)).getD "") with
    ⟨made, _ | fault⟩
  · simp only [hmade] at hcopied
    have hmade' : (t.createDirs ((Path.parent? (Path.join o.path relative)).getD "")).1 =
        made := congrArg Prod.fst hmade
    -- The file is read after the directories are made, but they are no files.
    have hfiles : ∀ place, made.fileAt? place = t.fileAt? place := by
      intro place
      rw [← hmade', FileTree.fileAt?_createDirs]
    cases htarget : o.reworkedTarget? relative with
    | some target =>
        simp only [htarget] at hcopied
        cases hread : made.readText source with
        | error fault => simp only [hread, Prod.mk.injEq, reduceCtorEq, and_false] at hcopied
        | ok text =>
            simp only [hread] at hcopied
            rcases (made.readText_eq_ok_iff source text).mp hread with ⟨place, hlocate, hfile⟩
            cases hwrite : made.write (Path.join o.path relative)
                (o.processor.apply target text).toUTF8 with
            | error fault => simp only [hwrite, Prod.mk.injEq, reduceCtorEq, and_false] at hcopied
            | ok written =>
                simp only [hwrite, Prod.mk.injEq, and_true] at hcopied
                subst hcopied
                rcases made.exists_replaces_of_write written _ _ hwrite with
                  ⟨found, hfound, hreplaces⟩
                exact ⟨place, found, _, _, FileTree.placeOf?_of_locate made source place hlocate,
                  (hfiles place).symm.trans hfile, FileTree.placeOf?_of_locate made _ found hfound,
                  o.isOverlay_reworked relative target text htarget,
                  hreplaces.of_createDirs hmade'⟩
    | none =>
        simp only [htarget] at hcopied
        cases hcopy : made.copy source (Path.join o.path relative) with
        | error fault => simp only [hcopy, Prod.mk.injEq, reduceCtorEq, and_false] at hcopied
        | ok copied =>
            simp only [hcopy, Prod.mk.injEq, and_true] at hcopied
            subst hcopied
            rcases made.exists_replaces_of_copy copied source _ hcopy hapart with
              ⟨place, target, content, hplace, hfile, htarget', hreplaces⟩
            exact ⟨place, target, content, content, hplace, (hfiles place).symm.trans hfile,
              htarget', o.isOverlay_asItIs relative content htarget,
              hreplaces.of_createDirs hmade'⟩
  · simp only [hmade, Prod.mk.injEq, reduceCtorEq, and_false] at hcopied

section Walk

variable (t : FileTree) (source : String) (root : Place)

/-- The place that the copy of a file has. -/
def placeFor? (relative : Place) : Option Place :=
  (FileTree.placeOf? o.path).map (· ++ relative)

/-- Copying has come by some files of a tree: they were copied, once each, and no other file
    is different from what it was. -/
structure Overlaid (state : Copying) (done : List Place) : Prop where
  isTree : state.tree.IsTree
  nodup : done.Nodup
  copied : state.copied = done.length
  written : ∀ relative ∈ done, ∃ target content written, relative ≠ [] ∧
    t.fileAt? (root ++ relative) = some content ∧ o.placeFor? relative = some target ∧
    o.IsOverlay (Text.join "/" relative) content written ∧
    state.tree.fileAt? target = some written
  others : ∀ place, (∀ relative ∈ done, o.placeFor? relative ≠ some place) →
    state.tree.fileAt? place = t.fileAt? place

/-- The directory of replacements and the output directory lie apart. -/
def LiesApart : Prop :=
  ∀ output, FileTree.placeOf? o.path = some output → ¬ root <+: output ∧ ¬ output <+: root

variable {o t source root}

theorem placeFor?_eq_some_iff (relative place : Place) :
    o.placeFor? relative = some place ↔
      ∃ output, FileTree.placeOf? o.path = some output ∧ output ++ relative = place :=
  Option.map_eq_some_iff

/-- A path that is put together from names leads down from the directory of replacements. -/
theorem eq_append_of_placeOf?_join (hsource : FileTree.placeOf? source = some root)
    (names place : Place) (hnames : ∀ n ∈ names, Path.IsName n)
    (hplace : FileTree.placeOf? (Path.join source (Text.join "/" names)) = some place) :
    place = root ++ names := by
  rcases FileTree.placeOf?_join source names place hnames hplace with ⟨above, habove, rfl⟩
  rw [hsource, Option.some_inj] at habove
  rw [habove]

/-- Different files have their copies at different places. -/
theorem eq_of_placeFor? {relative relative' place : Place}
    (h : o.placeFor? relative = some place) (h' : o.placeFor? relative' = some place) :
    relative = relative' := by
  rcases (placeFor?_eq_some_iff relative place).mp h with ⟨output, houtput, rfl⟩
  rcases (placeFor?_eq_some_iff relative' _).mp h' with ⟨output', houtput', heq⟩
  rw [houtput, Option.some_inj] at houtput'
  rw [← houtput'] at heq
  exact (List.append_cancel_left heq).symm

/-- No copy is among the replacements. -/
theorem placeFor?_ne (hapart : o.LiesApart root) (relative inside : Place) :
    o.placeFor? relative ≠ some (root ++ inside) := by
  intro h
  rcases (placeFor?_eq_some_iff relative _).mp h with ⟨output, houtput, heq⟩
  rcases hapart output houtput with ⟨hroot, houtside⟩
  rcases List.prefix_or_prefix_of_prefix (List.prefix_append root inside)
    (heq ▸ List.prefix_append output relative) with hprefix | hprefix
  · exact hroot hprefix
  · exact houtside hprefix

namespace Overlaid

theorem start (ht : t.IsTree) : o.Overlaid t root { tree := t } [] where
  isTree := ht
  nodup := List.nodup_nil
  copied := rfl
  written _ h := absurd h List.not_mem_nil
  others _ _ := rfl

variable {state : Copying} {done : List Place}

/-- The files that are still to come are as they were. -/
theorem fileAt?_inside (h : o.Overlaid t root state done) (hapart : o.LiesApart root)
    (inside : Place) : state.tree.fileAt? (root ++ inside) = t.fileAt? (root ++ inside) :=
  h.others _ fun relative _ => placeFor?_ne hapart relative inside

/-- One more file is copied. -/
theorem copyFile (h : o.Overlaid t root state done) (hapart : o.LiesApart root)
    (hsource : FileTree.placeOf? source = some root) (relative : Place)
    (hnames : ∀ n ∈ relative, Path.IsName n) (hne : relative ≠ []) (hnew : relative ∉ done)
    (t' : FileTree)
    (hcopied : o.copyFile state.tree (Path.join source (Text.join "/" relative))
      (Text.join "/" relative) = (t', none)) :
    (t.fileAt? (root ++ relative)).isSome = true ∧
      o.Overlaid t root ⟨t', state.copied + 1, none⟩ (done ++ [relative]) := by
  have hinside := fun place => eq_append_of_placeOf?_join hsource relative place hnames
  have htarget : ∀ place, FileTree.placeOf? (Path.join o.path (Text.join "/" relative)) =
      some place → o.placeFor? relative = some place := by
    intro place hplace
    rcases FileTree.placeOf?_join o.path relative place hnames hplace with ⟨output, houtput, rfl⟩
    exact (placeFor?_eq_some_iff relative _).mpr ⟨output, houtput, rfl⟩
  have hdifferent : ∀ place target,
      FileTree.placeOf? (Path.join source (Text.join "/" relative)) = some place →
      FileTree.placeOf? (Path.join o.path (Text.join "/" relative)) = some target →
      place ≠ target := by
    rintro place target hplace htargetOf rfl
    exact placeFor?_ne hapart relative relative (hinside place hplace ▸ htarget place htargetOf)
  rcases o.exists_replaces_of_copyFile _ _ _ _ hdifferent hcopied with
    ⟨place, target, content, written, hplace, hfile, htargetOf, hoverlay, hreplaces⟩
  have hplaceFor := htarget target htargetOf
  rw [hinside place hplace, h.fileAt?_inside hapart] at hfile
  refine ⟨Option.isSome_of_mem hfile, hreplaces.isTree h.isTree, ?_, ?_, fun other hother => ?_,
    fun other hother => ?_⟩
  · rw [← List.concat_eq_append]
    exact h.nodup.concat hnew
  · rw [List.length_append, ← h.copied]
    rfl
  · rcases List.mem_append.mp hother with hold | hlast
    · -- An earlier copy is at another place.
      rcases h.written other hold with ⟨target', content', written', hne', hfile', hplace',
        hoverlay', hwritten'⟩
      refine ⟨target', content', written', hne', hfile', hplace', hoverlay', ?_⟩
      rw [hreplaces.others, hwritten']
      rintro rfl
      exact hnew (eq_of_placeFor? hplaceFor hplace' ▸ hold)
    · rw [List.mem_singleton.mp hlast]
      exact ⟨target, content, written, hne, hfile, hplaceFor, hoverlay, hreplaces.written⟩
  · rw [hreplaces.others, h.others]
    · exact fun relative' hmem => hother relative' (List.mem_append_left _ hmem)
    · rintro rfl
      exact hother relative (List.mem_append_right _ List.mem_cons_self) hplaceFor

end Overlaid

variable (o t root source)

/-- One name of a directory copied: a directory with all files below it, or a file. -/
def copyName (levels : Nat) (above : Place) (state : Copying) (name : String) : Copying :=
  if state.error.isSome then state
  else
    let relative := Text.join "/" (above ++ [name])
    let path := Path.join source relative
    if state.tree.isDir path then copyBelow o source levels state (above ++ [name])
    else
      let (t, error) := o.copyFile state.tree path relative
      ⟨t, if error.isNone then state.copied + 1 else state.copied, error⟩

theorem copyBelow_zero (state : Copying) (above : Place) :
    o.copyBelow source 0 state above =
      { state with error := some (.io source FileFault.nameTooLong.message) } :=
  rfl

/-- A directory is copied name by name. -/
theorem copyBelow_succ (levels : Nat) (state : Copying) (above : Place) :
    o.copyBelow source (levels + 1) state above =
      match state.tree.locate (Path.join source (Text.join "/" above)) with
      | .error fault => { state with error := some (.io source fault.message) }
      | .ok place => (state.tree.names place).foldl (o.copyName source levels above) state := by
  have heta : o.copyName source levels above =
      fun state name => o.copyName source levels above state name := rfl
  rw [heta]
  cases hlocate : state.tree.locate (Path.join source (Text.join "/" above)) with
  | error fault => simp only [copyBelow, hlocate]
  | ok place => simp only [copyBelow, copyName, hlocate]

/-- An end that was put to the copying is final. -/
theorem foldl_copyName_of_error (levels : Nat) (above : Place) (names : List String)
    (state : Copying) (herror : state.error.isSome = true) :
    names.foldl (o.copyName source levels above) state = state := by
  induction names with
  | nil => rfl
  | cons name rest ih =>
      rw [List.foldl_cons, copyName, if_pos herror]
      exact ih

/-- Where copying came to no end, it had come to none before. -/
theorem error_eq_none_of_foldl (levels : Nat) (above : Place) (names : List String)
    (state : Copying)
    (hend : (names.foldl (o.copyName source levels above) state).error = none) :
    state.error = none := by
  by_contra hsome
  rw [foldl_copyName_of_error o source _ _ names _ (Option.isSome_iff_ne_none.mpr hsome)] at hend
  exact hsome hend

/-- Copying all files below a directory, none of which was copied before, comes by these
    files and no others, going down so many levels. -/
def CopiesBelow (levels : Nat) : Prop :=
  ∀ (state : Copying) (done : List Place) (above : Place), o.Overlaid t root state done →
    (∀ n ∈ above, Path.IsName n) → (∀ relative ∈ done, ¬ above <+: relative) →
    (o.copyBelow source levels state above).error = none →
    ∃ new, o.Overlaid t root (o.copyBelow source levels state above) (done ++ new) ∧
      ∀ relative, relative ∈ new ↔ above <+: relative ∧ relative ≠ above ∧
        (t.fileAt? (root ++ relative)).isSome = true

variable {o t root source}

namespace Overlaid

variable {state : Copying} {done : List Place}

/-- The files below a directory are those below its names. -/
theorem exists_name_iff (h : o.Overlaid t root state done) (hapart : o.LiesApart root)
    (above relative : Place) :
    (∃ name ∈ state.tree.names (root ++ above), above ++ [name] <+: relative ∧
        (t.fileAt? (root ++ relative)).isSome = true) ↔
      above <+: relative ∧ relative ≠ above ∧ (t.fileAt? (root ++ relative)).isSome = true := by
  constructor
  · rintro ⟨name, _, hprefix, hfile⟩
    refine ⟨(List.prefix_append above [name]).trans hprefix, ?_, hfile⟩
    rintro rfl
    have hlength := hprefix.length_le
    rw [List.length_append, List.length_singleton] at hlength
    omega
  · rintro ⟨⟨rest, rfl⟩, hne, hfile⟩
    rcases rest with _ | ⟨name, rest⟩
    · exact absurd (List.append_nil above) hne
    · have hsplit : above ++ name :: rest = above ++ [name] ++ rest :=
        List.append_cons above name rest
      refine ⟨name, (h.isTree.mem_names_iff _ name).mpr ?_, hsplit ▸ List.prefix_append _ rest,
        hfile⟩
      -- If there were nothing under the name, there would be no file below it.
      by_contra hnone
      rw [Bool.not_eq_true, Option.isSome_eq_false_iff, Option.isNone_iff_eq_none] at hnone
      have hbelow : state.tree.get? (root ++ (above ++ name :: rest)) = none := by
        rw [hsplit, ← List.append_assoc, ← List.append_assoc]
        rcases rest with _ | ⟨next, rest⟩
        · rwa [List.append_nil]
        · refine h.isTree.get?_below _ _ (List.cons_ne_nil next rest) ?_
          rw [hnone]
          exact (Option.some_ne_none _).symm
      rw [← h.fileAt?_inside hapart] at hfile
      exact FileTree.get?_ne_none hfile hbelow

section Name

variable {levels : Nat} (ht : t.IsTree) (hapart : o.LiesApart root)
  (hsource : FileTree.placeOf? source = some root)
  (hlevels : o.CopiesBelow t source root levels)

include ht hapart hsource hlevels

/-- One more name of a directory. -/
theorem copyName (h : o.Overlaid t root state done) (herror : state.error = none)
    (above : Place) (name : String) (hnames : ∀ n ∈ above ++ [name], Path.IsName n)
    (hnew : ∀ relative ∈ done, ¬ above ++ [name] <+: relative)
    (hend : (o.copyName source levels above state name).error = none) :
    ∃ new, o.Overlaid t root (o.copyName source levels above state name) (done ++ new) ∧
      ∀ relative, relative ∈ new ↔ above ++ [name] <+: relative ∧
        (t.fileAt? (root ++ relative)).isSome = true := by
  have hgoing : ¬ state.error.isSome = true := by
    rw [herror]
    exact Bool.false_ne_true
  rw [OutputDirectory.copyName, if_neg hgoing] at hend ⊢
  dsimp only at hend ⊢
  by_cases hdir : state.tree.isDir (Path.join source (Text.join "/" (above ++ [name]))) = true
  · rw [if_pos hdir] at hend ⊢
    rcases hlevels state done (above ++ [name]) h hnames hnew hend with ⟨new, hoverlaid, hmem⟩
    refine ⟨new, hoverlaid, fun relative => ?_⟩
    rw [hmem]
    refine and_congr_right fun _ => and_iff_right_of_imp fun hfile => ?_
    -- There is a directory at the place of the name, and no file.
    rintro rfl
    rcases (FileTree.isDir_iff ..).mp hdir with ⟨place, hlocate, hget⟩
    rw [eq_append_of_placeOf?_join hsource _ place hnames
      (FileTree.placeOf?_of_locate _ _ _ hlocate)] at hget
    rw [← h.fileAt?_inside hapart] at hfile
    exact FileTree.get?_ne_directory hfile hget
  · rw [if_neg hdir] at hend ⊢
    rcases hcopied : o.copyFile state.tree (Path.join source (Text.join "/" (above ++ [name])))
      (Text.join "/" (above ++ [name])) with ⟨t', error⟩
    rw [hcopied] at hend
    dsimp only at hend
    rw [hend] at hcopied
    have hlast : above ++ [name] ∉ done := fun hmem => hnew _ hmem (List.prefix_refl _)
    rcases h.copyFile hapart hsource _ hnames (List.concat_ne_nil name above) hlast t' hcopied with
      ⟨hfile, hoverlaid⟩
    rw [hend]
    refine ⟨[above ++ [name]], hoverlaid, fun relative => ?_⟩
    rw [List.mem_singleton]
    constructor
    · rintro rfl
      exact ⟨List.prefix_refl _, hfile⟩
    · rintro ⟨⟨rest, rfl⟩, hbelow⟩
      by_contra hrest
      have hne : rest ≠ [] := fun hnil => hrest (by rw [hnil, List.append_nil])
      have hnone := ht.get?_below _ rest hne (FileTree.get?_ne_directory hfile)
      rw [List.append_assoc] at hnone
      exact FileTree.get?_ne_none hbelow hnone

/-- The names of a directory, one after the other. -/
theorem copyNames (names : List String) (h : o.Overlaid t root state done)
    (herror : state.error = none) (above : Place)
    (hnames : ∀ name ∈ names, ∀ n ∈ above ++ [name], Path.IsName n) (hnodup : names.Nodup)
    (hnew : ∀ name ∈ names, ∀ relative ∈ done, ¬ above ++ [name] <+: relative)
    (hend : (names.foldl (o.copyName source levels above) state).error = none) :
    ∃ new, o.Overlaid t root (names.foldl (o.copyName source levels above) state)
        (done ++ new) ∧
      ∀ relative, relative ∈ new ↔ ∃ name ∈ names, above ++ [name] <+: relative ∧
        (t.fileAt? (root ++ relative)).isSome = true := by
  induction names generalizing state done with
  | nil =>
      refine ⟨[], (List.append_nil done).symm ▸ h, fun relative => iff_of_false List.not_mem_nil ?_⟩
      rintro ⟨name, hname, _⟩
      exact absurd hname List.not_mem_nil
  | cons name rest ih =>
      rw [List.foldl_cons] at hend ⊢
      rw [List.nodup_cons] at hnodup
      rw [List.forall_mem_cons] at hnames hnew
      have hfirst := error_eq_none_of_foldl o source _ _ rest _ hend
      rcases h.copyName ht hapart hsource hlevels herror above name hnames.1 hnew.1 hfirst with
        ⟨first, hoverlaid, hmemfirst⟩
      have hapartfirst : ∀ name' ∈ rest, ∀ relative ∈ done ++ first,
          ¬ above ++ [name'] <+: relative := by
        intro name' hname' relative hmem hprefix
        rcases List.mem_append.mp hmem with hold | hnew'
        · exact hnew.2 name' hname' relative hold hprefix
        · -- What is below one name is not below another.
          have hprefix' := ((hmemfirst relative).mp hnew').1
          have hsame := List.prefix_of_prefix_length_le hprefix' hprefix
            (by rw [List.length_append, List.length_append]; exact Nat.le_refl _)
          have heq := hsame.eq_of_length (by rw [List.length_append, List.length_append]; rfl)
          rw [List.append_cancel_left_eq, List.singleton_inj] at heq
          exact hnodup.1 (heq ▸ hname')
      rcases ih hoverlaid hfirst hnames.2 hnodup.2 hapartfirst hend with ⟨more, hrest, hmemmore⟩
      refine ⟨first ++ more, ?_, fun relative => ?_⟩
      · rwa [← List.append_assoc]
      · rw [List.mem_append, hmemfirst, hmemmore]
        simp only [List.mem_cons, or_and_right, exists_or, exists_eq_left]

end Name

/-- Copying comes by all files below a directory, at every level. -/
theorem copiesBelow (ht : t.IsTree) (hapart : o.LiesApart root)
    (hsource : FileTree.placeOf? source = some root) (levels : Nat) :
    o.CopiesBelow t source root levels := by
  induction levels with
  | zero =>
      intro state done above h hnames hnew hend
      rw [copyBelow_zero] at hend
      contradiction
  | succ levels ih =>
      intro state done above h hnames hnew hend
      rw [copyBelow_succ] at hend ⊢
      cases hlocate : state.tree.locate (Path.join source (Text.join "/" above)) with
      | error fault =>
          rw [hlocate] at hend
          contradiction
      | ok place =>
          rw [hlocate] at hend
          dsimp only at hend ⊢
          have hplace := eq_append_of_placeOf?_join hsource above place hnames
            (FileTree.placeOf?_of_locate _ _ _ hlocate)
          subst hplace
          have herror := error_eq_none_of_foldl o source _ _ _ _ hend
          have hinside : ∀ name ∈ state.tree.names (root ++ above), ∀ n ∈ above ++ [name],
              Path.IsName n := by
            intro name hname n hn
            rcases List.mem_append.mp hn with habove | hlast
            · exact hnames n habove
            · rw [List.mem_singleton.mp hlast]
              exact h.isTree.isName_of_mem_names _ name hname
          rcases h.copyNames ht hapart hsource ih _ herror above hinside (h.isTree.nodup_names _)
            (fun name _ relative hmem hprefix =>
              hnew relative hmem ((List.prefix_append above [name]).trans hprefix)) hend with
            ⟨new, hoverlaid, hmem⟩
          refine ⟨new, hoverlaid, fun relative => (hmem relative).trans ?_⟩
          exact h.exists_name_iff hapart above relative

end Overlaid

end Walk

/-- Replacements overlay the output exactly, if their directory and the output directory lie
    apart and all of them can be copied. As many are counted as there are files below their
    directory, at every depth. Each has its copy at the same relative path below the output
    directory, reworked if it is a declaration and there are rules, and as it is otherwise,
    byte for byte. No other file is different from what it was. -/
theorem copyReplacements_overlays (t : FileTree) (source : String) (ht : t.IsTree)
    (hapart : ∀ root, t.locate source = .ok root → o.LiesApart root)
    (hend : (o.copyReplacements t source).error = none) :
    (o.copyReplacements t source).copied = (t.filesUnder source).length ∧
      (∀ f ∈ t.filesUnder source, ∃ target written, o.placeFor? f.1 = some target ∧
        o.IsOverlay (Text.join "/" f.1) f.2 written ∧
        (o.copyReplacements t source).tree.fileAt? target = some written) ∧
      ∀ place, (∀ f ∈ t.filesUnder source, o.placeFor? f.1 ≠ some place) →
        (o.copyReplacements t source).tree.fileAt? place = t.fileAt? place := by
  rw [copyReplacements] at hend ⊢
  by_cases hdir : t.isDir source = true
  · rw [if_pos hdir] at hend ⊢
    rcases (t.isDir_iff source).mp hdir with ⟨root, hlocate, _⟩
    have hunder : t.filesUnder source = t.filesBelow root := by
      rw [FileTree.filesUnder, hlocate]
    have hsource := FileTree.placeOf?_of_locate t source root hlocate
    rcases Overlaid.copiesBelow ht (hapart root hlocate) hsource _ _ [] [] (.start ht)
      (fun _ h => absurd h List.not_mem_nil) (fun _ h => absurd h List.not_mem_nil) hend with
      ⟨done, h, hmem⟩
    rw [List.nil_append] at h
    -- The files that were copied are those that there are.
    have hfiles : ∀ relative, relative ∈ done ↔ relative ∈ (t.filesBelow root).map Prod.fst := by
      intro relative
      rw [hmem, List.mem_map, Option.isSome_iff_exists]
      constructor
      · rintro ⟨_, hne, content, hfile⟩
        exact ⟨(relative, content), (ht.mem_filesBelow_iff root _ _).mpr ⟨hne, hfile⟩, rfl⟩
      · rintro ⟨⟨_, content⟩, hbelow, rfl⟩
        rcases (ht.mem_filesBelow_iff root _ _).mp hbelow with ⟨hne, hfile⟩
        exact ⟨List.nil_prefix, hne, content, hfile⟩
    have hperm := (List.perm_ext_iff_of_nodup h.nodup (ht.nodup_filesBelow root)).mpr hfiles
    rw [hunder]
    refine ⟨?_, ?_, fun place hplace => h.others place fun relative hrelative => ?_⟩
    · rw [h.copied, hperm.length_eq, List.length_map]
    · rintro ⟨relative, content⟩ hf
      rcases h.written relative ((hfiles relative).mpr (List.mem_map_of_mem hf)) with
        ⟨target, content', written, _, hfile', hplace, hoverlay, hwritten⟩
      have hfile := ((ht.mem_filesBelow_iff root relative content).mp hf).2
      rw [hfile, Option.some_inj] at hfile'
      exact ⟨target, written, hplace, hfile' ▸ hoverlay, hwritten⟩
    · rcases List.mem_map.mp ((hfiles relative).mp hrelative) with ⟨f, hf, rfl⟩
      exact hplace f hf
  · rw [if_neg hdir, ht.filesUnder_eq_nil source hdir]
    exact ⟨rfl, fun _ h => absurd h List.not_mem_nil, fun _ _ => rfl⟩

section Example

/-- An output directory with a rule for the declarations that are directly in it. -/
def ruledDirectory : OutputDirectory where
  path := "/out"
  processor := { sets := [⟨⟨[.star]⟩, [⟨.text "any", "unknown"⟩]⟩] }

/-- Replacements next to an output directory: a declaration that is to be reworked, one that is
    not, and a file that is no text. -/
def handwritten : FileTree where
  entries :=
    [(["in"], .directory),
      (["in", "Table.d.ts"], .file "rows: any;".toUTF8),
      (["in", "lib"], .directory),
      (["in", "lib", "Cell.d.ts"], .file "text: any;".toUTF8),
      (["in", "icon.bin"], .file ⟨#[255]⟩),
      (["out"], .directory),
      (["out", "Table.d.ts"], .file "rows: never;".toUTF8),
      (["out", "Row.d.ts"], .file "cells: any;".toUTF8)]

/-- The file that is no text arrives as it is, and what is only in the output directory
    stays. -/
theorem overlays_handwritten :
    (ruledDirectory.copyReplacements handwritten "/in").copied = 3 ∧
      (ruledDirectory.copyReplacements handwritten "/in").tree.fileAt? ["out", "icon.bin"] =
        some ⟨#[255]⟩ ∧
      (ruledDirectory.copyReplacements handwritten "/in").tree.fileAt? ["out", "Row.d.ts"] =
        some "cells: any;".toUTF8 := by
  have htree : handwritten.IsTree := by decide +kernel
  have hroot : handwritten.locate "/in" = .ok ["in"] := by decide +kernel
  have houtput : FileTree.placeOf? ruledDirectory.path = some ["out"] := by decide +kernel
  have hapart : ∀ root, handwritten.locate "/in" = .ok root → ruledDirectory.LiesApart root := by
    intro root hlocate output hplace
    rw [hroot, Except.ok.injEq] at hlocate
    rw [houtput, Option.some_inj] at hplace
    subst hlocate hplace
    decide
  rcases ruledDirectory.copyReplacements_overlays handwritten "/in" htree hapart
    (by decide +kernel) with ⟨hcopied, hwritten, hothers⟩
  refine ⟨hcopied.trans (by decide +kernel), ?_, hothers _ ?_⟩
  · have hunder : handwritten.filesUnder "/in" = handwritten.filesBelow ["in"] := by
      rw [FileTree.filesUnder, hroot]
    have hmem : (["icon.bin"], ⟨#[255]⟩) ∈ handwritten.filesUnder "/in" := by
      rw [hunder]
      exact (htree.mem_filesBelow_iff ["in"] ["icon.bin"] _).mpr ⟨by decide, rfl⟩
    rcases hwritten _ hmem with ⟨target, written, hplace, hoverlay, hfile⟩
    rw [placeFor?, houtput, Option.map_some, Option.some_inj] at hplace
    have hend : ∀ front, Text.join "/" ["icon.bin"] ≠ front ++ Emit.declarationExtension := by
      intro front hfront
      have hnone :
          Text.withoutEnd? Emit.declarationExtension (Text.join "/" ["icon.bin"]) = none := by
        decide
      rw [(Text.withoutEnd?_eq_some_iff ..).mpr hfront] at hnone
      exact Option.some_ne_none front hnone
    rw [← hplace, hoverlay.asItIs (Or.inr hend)] at hfile
    exact hfile
  · have hplaces : ∀ relative ∈ (handwritten.filesUnder "/in").map Prod.fst,
        ruledDirectory.placeFor? relative ≠ some ["out", "Row.d.ts"] := by
      decide +kernel
    exact fun f hf => hplaces f.1 (List.mem_map_of_mem hf)

end Example

end OutputDirectory

end Typings
