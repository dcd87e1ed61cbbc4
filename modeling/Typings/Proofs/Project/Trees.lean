import Mathlib.Data.List.Nodup
import Typings.Proofs.FileTree
import Typings.Proofs.Text.Order

/-!
# Trees That Hang Together

A tree of files is a list of places with what is there, and not every such list is a tree.
There has to be one thing at a place, everything has to be in a directory, and what leads
there has to be names. Then the names in a directory are what is found there, each once,
and what is found below a file is nothing.

All operations make such trees of such trees. What they put somewhere they put where a path
leads, so there are directories above, and the names are parts of the path.

## Main definitions

* `Path.IsName`: A name that a file or a directory can have.
* `FileTree.IsTree`: A tree that hangs together.
* `FileTree.filesBelow`: The files below a place, as seen from there.

## Theorems

* `Path.parts_join`: The parts of a path that is put together from names.
* `FileTree.placeOf?_join`: Where a path leads that is put together from names.
* `FileTree.isTree_empty`, `FileTree.IsTree.put`, `FileTree.IsTree.createDirs`: The empty tree
  hangs together, and so does what is made of a tree that does.
* `FileTree.IsTree.mem_names_iff`, `FileTree.IsTree.nodup_names`: The names in a directory.
* `FileTree.IsTree.mem_filesBelow_iff`, `FileTree.IsTree.nodup_filesBelow`: The files below
  a place.
* `FileTree.IsTree.get?_below`: There is nothing below a file.
-/

namespace Typings

namespace Path

/-- A name that a file or a directory can have. -/
structure IsName (name : String) : Prop where
  whole : '/' ∉ name.toList
  notIdle : isIdle name = false
  notUp : name ≠ ".."

instance (name : String) : Decidable (IsName name) :=
  decidable_of_iff ('/' ∉ name.toList ∧ isIdle name = false ∧ name ≠ "..")
    ⟨fun h => ⟨h.1, h.2.1, h.2.2⟩, fun h => ⟨h.whole, h.notIdle, h.notUp⟩⟩

/-- No part of a path has a separator. -/
theorem not_mem_of_mem_parts (path part : String) (hpart : part ∈ parts path) :
    '/' ∉ part.toList := by
  intro hmem
  have hseparator := Text.not_isSeparator_of_mem_splitChars _ _ _
    ((Text.mem_split _ path part).mp hpart) '/' hmem
  exact absurd hseparator (by decide)

/-- A path that is put together from names has them for its parts. -/
theorem parts_join (names : Place) (hnames : ∀ n ∈ names, IsName n) (hne : names ≠ []) :
    parts (Text.join "/" names) = names := by
  refine Text.split_join _ '/' names (fun n hn c hc => decide_eq_false fun heq => ?_) rfl hne
  exact (hnames n hn).whole (heq ▸ hc)

theorem isAbsolute_join (names : Place) (hnames : ∀ n ∈ names, IsName n) :
    isAbsolute (Text.join "/" names) = false := by
  rcases names with _ | ⟨name, rest⟩
  · rfl
  · refine IsPlain.isAbsolute_eq fun part hpart => ?_
    rw [parts_join _ hnames (List.cons_ne_nil name rest)] at hpart
    exact ⟨(hnames part hpart).notIdle, (hnames part hpart).notUp⟩

end Path

namespace FileTree

section Places

/-- Where a path leads, there are names. -/
theorem isName_of_placeOf? (path : String) (place : Place) (hplace : placeOf? path = some place) :
    ∀ n ∈ place, Path.IsName n := by
  -- The place that was come to so far has to be free: a part up takes a name off it.
  have hfollow : ∀ (parts : List String) (start : Place),
      (∀ part ∈ parts, '/' ∉ part.toList) → (∀ n ∈ start, Path.IsName n) →
      parts.foldlM next? start = some place → ∀ n ∈ place, Path.IsName n := by
    intro parts
    induction parts with
    | nil =>
        intro start _ hstart hplace
        rwa [← Option.some.inj hplace]
    | cons part rest ih =>
        intro start hparts hstart hplace
        rcases Option.bind_eq_some_iff.mp hplace with ⟨next, hnext, hrest⟩
        refine ih next (fun p hp => hparts p (List.mem_cons_of_mem part hp)) ?_ hrest
        rw [next?] at hnext
        split_ifs at hnext with hidle hup
        · rwa [← Option.some.inj hnext]
        · rw [← Option.some.inj hnext]
          exact fun n hn => hstart n ((List.dropLast_subset _) hn)
        · rw [← Option.some.inj hnext]
          intro n hn
          rcases List.mem_append.mp hn with hold | hnew
          · exact hstart n hold
          · rw [List.mem_singleton.mp hnew]
            exact ⟨hparts part List.mem_cons_self, Bool.eq_false_iff.mpr hidle, hup⟩
  exact hfollow _ [] (Path.not_mem_of_mem_parts path) (fun _ hn => absurd hn List.not_mem_nil)
    hplace

/-- A path that is put together from names leads down from where it is seen. -/
theorem placeOf?_join (base : String) (names place : Place) (hnames : ∀ n ∈ names, Path.IsName n)
    (hplace : placeOf? (Path.join base (Text.join "/" names)) = some place) :
    ∃ above, placeOf? base = some above ∧ place = above ++ names := by
  rcases Path.exists_parts_join base with ⟨before, hbase, hbefore⟩
  rw [placeOf?, hbefore _ (Path.isAbsolute_join names hnames), List.foldlM_append] at hplace
  rcases Option.bind_eq_some_iff.mp hplace with ⟨above, hfirst, hthen⟩
  refine ⟨above, ?_, ?_⟩
  · rw [placeOf?]
    rcases hbase with hbase | hbase
    · rw [hbase, hfirst]
    · rw [hbase, List.foldlM_append, hfirst]
      rfl
  · by_cases hne : names = []
    · rw [hne] at hthen ⊢
      rw [List.append_nil]
      exact (Option.some.inj hthen).symm
    · rw [Path.parts_join names hnames hne] at hthen
      exact eq_append_of_foldlM_next? above place names
        (fun n hn => ⟨(hnames n hn).notIdle, (hnames n hn).notUp⟩) hthen

end Places

/-- A tree that hangs together: there is one thing at a place, it is in a directory, and
    names lead there. -/
structure IsTree (t : FileTree) : Prop where
  distinct : (t.entries.map Prod.fst).Nodup
  rooted : ∀ place ∈ t.entries.map Prod.fst, place ≠ [] ∧ t.Reaches place
  named : ∀ place ∈ t.entries.map Prod.fst, ∀ n ∈ place, Path.IsName n

instance (t : FileTree) (place : Place) : Decidable (t.get? place = some .directory) :=
  decidable_of_iff ((t.get? place).any Entry.isDirectory = true) (by
    rcases t.get? place with _ | ⟨content⟩ | _
    · exact iff_of_false Bool.false_ne_true (Option.some_ne_none _).symm
    · exact iff_of_false Bool.false_ne_true fun h => Entry.noConfusion (Option.some.inj h)
    · exact ⟨fun _ => rfl, fun _ => rfl⟩)

instance (t : FileTree) (place : Place) : Decidable (t.Reaches place) :=
  inferInstanceAs (Decidable (∀ n < place.length, t.get? (place.take n) = some .directory))

instance (t : FileTree) : Decidable t.IsTree :=
  decidable_of_iff ((t.entries.map Prod.fst).Nodup ∧
      (∀ place ∈ t.entries.map Prod.fst, place ≠ [] ∧ t.Reaches place) ∧
      ∀ place ∈ t.entries.map Prod.fst, ∀ n ∈ place, Path.IsName n)
    ⟨fun h => ⟨h.1, h.2.1, h.2.2⟩, fun h => ⟨h.distinct, h.rooted, h.named⟩⟩

/-- The files below a place, as seen from there. -/
def filesBelow (t : FileTree) (place : Place) : List (Place × ByteArray) :=
  t.files.filterMap fun f =>
    match place.isPrefixOf? f.1 with
    | some (name :: rest) => some (name :: rest, f.2)
    | _ => none

/-- Files stand in the order of the tree. -/
theorem map_fst_files_sublist (t : FileTree) :
    (t.files.map Prod.fst).Sublist (t.entries.map Prod.fst) := by
  rw [files]
  induction t.entries with
  | nil => exact List.Sublist.refl _
  | cons e rest ih =>
      rcases e with ⟨place, ⟨content⟩ | _⟩
      · exact ih.cons_cons place
      · exact ih.cons place

theorem Reaches.of_keeps {t t' : FileTree} {place : Place} (h : t.Reaches place)
    (hkeeps : t.KeepsDirectories t') : t'.Reaches place :=
  fun n hn => hkeeps _ (h n hn)

theorem get?_ne_directory {t : FileTree} {place : Place}
    (hfile : (t.fileAt? place).isSome = true) : t.get? place ≠ some .directory := by
  intro hget
  rw [fileAt?, hget] at hfile
  contradiction

theorem get?_ne_none {t : FileTree} {place : Place}
    (hfile : (t.fileAt? place).isSome = true) : t.get? place ≠ none := by
  intro hget
  rw [fileAt?, hget] at hfile
  contradiction

theorem isTree_empty : empty.IsTree :=
  ⟨List.nodup_nil, fun _ h => absurd h List.not_mem_nil, fun _ h => absurd h List.not_mem_nil⟩

theorem keys_put (t : FileTree) (place : Place) (entry : Entry) :
    (t.put place entry).entries.map Prod.fst =
      if place ∈ t.entries.map Prod.fst then t.entries.map Prod.fst
      else t.entries.map Prod.fst ++ [place] := by
  -- What is put replaces an entry exactly if the place is among the keys.
  have hmem : (t.entries.lookup place).isSome = true ↔ place ∈ t.entries.map Prod.fst := by
    rw [← not_iff_not, ← lookup_eq_none_iff_not_mem, Bool.not_eq_true,
      Option.isSome_eq_false_iff, Option.isNone_iff_eq_none]
  rw [put]
  by_cases hplace : place ∈ t.entries.map Prod.fst
  · rw [if_pos (hmem.mpr hplace), if_pos hplace, List.map_map]
    refine List.map_congr_left fun e _ => ?_
    rw [Function.comp_apply]
    split
    · next heq => exact heq.symm
    · rfl
  · rw [if_neg (hmem.not.mpr hplace), if_neg hplace, List.map_append, List.map_singleton]

/-- What is in a directory has a name there, and the place of the directory in front of it. -/
theorem nameIn_eq_some_iff (place p : Place) (name : String) :
    (if p.dropLast = place then p.getLast? else none) = some name ↔ p = place ++ [name] := by
  constructor
  · intro hname
    split at hname
    · next hplace => rw [← hplace, List.dropLast_append_getLast? name hname]
    · contradiction
  · rintro rfl
    rw [List.dropLast_concat, if_pos rfl, List.getLast?_concat]

namespace IsTree

variable {t : FileTree} (ht : t.IsTree)

include ht

/-- Putting something where a path leads and where there is no directory. -/
theorem put (place : Place) (entry : Entry) (hreaches : t.Reaches place)
    (hnames : ∀ n ∈ place, Path.IsName n) (hget : t.get? place ≠ some .directory) :
    (t.put place entry).IsTree := by
  have hkeeps := keepsDirectories_put t place entry hget
  -- Only one place can be new.
  have hplaces : ∀ other ∈ (t.put place entry).entries.map Prod.fst,
      other ∈ t.entries.map Prod.fst ∨ other = place := by
    intro other hother
    rw [keys_put] at hother
    split at hother
    · exact Or.inl hother
    · exact (List.mem_append.mp hother).imp_right List.mem_singleton.mp
  refine ⟨?_, fun other hother => ?_, fun other hother => ?_⟩
  · rw [keys_put]
    split
    · exact ht.distinct
    · next hnew =>
        rw [← List.concat_eq_append]
        exact ht.distinct.concat hnew
  · rcases hplaces other hother with hold | rfl
    · exact ⟨(ht.rooted other hold).1, (ht.rooted other hold).2.of_keeps hkeeps⟩
    · exact ⟨ne_nil_of_get? t other hget, hreaches.of_keeps hkeeps⟩
  · rcases hplaces other hother with hold | rfl
    · exact ht.named other hold
    · exact hnames

/-- Trees stay trees when directories are made. -/
theorem createDirs (path : String) : (t.createDirs path).1.IsTree := by
  refine createDirs_induction (motive := IsTree) t path ?_ ht
  rintro t place ht ⟨p, _, hplace⟩ hreaches hnone
  exact ht.put place .directory hreaches (isName_of_placeOf? p place hplace)
    (by rw [hnone]; exact (Option.some_ne_none _).symm)

theorem mem_entries_iff (place : Place) (entry : Entry) :
    (place, entry) ∈ t.entries ↔ place ≠ [] ∧ t.get? place = some entry := by
  rw [← lookup_eq_some_iff_mem _ _ _ ht.distinct]
  constructor
  · intro hlookup
    have hmem := (lookup_eq_some_iff_mem _ _ _ ht.distinct).mp hlookup
    have hne := (ht.rooted place (List.mem_map_of_mem hmem)).1
    exact ⟨hne, (t.get?_of_ne_nil place hne).trans hlookup⟩
  · rintro ⟨hne, hget⟩
    rw [← hget, t.get?_of_ne_nil place hne]

theorem mem_keys_iff (place : Place) :
    place ∈ t.entries.map Prod.fst ↔ place ≠ [] ∧ (t.get? place).isSome = true := by
  rw [List.mem_map]
  constructor
  · rintro ⟨⟨place, entry⟩, hmem, rfl⟩
    rcases (ht.mem_entries_iff place entry).mp hmem with ⟨hne, hget⟩
    exact ⟨hne, Option.isSome_of_mem hget⟩
  · rintro ⟨hne, hsome⟩
    rcases Option.isSome_iff_exists.mp hsome with ⟨entry, hget⟩
    exact ⟨(place, entry), (ht.mem_entries_iff place entry).mpr ⟨hne, hget⟩, rfl⟩

/-- What is somewhere is in a directory. -/
theorem reaches (place : Place) (hsome : (t.get? place).isSome = true) : t.Reaches place := by
  by_cases hne : place = []
  · rw [hne]
    exact fun n hn => absurd hn (Nat.not_lt_zero n)
  · exact (ht.rooted place ((ht.mem_keys_iff place).mpr ⟨hne, hsome⟩)).2

/-- There is nothing below a file, and nothing below nothing. -/
theorem get?_below (place : Place) (rest : Place) (hrest : rest ≠ [])
    (hget : t.get? place ≠ some .directory) : t.get? (place ++ rest) = none := by
  by_contra hsome
  have hreaches := ht.reaches (place ++ rest) (Option.isSome_iff_ne_none.mpr hsome)
  have hlength : place.length < (place ++ rest).length := by
    have hpos := List.length_pos_of_ne_nil hrest
    rw [List.length_append]
    omega
  -- The place itself is on the way, and everything on the way is a directory.
  have hdir := hreaches place.length hlength
  rw [List.take_left] at hdir
  exact hget hdir

theorem mem_names_iff (place : Place) (name : String) :
    name ∈ t.names place ↔ (t.get? (place ++ [name])).isSome = true := by
  have hkeys := ht.mem_keys_iff (place ++ [name])
  rw [and_iff_right (List.concat_ne_nil name place)] at hkeys
  rw [names, Text.sort, Text.mem_sortBy, List.mem_filterMap, ← hkeys, List.mem_map]
  exact exists_congr fun e => and_congr_right fun _ => nameIn_eq_some_iff place e.1 name

theorem isName_of_mem_names (place : Place) (name : String) (hname : name ∈ t.names place) :
    Path.IsName name := by
  rw [ht.mem_names_iff] at hname
  exact ht.named _ ((ht.mem_keys_iff _).mpr ⟨List.concat_ne_nil name place, hname⟩) name
    (List.mem_append_right place List.mem_cons_self)

theorem nodup_names (place : Place) : (t.names place).Nodup := by
  have hkeys : (t.entries.filterMap fun e =>
      if e.1.dropLast = place then e.1.getLast? else none) =
      (t.entries.map Prod.fst).filterMap fun p =>
        if p.dropLast = place then p.getLast? else none := by
    rw [List.filterMap_map]
    rfl
  rw [names, Text.sort, (Text.sortBy_perm id _).nodup_iff, hkeys]
  refine ht.distinct.filterMap fun p p' name hname hname' => ?_
  -- A place is told by the directory and the name.
  rw [(nameIn_eq_some_iff place p name).mp hname, (nameIn_eq_some_iff place p' name).mp hname']

theorem mem_files_iff (place : Place) (content : ByteArray) :
    (place, content) ∈ t.files ↔ t.fileAt? place = some content := by
  rw [files, List.mem_filterMap, fileAt?_eq_some_iff]
  constructor
  · rintro ⟨⟨place', entry⟩, hmem, hfile⟩
    cases entry with
    | directory => contradiction
    | file found =>
        rw [Option.some_inj, Prod.mk.injEq] at hfile
        rw [← hfile.1, ← hfile.2]
        exact ((ht.mem_entries_iff _ _).mp hmem).2
  · intro hget
    have hfile : t.fileAt? place = some content := (fileAt?_eq_some_iff ..).mpr hget
    have hne := t.ne_nil_of_get? place (get?_ne_directory (Option.isSome_of_mem hfile))
    exact ⟨(place, .file content), (ht.mem_entries_iff _ _).mpr ⟨hne, hget⟩, rfl⟩

theorem nodup_files : (t.files.map Prod.fst).Nodup :=
  ht.distinct.sublist t.map_fst_files_sublist

theorem mem_filesBelow_iff (place rest : Place) (content : ByteArray) :
    (rest, content) ∈ t.filesBelow place ↔
      rest ≠ [] ∧ t.fileAt? (place ++ rest) = some content := by
  rw [filesBelow, List.mem_filterMap]
  constructor
  · rintro ⟨f, hf, hrest⟩
    split at hrest
    · next name more hprefix =>
        rw [Option.some_inj, Prod.mk.injEq] at hrest
        rw [List.isPrefixOf?_eq_some_iff_append_eq] at hprefix
        refine ⟨hrest.1 ▸ List.cons_ne_nil name more, ?_⟩
        rw [← hrest.1, hprefix, ← hrest.2]
        exact (ht.mem_files_iff f.1 f.2).mp hf
    · contradiction
  · rintro ⟨hne, hfile⟩
    refine ⟨(place ++ rest, content), (ht.mem_files_iff _ _).mpr hfile, ?_⟩
    rw [List.isPrefixOf?_eq_some_iff_append_eq.mpr rfl]
    cases rest with
    | nil => exact absurd rfl hne
    | cons name more => rfl

theorem nodup_filesBelow (place : Place) : ((t.filesBelow place).map Prod.fst).Nodup := by
  rw [filesBelow, List.Nodup, List.pairwise_map, List.pairwise_filterMap]
  refine (List.pairwise_map.mp ht.nodup_files).imp fun {f f'} hne b hb b' hb' => ?_
  -- Where a file is seen from the place tells where it is.
  have hplace : ∀ f b : Place × ByteArray, (match place.isPrefixOf? f.1 with
      | some (name :: rest) => some (name :: rest, f.2)
      | _ => none) = some b → f.1 = place ++ b.1 := by
    intro f b hb
    split at hb
    · next name rest hprefix =>
        rw [← Option.some.inj hb]
        exact (List.isPrefixOf?_eq_some_iff_append_eq.mp hprefix).symm
    · contradiction
  rw [hplace f b hb, hplace f' b' hb'] at hne
  exact fun heq => hne (congrArg _ heq)

end IsTree

end FileTree

end Typings
