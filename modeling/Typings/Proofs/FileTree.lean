import Mathlib.Tactic.SplitIfs
import Typings.FileTree
import Typings.Proofs.Table
import Typings.Proofs.Text.Pieces

/-!
# What Operations Keep of a Tree

Making directories adds to a tree and changes nothing that is there. Writing a file
changes what is at one place, and nothing that was a directory. So a path that leads to
a place goes on leading there, whatever is written: all that it was followed through are
directories. What a file holds changes only when another text is written to its place.

Several paths can lead to one place, but not if they are seen from one directory and all
of their parts are names.

## Main definitions

* `Path.IsPlain`: All parts of a path are names.
* `FileTree.next?`, `FileTree.placeOf?`: Where a part, or a path, leads.
* `FileTree.fileAt?`: The content of the file at a place.
* `FileTree.Grows`: Everything that is in one tree is in another.
* `FileTree.KeepsDirectories`: All directories of one tree are in another.
* `FileTree.LeadsThrough`: The places that a path leads to and through.
* `FileTree.WritesOnly`: Only certain things are written from one tree to another.

## Theorems

* `Path.exists_parts_join`: The parts of paths seen from one directory.
* `FileTree.get?_put`: What is at a place after something was put there.
* `FileTree.locate_of_keeps`: A path leads to the same place if directories stay.
* `FileTree.eq_of_placeOf?_join`: Plain paths lead to different places.
* `FileTree.reaches_of_locate`: What a path leads to is reached through directories.
* `FileTree.eq_concat_of_locate_join`, `FileTree.locate_join`: A name leads into the directory
  that it is seen from.
* `FileTree.createDirs_induction`: What making directories keeps.
* `FileTree.grows_createDirs`, `FileTree.fileAt?_createDirs`: Making directories changes
  nothing that is there, and makes no files.
* `FileTree.exists_place_of_write`: What writing a file does.
* `FileTree.writesOnly_createDirs`, `FileTree.writesOnly_write`: What is written by making
  directories, and by writing a file.
* `FileTree.readText_of_get?`, `FileTree.readText_of_write`: The text of a file is the text it
  was given.
-/

namespace Typings

namespace Path

/-- All parts of a path are names, so that it leads where it says. -/
def IsPlain (path : String) : Prop :=
  ∀ part ∈ parts path, isIdle part = false ∧ part ≠ ".."

instance (path : String) : Decidable (IsPlain path) :=
  inferInstanceAs (Decidable (∀ part ∈ parts path, _))

/-- A path that begins at the root has an empty part there. -/
theorem IsPlain.isAbsolute_eq {path : String} (hplain : IsPlain path) :
    isAbsolute path = false := by
  rw [isAbsolute, decide_eq_false_iff_not]
  intro hhead
  rcases htext : path.toList with _ | ⟨c, rest⟩
  · rw [htext] at hhead
    contradiction
  · rw [htext, List.head?_cons, Option.some_inj] at hhead
    have hmem : "" ∈ parts path := by
      rw [parts, Text.split, htext, hhead]
      exact List.mem_cons_self
    exact absurd (hplain "" hmem).1 (by decide)

/-- Paths with the same parts are the same. -/
theorem parts_inj (path path' : String) (hparts : parts path = parts path') : path = path' := by
  have hjoin : ∀ path, Text.join (String.singleton '/') (parts path) = path := fun path =>
    Text.join_split _ '/' path fun _ _ hc => of_decide_eq_true hc
  rw [← hjoin path, hparts, hjoin path']

/-- After the empty parts at the end of a path were dropped, nothing but them is missing. -/
theorem exists_parts_eq_append (path : String) :
    ∃ n, parts path =
      ((parts path).reverse.dropWhile (·.isEmpty)).reverse ++ List.replicate n "" := by
  have hempty : (parts path).reverse.takeWhile (·.isEmpty) =
      List.replicate ((parts path).reverse.takeWhile (·.isEmpty)).length "" :=
    List.eq_replicate_iff.mpr ⟨rfl, fun part hpart =>
      String.isEmpty_iff.mp (List.mem_takeWhile_imp hpart)⟩
  refine ⟨((parts path).reverse.takeWhile (·.isEmpty)).length, ?_⟩
  rw [← List.reverse_replicate, ← hempty, ← List.reverse_append, List.takeWhile_append_dropWhile,
    List.reverse_reverse]

/-- Seen from one directory, all relative paths have the same parts in front. They are the
    parts of the directory, without an empty one at its end. -/
theorem exists_parts_join (base : String) :
    ∃ before, (parts base = before ∨ parts base = before ++ [""]) ∧
      ∀ path, isAbsolute path = false → parts (join base path) = before ++ parts path := by
  by_cases hempty : base = ""
  · refine ⟨[], Or.inr (by rw [hempty]; rfl), fun path hpath => ?_⟩
    rw [join, hpath, if_neg Bool.false_ne_true, String.isEmpty_iff.mpr hempty,
      Bool.true_or, if_pos rfl, hempty, String.empty_append, List.nil_append]
  · by_cases hlast : base.toList.getLast? = some '/'
    · -- The separator is there already.
      rcases List.getLast?_eq_some_iff.mp hlast with ⟨above, habove⟩
      have hbase : base = String.ofList above ++ String.singleton '/' := by
        apply String.toList_injective
        rw [habove, String.toList_append, String.toList_ofList, String.toList_singleton]
      have hsplit : ∀ path, parts (base ++ path) = parts (String.ofList above) ++ parts path := by
        intro path
        rw [hbase]
        exact Text.split_append_separator _ _ _ _ rfl
      refine ⟨parts (String.ofList above), Or.inr ?_, fun path hpath => ?_⟩
      · have hself := hsplit ""
        rwa [String.append_empty] at hself
      · rw [join, hpath, if_neg Bool.false_ne_true, if_pos, hsplit]
        rw [hlast, decide_eq_true rfl, Bool.or_true]
    · refine ⟨parts base, Or.inl rfl, fun path hpath => ?_⟩
      rw [join, hpath, if_neg Bool.false_ne_true, if_neg]
      · exact Text.split_append_separator _ base path '/' rfl
      · rw [Bool.or_eq_true, String.isEmpty_iff, decide_eq_true_eq]
        exact not_or.mpr ⟨hempty, hlast⟩

end Path

namespace FileTree

/-- Where a part leads from a directory: an idle part stays, two dots go up, and a name
    goes down. -/
def next? (place : Place) (part : String) : Option Place :=
  if Path.isIdle part then some place
  else if part = ".." then some place.dropLast
  else if maxName < part.utf8ByteSize then none
  else some (place ++ [part])

/-- The place that a path leads to as soon as all that it goes through are directories. -/
def placeOf? (path : String) : Option Place :=
  (Path.parts path).foldlM next? []

/-- The content of the file at a place. -/
def fileAt? (t : FileTree) (place : Place) : Option ByteArray :=
  match t.get? place with
  | some (.file content) => some content
  | _ => none

/-- All that lies above a place are directories. -/
def Reaches (t : FileTree) (place : Place) : Prop :=
  ∀ n < place.length, t.get? (place.take n) = some .directory

/-- Everything that is in one tree is in another. -/
def Grows (t t' : FileTree) : Prop :=
  ∀ place entry, t.get? place = some entry → t'.get? place = some entry

/-- All directories of one tree are in another. -/
def KeepsDirectories (t t' : FileTree) : Prop :=
  ∀ place, t.get? place = some .directory → t'.get? place = some .directory

theorem Grows.keepsDirectories {t t' : FileTree} (h : t.Grows t') : t.KeepsDirectories t' :=
  fun place hplace => h place .directory hplace

theorem get?_of_ne_nil (t : FileTree) (place : Place) (hplace : place ≠ []) :
    t.get? place = t.entries.lookup place := by
  rw [get?, if_neg]
  rwa [List.isEmpty_iff]

/-- What is at a place below the root after something was put there, and what is
    elsewhere. -/
theorem get?_put (t : FileTree) (place other : Place) (entry : Entry) (hplace : place ≠ []) :
    (t.put place entry).get? other = if other = place then some entry else t.get? other := by
  by_cases hroot : other = []
  · rw [if_neg (hroot ▸ hplace.symm), hroot]
    rfl
  · rw [get?_of_ne_nil _ _ hroot, get?_of_ne_nil _ _ hroot, put]
    -- What is there is replaced where it stands, and what is new comes last.
    by_cases hsome : (t.entries.lookup place).isSome = true
    · rw [if_pos hsome]
      exact lookup_replace t.entries place other entry ((any_eq_isSome_lookup _ _).trans hsome)
    · rw [if_neg hsome]
      rw [Bool.not_eq_true, Option.isSome_eq_false_iff, Option.isNone_iff_eq_none] at hsome
      exact lookup_append_new t.entries place other entry hsome

theorem fileAt?_eq_some_iff (t : FileTree) (place : Place) (content : ByteArray) :
    t.fileAt? place = some content ↔ t.get? place = some (.file content) := by
  rw [fileAt?]
  split
  · next found hget => rw [hget, Option.some_inj, Option.some_inj, Entry.file.injEq]
  · next hnot => exact ⟨nofun, fun hget => absurd hget (hnot content)⟩

/-- There is a directory at the root. -/
theorem ne_nil_of_get? (t : FileTree) (place : Place) (hget : t.get? place ≠ some .directory) :
    place ≠ [] := by
  rintro rfl
  exact hget rfl

/-- Putting something where there is no directory leaves directories as they are. -/
theorem keepsDirectories_put (t : FileTree) (place : Place) (entry : Entry)
    (hget : t.get? place ≠ some .directory) : t.KeepsDirectories (t.put place entry) := by
  intro other hother
  rw [get?_put _ _ _ _ (ne_nil_of_get? t place hget), if_neg]
  · exact hother
  · rintro rfl
    exact hget hother

/-- A file that is put where there is no directory has its content, and every other file
    has the one it had. -/
theorem fileAt?_put_file (t : FileTree) (place other : Place) (content : ByteArray)
    (hget : t.get? place ≠ some .directory) :
    (t.put place (.file content)).fileAt? other =
      if other = place then some content else t.fileAt? other := by
  rw [fileAt?, get?_put _ _ _ _ (ne_nil_of_get? t place hget)]
  by_cases hother : other = place
  · rw [if_pos hother, if_pos hother]
  · rw [if_neg hother, if_neg hother, fileAt?]

theorem locate_eq_ok_iff (t : FileTree) (path : String) (place : Place) :
    t.locate path = .ok place ↔
      ¬ path.toList.contains '\x00' = true ∧ ¬ path.isEmpty = true ∧
        ¬ maxPath < path.utf8ByteSize ∧ t.follow [] (Path.parts path) = .ok place := by
  rw [locate]
  split_ifs with hzero hempty hlong
  · exact ⟨nofun, fun h => absurd hzero h.1⟩
  · exact ⟨nofun, fun h => absurd hempty h.2.1⟩
  · exact ⟨nofun, fun h => absurd hlong h.2.2.1⟩
  · exact ⟨fun h => ⟨hzero, hempty, hlong, h⟩, fun h => h.2.2.2⟩

section Follow

variable {t : FileTree}

/-- A path is followed from directory to directory. -/
theorem follow_cons_eq_ok_iff (place found : Place) (part : String) (parts : List String) :
    t.follow place (part :: parts) = .ok found ↔
      t.get? place = some .directory ∧
        ∃ next, next? place part = some next ∧ t.follow next parts = .ok found := by
  rw [follow, next?]
  split
  · next hget => simp only [hget, reduceCtorEq, false_and]
  · next content hget => simp only [hget, Option.some_inj, reduceCtorEq, false_and]
  · next hget =>
      split_ifs <;>
        simp only [hget, Option.some_inj, exists_eq_left', true_and, false_and, exists_false,
          and_false]

/-- A path that is followed from a place goes on being followed to the same place as long
    as directories stay. -/
theorem follow_of_keeps {t' : FileTree} (hkeeps : t.KeepsDirectories t') (place found : Place)
    (parts : List String) (hfollow : t.follow place parts = .ok found) :
    t'.follow place parts = .ok found := by
  induction parts generalizing place with
  | nil => exact hfollow
  | cons part rest ih =>
      rw [follow_cons_eq_ok_iff] at hfollow ⊢
      rcases hfollow with ⟨hget, next, hnext, hrest⟩
      exact ⟨hkeeps place hget, next, hnext, ih next hrest⟩

/-- To follow a path is to follow its first parts and then the others. -/
theorem exists_follow_of_append (place found : Place) (parts others : List String)
    (hfollow : t.follow place (parts ++ others) = .ok found) :
    ∃ between, t.follow place parts = .ok between ∧ t.follow between others = .ok found := by
  induction parts generalizing place with
  | nil => exact ⟨place, rfl, hfollow⟩
  | cons part rest ih =>
      rw [List.cons_append, follow_cons_eq_ok_iff] at hfollow
      rcases hfollow with ⟨hget, next, hnext, hrest⟩
      rcases ih next hrest with ⟨between, hfirst, hthen⟩
      exact ⟨between, (follow_cons_eq_ok_iff ..).mpr ⟨hget, next, hnext, hfirst⟩, hthen⟩

/-- What is reached through the first parts of a path and then through the others is reached
    through the path. -/
theorem follow_append (place between found : Place) (parts others : List String)
    (hfirst : t.follow place parts = .ok between) (hthen : t.follow between others = .ok found) :
    t.follow place (parts ++ others) = .ok found := by
  induction parts generalizing place with
  | nil =>
      rw [follow, Except.ok.injEq] at hfirst
      rwa [List.nil_append, hfirst]
  | cons part rest ih =>
      rcases (follow_cons_eq_ok_iff ..).mp hfirst with ⟨hget, next, hnext, hrest⟩
      exact (follow_cons_eq_ok_iff ..).mpr ⟨hget, next, hnext, ih next hrest⟩

/-- Names lead down. -/
theorem eq_append_of_foldlM_next? (place found : Place) (parts : List String)
    (hplain : ∀ part ∈ parts, Path.isIdle part = false ∧ part ≠ "..")
    (hplace : parts.foldlM next? place = some found) : found = place ++ parts := by
  induction parts generalizing place with
  | nil => rw [List.append_nil, Option.some.inj hplace]
  | cons part rest ih =>
      rcases Option.bind_eq_some_iff.mp hplace with ⟨next, hnext, hrest⟩
      rcases hplain part List.mem_cons_self with ⟨hidle, hup⟩
      rw [next?, hidle, if_neg Bool.false_ne_true, if_neg hup] at hnext
      have hdown : place ++ [part] = next := by
        by_cases hlong : maxName < part.utf8ByteSize
        · rw [if_pos hlong] at hnext
          contradiction
        · rwa [if_neg hlong, Option.some_inj] at hnext
      rw [ih next (fun p hp => hplain p (List.mem_cons_of_mem part hp)) hrest, ← hdown,
        List.append_assoc]
      rfl

/-- Where a path leads is not up to the tree, as long as it leads somewhere. -/
theorem foldlM_next?_of_follow (place found : Place) (parts : List String)
    (hfollow : t.follow place parts = .ok found) : parts.foldlM next? place = some found := by
  induction parts generalizing place with
  | nil =>
      rw [follow, Except.ok.injEq] at hfollow
      rw [List.foldlM_nil, hfollow]
      rfl
  | cons part rest ih =>
      rw [follow_cons_eq_ok_iff] at hfollow
      rcases hfollow with ⟨_, next, hnext, hrest⟩
      rw [List.foldlM_cons, hnext]
      exact ih next hrest

/-- Whatever a path is followed through is a directory, so all that lies above the place
    it leads to are directories too. -/
theorem reaches_of_follow (place found : Place) (parts : List String) (hplace : t.Reaches place)
    (hfollow : t.follow place parts = .ok found) : t.Reaches found := by
  induction parts generalizing place with
  | nil =>
      rw [follow, Except.ok.injEq] at hfollow
      rwa [← hfollow]
  | cons part rest ih =>
      rw [follow_cons_eq_ok_iff] at hfollow
      rcases hfollow with ⟨hget, next, hnext, hrest⟩
      refine ih next ?_ hrest
      rw [next?] at hnext
      split_ifs at hnext
      · rwa [← Option.some.inj hnext]
      · rw [← Option.some.inj hnext]
        intro n hn
        rw [List.length_dropLast] at hn
        rw [List.dropLast_eq_take, List.take_take, Nat.min_eq_left (Nat.le_of_lt hn)]
        exact hplace n (by omega)
      · rw [← Option.some.inj hnext]
        intro n hn
        rw [List.length_append, List.length_singleton] at hn
        rw [List.take_append_of_le_length (by omega)]
        -- A name leads down from the directory that was reached.
        by_cases hlast : n = place.length
        · rwa [hlast, List.take_length]
        · exact hplace n (by omega)

end Follow

theorem placeOf?_of_locate (t : FileTree) (path : String) (place : Place)
    (hlocate : t.locate path = .ok place) : placeOf? path = some place :=
  foldlM_next?_of_follow [] place _ ((locate_eq_ok_iff ..).mp hlocate).2.2.2

/-- All that lies above the place that a path leads to are directories. -/
theorem reaches_of_locate (t : FileTree) (path : String) (place : Place)
    (hlocate : t.locate path = .ok place) : t.Reaches place :=
  reaches_of_follow [] place _ (fun _ hn => absurd hn (Nat.not_lt_zero _))
    ((locate_eq_ok_iff ..).mp hlocate).2.2.2

/-- A name seen from a directory leads into that directory, unless it leads to another
    directory. -/
theorem eq_concat_of_locate_join (t : FileTree) (base name : String) (place : Place)
    (hname : ∀ c ∈ name.toList, c ≠ '/') (hlocate : t.locate (Path.join base name) = .ok place)
    (hget : t.get? place ≠ some .directory) :
    ∃ directory, placeOf? base = some directory ∧ place = directory ++ [name] := by
  have hparts : Path.parts name = [name] :=
    Text.split_eq_singleton _ name fun c hc => decide_eq_false (hname c hc)
  have hrelative : Path.isAbsolute name = false := by
    rw [Path.isAbsolute, decide_eq_false_iff_not]
    exact fun hhead => hname '/' (List.mem_of_mem_head? hhead) rfl
  rcases Path.exists_parts_join base with ⟨before, hbase, hbefore⟩
  have hfollow := ((locate_eq_ok_iff ..).mp hlocate).2.2.2
  rw [hbefore name hrelative, hparts] at hfollow
  rcases exists_follow_of_append _ _ _ _ hfollow with ⟨directory, hfirst, hthen⟩
  have hdirectory : placeOf? base = some directory := by
    have hplace := foldlM_next?_of_follow _ _ _ hfirst
    rw [placeOf?]
    rcases hbase with hbase | hbase
    · rw [hbase, hplace]
    · rw [hbase, List.foldlM_append, hplace]
      rfl
  refine ⟨directory, hdirectory, ?_⟩
  rw [follow_cons_eq_ok_iff] at hthen
  rcases hthen with ⟨hdir, next, hnext, hfound⟩
  rw [follow, Except.ok.injEq] at hfound
  rw [hfound, next?] at hnext
  split_ifs at hnext with hidle hup
  · rw [← Option.some.inj hnext] at hget
    exact absurd hdir hget
  · -- What lies above a directory is a directory.
    rw [← Option.some.inj hnext, List.dropLast_eq_take] at hget
    have hreaches := reaches_of_follow _ _ _ (fun _ hn => absurd hn (Nat.not_lt_zero _)) hfirst
    rcases Nat.eq_zero_or_pos directory.length with hempty | hpos
    · rw [hempty] at hget
      exact absurd rfl hget
    · exact absurd (hreaches (directory.length - 1) (by omega)) hget
  · exact (Option.some.inj hnext).symm

/-- A path that leads to a directory leads on to the names in it. -/
theorem locate_join (t : FileTree) (base name : String) (directory : Place)
    (hlocate : t.locate base = .ok directory) (hdirectory : t.get? directory = some .directory)
    (hslash : '/' ∉ name.toList) (hzero : '\x00' ∉ name.toList)
    (hidle : Path.isIdle name = false) (hup : name ≠ "..") (hshort : name.utf8ByteSize ≤ maxName)
    (hpath : base.utf8ByteSize + name.utf8ByteSize < maxPath) :
    t.locate (Path.join base name) = .ok (directory ++ [name]) := by
  have hparts : Path.parts name = [name] :=
    Text.split_eq_singleton _ name fun c hc => decide_eq_false fun h => hslash (h ▸ hc)
  have hrelative : Path.isAbsolute name = false := by
    rw [Path.isAbsolute, decide_eq_false_iff_not]
    exact fun hhead => hslash (List.mem_of_mem_head? hhead)
  rcases (locate_eq_ok_iff ..).mp hlocate with ⟨hbasezero, hbaseempty, _, hfollow⟩
  rcases Path.exists_parts_join base with ⟨before, hbase, hbefore⟩
  -- An empty part at the end of the directory's own path stays in the directory.
  have hfirst : t.follow [] before = .ok directory := by
    rcases hbase with hbase | hbase
    · rwa [hbase] at hfollow
    · rw [hbase] at hfollow
      rcases exists_follow_of_append _ _ _ _ hfollow with ⟨between, hfirst, hthen⟩
      rcases (follow_cons_eq_ok_iff ..).mp hthen with ⟨_, next, hnext, hlast⟩
      have hstay : next? between "" = some between := rfl
      rw [hstay, Option.some_inj] at hnext
      rw [follow, Except.ok.injEq] at hlast
      rw [hfirst, hnext, hlast]
  have hdown : t.follow directory [name] = .ok (directory ++ [name]) := by
    refine (follow_cons_eq_ok_iff ..).mpr ⟨hdirectory, directory ++ [name], ?_, rfl⟩
    rw [next?, hidle, if_neg Bool.false_ne_true, if_neg hup, if_neg (Nat.not_lt.mpr hshort)]
  have hjoin : Path.join base name = base ++ name ∨ Path.join base name = base ++ "/" ++ name := by
    rw [Path.join, hrelative, if_neg Bool.false_ne_true]
    split
    · exact Or.inl rfl
    · exact Or.inr rfl
  have hsize : "/".utf8ByteSize = 1 := rfl
  rw [List.contains_iff_mem] at hbasezero
  rw [String.isEmpty_iff] at hbaseempty
  rw [locate_eq_ok_iff, hbefore name hrelative, hparts, List.contains_iff_mem, String.isEmpty_iff]
  refine ⟨?_, ?_, ?_, follow_append _ _ _ _ _ hfirst hdown⟩
  · rcases hjoin with hjoin | hjoin <;> rw [hjoin]
    · rw [String.toList_append, List.mem_append]
      exact not_or.mpr ⟨hbasezero, hzero⟩
    · rw [String.toList_append, String.toList_append, List.mem_append, List.mem_append]
      exact not_or.mpr ⟨not_or.mpr ⟨hbasezero, by decide⟩, hzero⟩
  · rcases hjoin with hjoin | hjoin <;> rw [hjoin]
    · exact fun h => hbaseempty (String.append_eq_empty_iff.mp h).1
    · exact fun h => hbaseempty (String.append_eq_empty_iff.mp (String.append_eq_empty_iff.mp h).1).1
  · rcases hjoin with hjoin | hjoin <;> rw [hjoin]
    · rw [String.utf8ByteSize_append]
      omega
    · rw [String.utf8ByteSize_append, String.utf8ByteSize_append, hsize]
      omega

/-- A path that leads to a place goes on leading there as long as directories stay. -/
theorem locate_of_keeps {t t' : FileTree} (hkeeps : t.KeepsDirectories t') (path : String)
    (place : Place) (hlocate : t.locate path = .ok place) : t'.locate path = .ok place := by
  rw [locate_eq_ok_iff] at hlocate ⊢
  exact ⟨hlocate.1, hlocate.2.1, hlocate.2.2.1, follow_of_keeps hkeeps [] place _ hlocate.2.2.2⟩

/-- Plain paths that are seen from one directory and lead to one place are the same. -/
theorem eq_of_placeOf?_join (base path path' : String) (place : Place)
    (hplain : Path.IsPlain path) (hplain' : Path.IsPlain path')
    (hplace : placeOf? (Path.join base path) = some place)
    (hplace' : placeOf? (Path.join base path') = some place) : path = path' := by
  rcases Path.exists_parts_join base with ⟨before, _, hbefore⟩
  rw [placeOf?, hbefore path hplain.isAbsolute_eq, List.foldlM_append] at hplace
  rw [placeOf?, hbefore path' hplain'.isAbsolute_eq, List.foldlM_append] at hplace'
  rcases Option.bind_eq_some_iff.mp hplace with ⟨between, hfirst, hthen⟩
  rcases Option.bind_eq_some_iff.mp hplace' with ⟨between', hfirst', hthen'⟩
  -- Both paths come through the same directory, and their names lead down from there.
  rw [hfirst, Option.some_inj] at hfirst'
  subst hfirst'
  have hparts := eq_append_of_foldlM_next? _ _ _ hplain hthen
  rw [eq_append_of_foldlM_next? _ _ _ hplain' hthen'] at hparts
  exact Path.parts_inj path path' (List.append_cancel_left hparts).symm

theorem eq_of_locate_join (t : FileTree) (base path path' : String) (place : Place)
    (hplain : Path.IsPlain path) (hplain' : Path.IsPlain path')
    (hlocate : t.locate (Path.join base path) = .ok place)
    (hlocate' : t.locate (Path.join base path') = .ok place) : path = path' :=
  eq_of_placeOf?_join base path path' place hplain hplain' (placeOf?_of_locate t _ place hlocate)
    (placeOf?_of_locate t _ place hlocate')

/-- From one tree to another only certain things are written: files with certain contents, in
    place of files or of nothing, and certain directories, in place of nothing. -/
def WritesOnly (files : Place → ByteArray → Prop) (directories : Place → Prop)
    (t t' : FileTree) : Prop :=
  ∀ place, t'.get? place = t.get? place ∨
    (∃ content, files place content ∧ t.get? place ≠ some .directory ∧
      t'.get? place = some (.file content)) ∨
    (directories place ∧ t.get? place = none ∧ t'.get? place = some .directory)

namespace WritesOnly

variable {files files' : Place → ByteArray → Prop} {directories directories' : Place → Prop}
  {t t' t'' : FileTree}

theorem refl : WritesOnly files directories t t := fun _ => Or.inl rfl

/-- What is written in two steps is what is written in one of them. A directory that was made
    is not written over, and a file stays a file. -/
theorem trans (h : WritesOnly files directories t t') (h' : WritesOnly files directories t' t'') :
    WritesOnly files directories t t'' := by
  intro place
  rcases h' place with hsame | ⟨content, hfile, hnot, hwritten⟩ | ⟨hdirectory, hnone, hmade⟩
  · rw [hsame]
    exact h place
  · -- A directory that was there before would have stayed.
    refine Or.inr (Or.inl ⟨content, hfile, fun hget => ?_, hwritten⟩)
    rcases h place with hsame | ⟨_, _, hnot', _⟩ | ⟨_, hnone, _⟩
    · exact hnot (hsame.trans hget)
    · exact hnot' hget
    · rw [hget] at hnone
      contradiction
  · -- Where nothing is in between, nothing was before.
    refine Or.inr (Or.inr ⟨hdirectory, ?_, hmade⟩)
    rcases h place with hsame | ⟨_, _, _, hwritten⟩ | ⟨_, _, hmade'⟩
    · exact hsame ▸ hnone
    · rw [hnone] at hwritten
      contradiction
    · rw [hnone] at hmade'
      contradiction

theorem mono (h : WritesOnly files directories t t')
    (hfiles : ∀ place content, files place content → files' place content)
    (hdirectories : ∀ place, directories place → directories' place) :
    WritesOnly files' directories' t t' := by
  intro place
  rcases h place with hsame | ⟨content, hfile, hwritten⟩ | ⟨hdirectory, hmade⟩
  · exact Or.inl hsame
  · exact Or.inr (Or.inl ⟨content, hfiles place content hfile, hwritten⟩)
  · exact Or.inr (Or.inr ⟨hdirectories place hdirectory, hmade⟩)

theorem keepsDirectories (h : WritesOnly files directories t t') : t.KeepsDirectories t' := by
  intro place hplace
  rcases h place with hsame | ⟨_, _, hnot, _⟩ | ⟨_, hnone, _⟩
  · exact hsame.trans hplace
  · exact absurd hplace hnot
  · rw [hnone] at hplace
    contradiction

/-- Where no files are written, everything stays. -/
theorem grows (h : WritesOnly (fun _ _ => False) directories t t') : t.Grows t' := by
  intro place entry hentry
  rcases h place with hsame | ⟨_, hfile, _⟩ | ⟨_, hnone, _⟩
  · exact hsame.trans hentry
  · exact hfile.elim
  · rw [hnone] at hentry
    contradiction

/-- A file that is not among those that are written is the same as before. -/
theorem fileAt?_eq (h : WritesOnly files directories t t') (place : Place)
    (hnot : ∀ content, ¬ files place content) : t'.fileAt? place = t.fileAt? place := by
  rw [fileAt?, fileAt?]
  rcases h place with hsame | ⟨content, hfile, _⟩ | ⟨_, hnone, hmade⟩
  · rw [hsame]
  · exact absurd hfile (hnot content)
  · rw [hnone, hmade]

theorem put_file (place : Place) (content : ByteArray) (hfile : files place content)
    (hget : t.get? place ≠ some .directory) :
    WritesOnly files directories t (t.put place (.file content)) := by
  intro other
  rw [get?_put _ _ _ _ (ne_nil_of_get? t place hget)]
  by_cases hother : other = place
  · rw [if_pos hother, hother]
    exact Or.inr (Or.inl ⟨content, hfile, hget, rfl⟩)
  · rw [if_neg hother]
    exact Or.inl rfl

theorem put_directory (place : Place) (hdirectory : directories place)
    (hnone : t.get? place = none) :
    WritesOnly files directories t (t.put place .directory) := by
  intro other
  rw [get?_put _ _ _ _ (ne_nil_of_get? t place (by rw [hnone]; exact nofun))]
  by_cases hother : other = place
  · rw [if_pos hother, hother]
    exact Or.inr (Or.inr ⟨hdirectory, hnone, rfl⟩)
  · rw [if_neg hother]
    exact Or.inl rfl

end WritesOnly

/-- What two steps that go well come to. -/
theorem bind_eq_ok {α β : Type} (x : Except FileFault α) (f : α → Except FileFault β) (b : β)
    (h : x >>= f = .ok b) : ∃ a, x = .ok a ∧ f a = .ok b := by
  cases x with
  | error fault => contradiction
  | ok a => exact ⟨a, rfl, h⟩

/-- Empty parts at the end of a path lead nowhere else. -/
theorem placeOf?_join_of_parts (path : String) (named : List String) (n : Nat)
    (hnamed : named ≠ []) (hparts : Path.parts path = named ++ List.replicate n "") :
    placeOf? (Text.join "/" named) = placeOf? path := by
  have hslash : ∀ part ∈ named, ∀ c ∈ part.toList, decide (c = '/') = false := by
    intro part hpart
    have hmem : part ∈ Path.parts path := hparts ▸ List.mem_append_left _ hpart
    rcases List.mem_map.mp hmem with ⟨cs, hcs, rfl⟩
    rw [String.toList_ofList]
    exact Text.not_isSeparator_of_mem_splitChars _ _ cs hcs
  have hjoin : Path.parts (Text.join "/" named) = named :=
    Text.split_join _ '/' named hslash rfl hnamed
  -- An empty part stays in the directory that it is seen from.
  have hidle : ∀ n place, (List.replicate n "").foldlM next? place = some place := by
    intro n place
    induction n with
    | zero => rfl
    | succ n ih => exact ih
  rw [placeOf?, placeOf?, hjoin, hparts, List.foldlM_append]
  simp only [hidle]
  cases named.foldlM next? [] <;> rfl

/-- Making a directory puts it at the place that its path leads to, where there is
    nothing, but for the directories above. -/
theorem exists_place_of_createDir (t made : FileTree) (path : String)
    (hmade : t.createDir path = .ok made) :
    ∃ place, placeOf? path = some place ∧ t.Reaches place ∧ t.get? place = none ∧
      made = t.put place .directory := by
  have hadded : ∀ path', placeOf? path' = placeOf? path →
      (t.locate path' >>= fun place => do
        if (t.get? place).isSome then throw .alreadyExists
        return t.put place .directory) = .ok made →
      ∃ place, placeOf? path = some place ∧ t.Reaches place ∧ t.get? place = none ∧
        made = t.put place .directory := by
    intro path' hplace hmade
    rcases bind_eq_ok _ _ _ hmade with ⟨place, hlocate, hadd⟩
    by_cases hsome : (t.get? place).isSome = true
    · rw [if_pos hsome] at hadd
      contradiction
    · rw [if_neg hsome] at hadd
      rw [Bool.not_eq_true, Option.isSome_eq_false_iff, Option.isNone_iff_eq_none] at hsome
      exact ⟨place, hplace ▸ placeOf?_of_locate t path' place hlocate,
        t.reaches_of_locate path' place hlocate, hsome, (Except.ok.inj hadd).symm⟩
  -- Separators behind the name are dropped, if that leaves anything.
  rw [createDir] at hmade
  split at hmade
  · exact hadded path rfl hmade
  · next hne =>
      rcases Path.exists_parts_eq_append path with ⟨n, hparts⟩
      exact hadded _
        (placeOf?_join_of_parts path _ n (fun h => hne (List.isEmpty_iff.mpr h)) hparts) hmade

/-- Making the first of some directories keeps what putting one of them where there is
    nothing keeps, also where it fails half way. -/
theorem createFrom_induction {motive : FileTree → Prop} (t : FileTree) (paths : List String)
    (hput : ∀ path ∈ paths, ∀ t place, motive t → placeOf? path = some place →
      t.Reaches place → t.get? place = none → motive (t.put place .directory)) (h : motive t) :
    motive (t.createFrom paths).1 := by
  have hcreated : ∀ path ∈ paths, ∀ t made, t.createDir path = .ok made → motive t →
      motive made := by
    intro path hpath t made hmade h
    rcases exists_place_of_createDir t made path hmade with ⟨place, hplace, hreaches, hnone, rfl⟩
    exact hput path hpath t place h hplace hreaches hnone
  induction paths with
  | nil => exact h
  | cons path above ih =>
      rw [createFrom]
      cases hfirst : t.createDir path with
      | ok made => exact hcreated path List.mem_cons_self t made hfirst h
      | error fault =>
          cases fault with
          | notFound =>
              -- What lies above is made first, and then the directory itself.
              have hbefore := ih (fun path' hpath' => hput path' (List.mem_cons_of_mem _ hpath'))
                fun path' hpath' => hcreated path' (List.mem_cons_of_mem _ hpath')
              rcases habove : t.createFrom above with ⟨made, _ | fault⟩
              · rw [habove] at hbefore
                simp only
                cases hagain : made.createDir path with
                | ok finished =>
                    exact hcreated path List.mem_cons_self made finished hagain hbefore
                | error fault => exact hbefore
              · rw [habove] at hbefore
                exact hbefore
          | _ => exact h

/-- The place that a path leads to, or one that lies on the way. -/
def LeadsThrough (path : String) (place : Place) : Prop :=
  ∃ p ∈ path :: Path.parents path, placeOf? p = some place

/-- Making a directory with all those above it keeps what putting one of them where there is
    nothing keeps. -/
theorem createDirs_induction {motive : FileTree → Prop} (t : FileTree) (path : String)
    (hput : ∀ t place, motive t → LeadsThrough path place → t.Reaches place →
      t.get? place = none → motive (t.put place .directory)) (h : motive t) :
    motive (t.createDirs path).1 :=
  createFrom_induction t _ (fun p hp t place h hplace hreaches hnone =>
    hput t place h ⟨p, (List.mem_filter.mp hp).1, hplace⟩ hreaches hnone) h

/-- Making directories writes those that the path leads through. -/
theorem writesOnly_createDirs (files : Place → ByteArray → Prop) (t : FileTree) (path : String) :
    WritesOnly files (LeadsThrough path) t (t.createDirs path).1 :=
  createDirs_induction (motive := WritesOnly files (LeadsThrough path) t) t path
    (fun _ place h hleads _ hnone => h.trans (.put_directory place hleads hnone)) .refl

/-- Making directories changes nothing that is there. -/
theorem grows_createDirs (t : FileTree) (path : String) : t.Grows (t.createDirs path).1 :=
  (writesOnly_createDirs (fun _ _ => False) t path).grows

/-- Making directories makes no files. -/
theorem fileAt?_createDirs (t : FileTree) (path : String) :
    (t.createDirs path).1.fileAt? = t.fileAt? :=
  funext fun place =>
    (writesOnly_createDirs (fun _ _ => False) t path).fileAt?_eq place fun _ => not_false

/-- Writing a file gives it its content at the place that its path leads to, where there
    is no directory. -/
theorem exists_place_of_write (t written : FileTree) (path : String) (content : ByteArray)
    (hwritten : t.write path content = .ok written) :
    ∃ place, t.locate path = .ok place ∧ t.get? place ≠ some .directory ∧
      written = t.put place (.file content) := by
  rcases bind_eq_ok _ _ _ hwritten with ⟨place, hlocate, hput⟩
  by_cases hdir : (t.get? place).any Entry.isDirectory = true
  · rw [if_pos hdir] at hput
    contradiction
  · rw [if_neg hdir] at hput
    refine ⟨place, hlocate, fun hget => hdir ?_, (Except.ok.inj hput).symm⟩
    rw [hget]
    rfl

/-- A path leads to a file if there is one at its place. -/
theorem isFile_iff (t : FileTree) (path : String) :
    t.isFile path = true ↔
      ∃ place content, t.locate path = .ok place ∧ t.fileAt? place = some content := by
  rw [isFile, entryAt?]
  cases hlocate : t.locate path with
  | error fault => simp only [Option.any_none, Bool.false_eq_true, reduceCtorEq, false_and,
      exists_false]
  | ok place =>
      simp only [Except.ok.injEq, exists_and_left, exists_eq_left', fileAt?_eq_some_iff]
      rcases t.get? place with _ | ⟨content⟩ | _
      · exact ⟨nofun, nofun⟩
      · exact ⟨fun _ => ⟨content, rfl⟩, fun _ => rfl⟩
      · exact ⟨nofun, nofun⟩

/-- A path leads to a directory if there is one at its place. -/
theorem isDir_iff (t : FileTree) (path : String) :
    t.isDir path = true ↔
      ∃ place, t.locate path = .ok place ∧ t.get? place = some .directory := by
  rw [isDir, entryAt?]
  cases hlocate : t.locate path with
  | error fault => simp only [Option.any_none, Bool.false_eq_true, reduceCtorEq, false_and,
      exists_false]
  | ok place =>
      simp only [Except.ok.injEq, exists_eq_left']
      rcases t.get? place with _ | ⟨content⟩ | _
      · exact ⟨nofun, nofun⟩
      · exact ⟨nofun, nofun⟩
      · exact ⟨fun _ => rfl, fun _ => rfl⟩

theorem fromUTF8?_eq_some_iff (content : ByteArray) (text : String) :
    String.fromUTF8? content = some text ↔ content = text.toUTF8 := by
  rw [String.fromUTF8?]
  constructor
  · intro hread
    by_cases hvalid : content.IsValidUTF8
    · rw [dif_pos hvalid, Option.some_inj] at hread
      rw [← hread]
      rfl
    · rw [dif_neg hvalid] at hread
      contradiction
  · rintro rfl
    exact dif_pos text.isValidUTF8

/-- A text is read if it is what the file at the place of the path has for its content. -/
theorem readText_eq_ok_iff (t : FileTree) (path text : String) :
    t.readText path = .ok text ↔
      ∃ place, t.locate path = .ok place ∧ t.fileAt? place = some text.toUTF8 := by
  constructor
  · intro hread
    rcases bind_eq_ok _ _ _ hread with ⟨content, hbytes, htext⟩
    rcases bind_eq_ok _ _ _ hbytes with ⟨place, hlocate, hcontent⟩
    refine ⟨place, hlocate, (fileAt?_eq_some_iff ..).mpr ?_⟩
    cases hdecoded : String.fromUTF8? content with
    | none =>
        rw [hdecoded] at htext
        contradiction
    | some found =>
        rw [hdecoded] at htext
        rw [← Except.ok.inj htext, ← (fromUTF8?_eq_some_iff content found).mp hdecoded]
        rcases hget : t.get? place with _ | ⟨old⟩ | _
        · rw [hget] at hcontent
          contradiction
        · rw [hget] at hcontent
          rw [Except.ok.inj hcontent]
        · rw [hget] at hcontent
          contradiction
  · rintro ⟨place, hlocate, hfile⟩
    have hbytes : t.readBytes path = .ok text.toUTF8 := by
      rw [readBytes, hlocate]
      simp only [bind, Except.bind, (fileAt?_eq_some_iff ..).mp hfile]
      rfl
    rw [readText, hbytes]
    simp only [bind, Except.bind, (fromUTF8?_eq_some_iff ..).mpr rfl]
    rfl

/-- The text of a file is the text that it was given. -/
theorem readText_of_get? (t : FileTree) (path : String) (place : Place) (text : String)
    (hlocate : t.locate path = .ok place) (hget : t.get? place = some (.file text.toUTF8)) :
    t.readText path = .ok text :=
  (readText_eq_ok_iff t path text).mpr ⟨place, hlocate, (fileAt?_eq_some_iff ..).mpr hget⟩

/-- A text that was written is read. -/
theorem readText_of_write (t written : FileTree) (path text : String)
    (hwritten : t.write path text.toUTF8 = .ok written) : written.readText path = .ok text := by
  rcases exists_place_of_write t written path _ hwritten with ⟨place, hlocate, hget, rfl⟩
  -- The file is put where there is no directory, so the path leads where it led.
  refine (readText_eq_ok_iff ..).mpr
    ⟨place, locate_of_keeps (keepsDirectories_put t place _ hget) path place hlocate, ?_⟩
  rw [fileAt?_put_file _ _ _ _ hget, if_pos rfl]

/-- Writing a file writes it at the place that its path leads to. -/
theorem writesOnly_write (directories : Place → Prop) (t written : FileTree) (path : String)
    (content : ByteArray) (hwritten : t.write path content = .ok written) :
    WritesOnly (fun place written => placeOf? path = some place ∧ written = content) directories
      t written := by
  rcases exists_place_of_write t written path content hwritten with ⟨place, hlocate, hget, rfl⟩
  exact .put_file place content ⟨placeOf?_of_locate t path place hlocate, rfl⟩ hget

/-- Paths that lead to the same place have the same text. -/
theorem readText_eq_of_locate (t : FileTree) (path path' : String)
    (hlocate : t.locate path = t.locate path') : t.readText path = t.readText path' := by
  rw [readText, readText, readBytes, readBytes, hlocate]

end FileTree

end Typings
