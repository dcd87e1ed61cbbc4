import Typings.Api.Schema
import Typings.Proofs.FileTree
import Typings.Sources.Cache

/-!
# What a Cache Holds

A cache is a directory, and its entries are the files in that directory. The file for an
endpoint has a name without directories, so whatever the endpoint is called, what is read
or written for it is an entry of the cache and no other file. That the directory may be
given by a path that cannot be followed yet makes no difference: where its entries are does
not depend on what is there.

Whoever finds an entry relies on it. A cache is sound if every entry spells a source. An
entry that does not is found again by everyone who asks for its endpoint, and helps none
of them.

## Main definitions

* `IsSourceText`: A text spells a source.
* `Cache.IsEmpty`: There are no entries.
* `Cache.Sound`: Every entry spells a source.
* `Cache.Spoiled`: An entry is found that does not.

## Theorems

* `Cache.exists_entry_of_contains`: What is kept for an endpoint is an entry.
* `Cache.writesOnly_keep`: What keeping a text writes.
* `Cache.keep_cases`: What keeping a text does.
* `Cache.Spoiled.not_sound`: A cache with a spoiled entry is not sound.
* `Cache.exists_source_of_sound`: In a sound cache what is found is a source.
-/

namespace Typings

/-- A text spells a source. -/
def IsSourceText (text : String) : Prop :=
  ∃ source, Api.parseSource text = .ok source

instance (text : String) : Decidable (IsSourceText text) :=
  match hparse : Api.parseSource text with
  | .ok source => .isTrue ⟨source, hparse⟩
  | .error _ => .isFalse fun ⟨_, hsource⟩ => nomatch hparse.symm.trans hsource

namespace Cache

/-- There are no entries in a cache. -/
def IsEmpty (c : Cache) (t : FileTree) : Prop :=
  ∀ directory name, FileTree.placeOf? c.directory = some directory →
    t.fileAt? (directory ++ [name]) = none

/-- Every entry of a cache spells a source. -/
def Sound (c : Cache) (t : FileTree) : Prop :=
  ∀ directory name content, FileTree.placeOf? c.directory = some directory →
    t.fileAt? (directory ++ [name]) = some content →
      ∃ text, String.fromUTF8? content = some text ∧ IsSourceText text

/-- For an endpoint an entry is found, and it does not spell a source. -/
def Spoiled (c : Cache) (t : FileTree) (endpoint : String) : Prop :=
  c.contains t endpoint = true ∧ ∀ text, c.read t endpoint = .ok text → ¬ IsSourceText text

variable (c : Cache) (t : FileTree) (endpoint : String)

theorem ne_slash_of_mem_cacheFileName (ch : Char) (hch : ch ∈ (cacheFileName endpoint).toList) :
    ch ≠ '/' := by
  rw [cacheFileName, String.toList_ofList, List.mem_map] at hch
  rcases hch with ⟨old, _, rfl⟩
  by_cases hold : old = '/'
  · rw [if_pos hold]
    decide
  · rwa [if_neg hold]

/-- The file for an endpoint is an entry of the cache. -/
theorem exists_entry (place : Place) (hlocate : t.locate (c.pathOf endpoint) = .ok place)
    (hget : t.get? place ≠ some .directory) :
    ∃ directory, FileTree.placeOf? c.directory = some directory ∧
      place = directory ++ [cacheFileName endpoint] :=
  FileTree.eq_concat_of_locate_join t c.directory (cacheFileName endpoint) place
    (ne_slash_of_mem_cacheFileName endpoint) hlocate hget

theorem exists_entry_of_file (place : Place) (content : ByteArray)
    (hlocate : t.locate (c.pathOf endpoint) = .ok place)
    (hfile : t.fileAt? place = some content) :
    ∃ directory, FileTree.placeOf? c.directory = some directory ∧
      place = directory ++ [cacheFileName endpoint] := by
  refine c.exists_entry t endpoint place hlocate ?_
  rw [(FileTree.fileAt?_eq_some_iff ..).mp hfile]
  exact nofun

/-- What is found for an endpoint is the entry with its name. -/
theorem exists_entry_of_contains (hcontains : c.contains t endpoint = true) :
    ∃ directory content, FileTree.placeOf? c.directory = some directory ∧
      t.locate (c.pathOf endpoint) = .ok (directory ++ [cacheFileName endpoint]) ∧
      t.fileAt? (directory ++ [cacheFileName endpoint]) = some content := by
  rcases (FileTree.isFile_iff ..).mp hcontains with ⟨place, content, hlocate, hfile⟩
  rcases c.exists_entry_of_file t endpoint place content hlocate hfile with
    ⟨directory, hdirectory, rfl⟩
  exact ⟨directory, content, hdirectory, hlocate, hfile⟩

/-- What is read for an endpoint is the text of the entry with its name. -/
theorem exists_entry_of_read (text : String) (hread : c.read t endpoint = .ok text) :
    ∃ directory, FileTree.placeOf? c.directory = some directory ∧
      t.locate (c.pathOf endpoint) = .ok (directory ++ [cacheFileName endpoint]) ∧
      t.fileAt? (directory ++ [cacheFileName endpoint]) = some text.toUTF8 := by
  rcases (FileTree.readText_eq_ok_iff ..).mp hread with ⟨place, hlocate, hfile⟩
  rcases c.exists_entry_of_file t endpoint place text.toUTF8 hlocate hfile with
    ⟨directory, hdirectory, rfl⟩
  exact ⟨directory, hdirectory, hlocate, hfile⟩

theorem contains_of_read (text : String) (hread : c.read t endpoint = .ok text) :
    c.contains t endpoint = true := by
  rcases (FileTree.readText_eq_ok_iff ..).mp hread with ⟨place, hlocate, hfile⟩
  exact (FileTree.isFile_iff ..).mpr ⟨place, _, hlocate, hfile⟩

/-- Where directories stay and the entry for an endpoint stays, the same is found for it. -/
theorem found_of_keeps (t' : FileTree) (hkeeps : t.KeepsDirectories t')
    (hentry : ∀ directory, FileTree.placeOf? c.directory = some directory →
      t'.fileAt? (directory ++ [cacheFileName endpoint]) =
        t.fileAt? (directory ++ [cacheFileName endpoint]))
    (hcontains : c.contains t endpoint = true) :
    c.contains t' endpoint = true ∧
      ∀ text, c.read t' endpoint = .ok text → c.read t endpoint = .ok text := by
  rcases c.exists_entry_of_contains t endpoint hcontains with
    ⟨directory, content, hdirectory, hlocate, hfile⟩
  have hlocate' := FileTree.locate_of_keeps hkeeps _ _ hlocate
  have hfile' := (hentry directory hdirectory).trans hfile
  refine ⟨(FileTree.isFile_iff ..).mpr ⟨_, content, hlocate', hfile'⟩, fun text hread => ?_⟩
  rcases (FileTree.readText_eq_ok_iff ..).mp hread with ⟨place, hplace, htext⟩
  rw [hlocate', Except.ok.injEq] at hplace
  rw [← hplace, hfile', ← hfile] at htext
  exact (FileTree.readText_eq_ok_iff ..).mpr ⟨_, hlocate, htext⟩

/-- The place of the entry for an endpoint. -/
def IsEntryFor (c : Cache) (endpoint : String) (place : Place) : Prop :=
  ∃ directory, FileTree.placeOf? c.directory = some directory ∧
    place = directory ++ [cacheFileName endpoint]

/-- Keeping a text writes the entry for its endpoint, and the directory of the cache with
    those above it. -/
theorem writesOnly_keep (text : String) :
    t.WritesOnly (fun place content => c.IsEntryFor endpoint place ∧ content = text.toUTF8)
      (FileTree.LeadsThrough c.directory) (c.keep t endpoint text) := by
  -- Making the directory adds directories alone, however far it gets.
  have hdirectories := FileTree.writesOnly_createDirs
    (fun place content => c.IsEntryFor endpoint place ∧ content = text.toUTF8) t c.directory
  rw [keep]
  rcases hmade : t.createDirs c.directory with ⟨made, _ | fault⟩
  · rw [hmade] at hdirectories
    simp only
    cases hwritten : made.write (c.pathOf endpoint) text.toUTF8 with
    | error fault => exact hdirectories
    | ok written =>
        rcases FileTree.exists_place_of_write made written _ _ hwritten with
          ⟨place, hlocate, hget, rfl⟩
        exact hdirectories.trans (.put_file place text.toUTF8
          ⟨c.exists_entry made endpoint place hlocate hget, rfl⟩ hget)
  · rwa [hmade] at hdirectories

/-- Keeping a text leaves directories where they are. It makes the text the entry for its
    endpoint, or it changes no file at all. -/
theorem keep_cases (text : String) :
    t.KeepsDirectories (c.keep t endpoint text) ∧
      ((c.keep t endpoint text).fileAt? = t.fileAt? ∨
        ∃ directory, FileTree.placeOf? c.directory = some directory ∧
          c.read (c.keep t endpoint text) endpoint = .ok text ∧
          ∀ place, (c.keep t endpoint text).fileAt? place =
            if place = directory ++ [cacheFileName endpoint] then some text.toUTF8
            else t.fileAt? place) := by
  refine ⟨(c.writesOnly_keep t endpoint text).keepsDirectories, ?_⟩
  have hfiles := t.fileAt?_createDirs c.directory
  rw [keep]
  rcases hmade : t.createDirs c.directory with ⟨made, _ | fault⟩
  · rw [hmade] at hfiles
    simp only
    cases hwritten : made.write (c.pathOf endpoint) text.toUTF8 with
    | error fault => exact Or.inl hfiles
    | ok written =>
        have hread := FileTree.readText_of_write made written _ text hwritten
        rcases FileTree.exists_place_of_write made written _ _ hwritten with
          ⟨place, hlocate, hget, rfl⟩
        rcases c.exists_entry made endpoint place hlocate hget with ⟨directory, hdirectory, hplace⟩
        refine Or.inr ⟨directory, hdirectory, hread, fun other => ?_⟩
        rw [FileTree.fileAt?_put_file _ _ _ _ hget, hfiles, hplace]
  · rw [hmade] at hfiles
    exact Or.inl hfiles

/-- A cache with a spoiled entry is not sound. -/
theorem Spoiled.not_sound (hspoiled : c.Spoiled t endpoint) : ¬ c.Sound t := by
  intro hsound
  rcases c.exists_entry_of_contains t endpoint hspoiled.1 with
    ⟨directory, content, hdirectory, hlocate, hfile⟩
  rcases hsound directory _ content hdirectory hfile with ⟨text, htext, hsource⟩
  rw [(FileTree.fromUTF8?_eq_some_iff content text).mp htext] at hfile
  exact hspoiled.2 text ((FileTree.readText_eq_ok_iff ..).mpr ⟨_, hlocate, hfile⟩) hsource

/-- Where there are no files, every cache is empty. -/
theorem isEmpty_empty : c.IsEmpty FileTree.empty := by
  intro directory name _
  have hplace : directory ++ [name] ≠ [] := List.append_ne_nil_of_right_ne_nil _ nofun
  rw [FileTree.fileAt?, FileTree.get?_of_ne_nil _ _ hplace]
  rfl

/-- Nothing is found in an empty cache. -/
theorem IsEmpty.contains_eq_false (hempty : c.IsEmpty t) : c.contains t endpoint = false := by
  rw [← Bool.not_eq_true]
  intro hcontains
  rcases c.exists_entry_of_contains t endpoint hcontains with
    ⟨directory, content, hdirectory, _, hfile⟩
  rw [hempty directory _ hdirectory] at hfile
  exact absurd hfile nofun

/-- Nothing is wrong with an empty cache. -/
theorem IsEmpty.sound (hempty : c.IsEmpty t) : c.Sound t := by
  intro directory name content hdirectory hfile
  rw [hempty directory name hdirectory] at hfile
  contradiction

/-- Where there are no files, every cache is sound. -/
theorem sound_empty : c.Sound FileTree.empty :=
  c.isEmpty_empty.sound

/-- What is found in a sound cache can be read and spells a source. -/
theorem exists_source_of_sound (hsound : c.Sound t) (hcontains : c.contains t endpoint = true) :
    ∃ text, c.read t endpoint = .ok text ∧ IsSourceText text := by
  rcases c.exists_entry_of_contains t endpoint hcontains with
    ⟨directory, content, hdirectory, hlocate, hfile⟩
  rcases hsound directory _ content hdirectory hfile with ⟨text, htext, hsource⟩
  rw [(FileTree.fromUTF8?_eq_some_iff content text).mp htext] at hfile
  exact ⟨text, (FileTree.readText_eq_ok_iff ..).mpr ⟨_, hlocate, hfile⟩, hsource⟩

end Cache

end Typings
