import Typings.Proofs.Sources.Cache
import Typings.Proofs.Sources.Outcome

/-!
# What Acquisitions Leave in a Cache

A text that was fetched is kept before anyone has looked at it. If it does not spell a
source, the acquisition fails, but the text stays: the next acquisition finds it in the
cache, relies on it, and fails without having asked for a better one. Nothing replaces an
entry that is there, so this goes on for ever.

Whether a cache stays sound is therefore decided by what is kept. Of several texts that one
acquisition keeps under one name the last stays, and if each of those that stay spells a
source, the cache is as sound as it was. Then whatever is found in it can be relied on, and
an acquisition to which a source is delivered for every endpoint succeeds.

## Main definitions

* `Fetcher.Delivers`: A fetcher has a source for every endpoint.
* `Acquisition.IsEntry`, `Acquisition.IsCacheDirectory`: Where an acquisition may write.
* `Acquisition.kept`: The texts that an acquisition keeps.
* `Request`: What an acquisition is asked for.
* `Cache.after`: The files after a history of acquisitions.
* `Request.LeavesSources`, `LeaveSources`: What one or several acquisitions leave in a cache
  spells sources.

## Theorems

* `Acquisition.writesOnly_acquire`: What an acquisition writes.
* `Acquisition.fileAt?_fetchAll`: What the entries of a cache are after fetching.
* `Acquisition.mem_allKept`: A text that is kept was fetched and can be found.
* `Acquisition.read_fetchAll`: The last text that was kept is what is read.
* `Acquisition.found_fetchAll`: Fetching leaves alone what can be found already.
* `Request.sound_tree_iff`: When a cache stays sound.
* `Request.exists_sources_of_sound`: A sound cache makes no acquisition fail.
* `not_forall_sound_tree`: A failed acquisition can spoil a cache.
* `Cache.sound_after_iff`: When a cache stays sound, and of use, over a history of
  acquisitions.
-/

namespace Typings

/-- A fetcher has the text of a source for every endpoint, whatever the files are. -/
def Fetcher.Delivers (fetch : Fetcher) (endpoints : List String) : Prop :=
  ∀ e ∈ endpoints, ∀ t, ∃ text, fetch t e = some text ∧ IsSourceText text

namespace Acquisition

/-- The place of an entry for one of some endpoints, if there is a cache. -/
def IsEntry (cache : Option Cache) (endpoints : List String) (place : Place) : Prop :=
  ∃ c ∈ cache, ∃ e ∈ endpoints, c.IsEntryFor e place

/-- The place of the directory of a cache, if there is one, or of one above it. -/
def IsCacheDirectory (cache : Option Cache) (place : Place) : Prop :=
  ∃ c ∈ cache, FileTree.LeadsThrough c.directory place

/-- What fetching an endpoint adds to a cache, under the name of its file: the text, if it
    can be read there afterwards. -/
def newlyKept (fetch : Fetcher) (c : Cache) (t : FileTree) (endpoint : String) :
    List (String × String) :=
  match fetch t endpoint with
  | none => []
  | some text =>
    if c.read (c.keep t endpoint text) endpoint = .ok text then [(cacheFileName endpoint, text)]
    else []

/-- What fetching endpoints one after the other adds to a cache. -/
def allKept (fetch : Fetcher) (c : Cache) : FileTree → List String → List (String × String)
  | _, [] => []
  | t, endpoint :: rest =>
    newlyKept fetch c t endpoint ++ allKept fetch c (fetchOne fetch (some c) t endpoint).1 rest

/-- The texts that an acquisition keeps, in order. -/
def kept (endpoints : List String) (fetch : Fetcher) (c : Cache) (t : FileTree) :
    List (String × String) :=
  match readAllKept (some c) t endpoints with
  | .error _ => []
  | .ok _ => allKept fetch c t (toFetch (some c) t endpoints)

section Fetching

variable (fetch : Fetcher) (c : Cache) (t : FileTree)

/-- Fetching writes entries for endpoints, if there is a cache. -/
theorem writesOnly_fetchAll (cache : Option Cache) (endpoints : List String) :
    t.WritesOnly (fun place _ => IsEntry cache endpoints place) (IsCacheDirectory cache)
      (fetchAll fetch cache t endpoints).1 := by
  induction endpoints generalizing t with
  | nil => exact .refl
  | cons e rest ih =>
      have hone : t.WritesOnly (fun place _ => IsEntry cache (e :: rest) place)
          (IsCacheDirectory cache) (fetchOne fetch cache t e).1 := by
        rw [fetchOne]
        cases fetch t e with
        | none => exact .refl
        | some text =>
            cases cache with
            | none => exact .refl
            | some c =>
                exact (c.writesOnly_keep t e text).mono
                  (fun place _ h => ⟨c, rfl, e, List.mem_cons_self, h.1⟩)
                  fun place h => ⟨c, rfl, h⟩
      refine hone.trans ((ih (fetchOne fetch cache t e).1).mono (fun place _ h => ?_) fun _ h => h)
      rcases h with ⟨c, hc, e', he', hentry⟩
      exact ⟨c, hc, e', List.mem_cons_of_mem _ he', hentry⟩

theorem keepsDirectories_fetchAll (endpoints : List String) :
    t.KeepsDirectories (fetchAll fetch (some c) t endpoints).1 :=
  (writesOnly_fetchAll fetch t (some c) endpoints).keepsDirectories

theorem mem_newlyKept (endpoint name text : String)
    (hmem : (name, text) ∈ newlyKept fetch c t endpoint) :
    name = cacheFileName endpoint ∧ fetch t endpoint = some text ∧
      c.read (fetchOne fetch (some c) t endpoint).1 endpoint = .ok text := by
  rw [newlyKept] at hmem
  rw [fetchOne]
  cases hfetch : fetch t endpoint with
  | none =>
      rw [hfetch] at hmem
      contradiction
  | some fetched =>
      rw [hfetch] at hmem
      simp only at hmem ⊢
      by_cases hread : c.read (c.keep t endpoint fetched) endpoint = .ok fetched
      · rw [if_pos hread, List.mem_singleton, Prod.mk.injEq] at hmem
        rcases hmem with ⟨rfl, rfl⟩
        exact ⟨rfl, rfl, hread⟩
      · rw [if_neg hread] at hmem
        contradiction

/-- An entry of a cache changes only by what is kept. -/
theorem fileAt?_fetchOne (endpoint name : String) (directory : Place)
    (hdirectory : FileTree.placeOf? c.directory = some directory) :
    (fetchOne fetch (some c) t endpoint).1.fileAt? (directory ++ [name]) =
      ((lastOf? (newlyKept fetch c t endpoint) name).map String.toUTF8).or
        (t.fileAt? (directory ++ [name])) := by
  rw [fetchOne, newlyKept]
  cases hfetch : fetch t endpoint with
  | none => rfl
  | some text =>
      simp only
      rcases (c.keep_cases t endpoint text).2 with hsame | ⟨directory', hdirectory', hread, hfiles⟩
      · rw [hsame]
        by_cases hread : c.read (c.keep t endpoint text) endpoint = .ok text
        · rw [if_pos hread, lastOf?_singleton]
          by_cases hname : name = cacheFileName endpoint
          · -- The text was there before.
            rcases c.exists_entry_of_read _ endpoint text hread with
              ⟨directory', hdirectory', _, hfile⟩
            rw [hdirectory, Option.some_inj] at hdirectory'
            rw [hsame, ← hdirectory', ← hname] at hfile
            rw [if_pos hname, hfile]
            rfl
          · rw [if_neg hname]
            rfl
        · rw [if_neg hread]
          rfl
      · rw [hdirectory, Option.some_inj] at hdirectory'
        rw [if_pos hread, lastOf?_singleton, hfiles, ← hdirectory']
        by_cases hname : name = cacheFileName endpoint
        · rw [if_pos hname, if_pos (by rw [hname])]
          rfl
        · have hplace : directory ++ [name] ≠ directory ++ [cacheFileName endpoint] := fun h =>
            hname (List.singleton_inj.mp (List.append_cancel_left h))
          rw [if_neg hname, if_neg hplace]
          rfl

/-- What the entries of a cache are after endpoints were fetched: the last text that was
    kept under their name, or what they were before. -/
theorem fileAt?_fetchAll (endpoints : List String) (name : String) (directory : Place)
    (hdirectory : FileTree.placeOf? c.directory = some directory) :
    (fetchAll fetch (some c) t endpoints).1.fileAt? (directory ++ [name]) =
      ((lastOf? (allKept fetch c t endpoints) name).map String.toUTF8).or
        (t.fileAt? (directory ++ [name])) := by
  induction endpoints generalizing t with
  | nil => rfl
  | cons e rest ih =>
      -- What is kept later counts before what is kept now, and that before what was there.
      have hrest := ih (fetchOne fetch (some c) t e).1
      rw [fileAt?_fetchOne fetch c t e name directory hdirectory] at hrest
      refine hrest.trans ?_
      rw [allKept, lastOf?_append]
      cases lastOf? (allKept fetch c (fetchOne fetch (some c) t e).1 rest) name <;> rfl

/-- A text that is kept was fetched, and its entry can be found in the end. -/
theorem mem_allKept (endpoints : List String) (name text : String)
    (hmem : (name, text) ∈ allKept fetch c t endpoints) :
    ∃ e ∈ endpoints, name = cacheFileName e ∧ (∃ t', fetch t' e = some text) ∧
      ∃ directory, FileTree.placeOf? c.directory = some directory ∧
        (fetchAll fetch (some c) t endpoints).1.locate (c.pathOf e) =
          .ok (directory ++ [name]) := by
  induction endpoints generalizing t with
  | nil => contradiction
  | cons e rest ih =>
      rcases List.mem_append.mp hmem with hnew | hlater
      · rcases mem_newlyKept fetch c t e name text hnew with ⟨rfl, hfetch, hread⟩
        rcases c.exists_entry_of_read _ e text hread with ⟨directory, hdirectory, hlocate, _⟩
        -- Fetching the others does not take the directory away.
        exact ⟨e, List.mem_cons_self, rfl, ⟨t, hfetch⟩, directory, hdirectory,
          FileTree.locate_of_keeps (keepsDirectories_fetchAll fetch c _ rest) _ _ hlocate⟩
      · rcases ih (fetchOne fetch (some c) t e).1 hlater with ⟨e', he', hname, hfetch, hfound⟩
        exact ⟨e', List.mem_cons_of_mem _ he', hname, hfetch, hfound⟩

/-- The last text that was kept under the name for an endpoint is what is read for it. -/
theorem read_fetchAll (endpoints : List String) (endpoint text : String)
    (hlast : lastOf? (allKept fetch c t endpoints) (cacheFileName endpoint) = some text) :
    c.read (fetchAll fetch (some c) t endpoints).1 endpoint = .ok text := by
  rcases mem_allKept fetch c t endpoints _ text (mem_of_lastOf? _ _ _ hlast) with
    ⟨e, _, hname, _, directory, hdirectory, hlocate⟩
  -- Nothing has replaced the last text, and the path to it has stayed.
  have hfile := fileAt?_fetchAll fetch c t endpoints (cacheFileName endpoint) directory hdirectory
  rw [hlast, Option.map_some, Option.some_or] at hfile
  rw [Cache.pathOf, ← hname] at hlocate
  exact (FileTree.readText_eq_ok_iff ..).mpr ⟨_, hlocate, hfile⟩

/-- What can be found for an endpoint already, fetching others leaves alone. -/
theorem found_fetchAll (endpoints : List String) (endpoint : String)
    (hcontains : c.contains t endpoint = true)
    (hothers : ∀ e ∈ endpoints, c.contains t e = false) :
    c.contains (fetchAll fetch (some c) t endpoints).1 endpoint = true ∧
      ∀ text, c.read (fetchAll fetch (some c) t endpoints).1 endpoint = .ok text →
        c.read t endpoint = .ok text := by
  refine c.found_of_keeps t endpoint _ (keepsDirectories_fetchAll fetch c t endpoints)
    (fun directory hdirectory => ?_) hcontains
  -- An endpoint with the same file would have been found too.
  have hnone : lastOf? (allKept fetch c t endpoints) (cacheFileName endpoint) = none := by
    rw [lastOf?_eq_none_iff]
    intro hmem
    rcases List.mem_map.mp hmem with ⟨⟨name, text⟩, hkept, rfl⟩
    rcases mem_allKept fetch c t endpoints _ text hkept with ⟨e, he, hname, _⟩
    have hsame : c.contains t e = c.contains t endpoint := by
      rw [Cache.contains, Cache.contains, Cache.pathOf, Cache.pathOf, hname]
    rw [hothers e he, hcontains] at hsame
    exact absurd hsame Bool.false_ne_true
  rw [fileAt?_fetchAll fetch c t endpoints _ directory hdirectory, hnone]
  rfl

end Fetching

/-- Whether or not it fails, an acquisition writes entries for its endpoints and nothing
    else. -/
theorem writesOnly_acquire (endpoints : List String) (fetch : Fetcher) (cache : Option Cache)
    (t : FileTree) :
    t.WritesOnly (fun place _ => IsEntry cache endpoints place) (IsCacheDirectory cache)
      (acquire endpoints fetch cache t).tree := by
  rw [acquire]
  cases readAllKept cache t endpoints with
  | error e => exact .refl
  | ok found =>
      refine (writesOnly_fetchAll fetch t cache _).mono (fun place _ h => ?_) fun _ h => h
      rcases h with ⟨c, hc, e, he, hentry⟩
      rw [toFetch_eq] at he
      exact ⟨c, hc, e, ((mem_missing_iff endpoints cache t e).mp he).1, hentry⟩

end Acquisition

/-- What an acquisition is asked for: the endpoints, and how their texts are had. -/
structure Request where
  endpoints : List String
  fetch : Fetcher

namespace Request

/-- The files that an acquisition leaves, whether or not it fails. -/
def tree (q : Request) (c : Cache) (t : FileTree) : FileTree :=
  (acquire q.endpoints q.fetch (some c) t).tree

/-- The sources that an acquisition leads to, or the reason why it does not. -/
def result (q : Request) (c : Cache) (t : FileTree) : Except AcquisitionError (List Api.Source) :=
  (acquire q.endpoints q.fetch (some c) t).result

/-- Of the texts that an acquisition keeps, the last one under each name spells a source. -/
def LeavesSources (q : Request) (c : Cache) (t : FileTree) : Prop :=
  ∀ name text, lastOf? (Acquisition.kept q.endpoints q.fetch c t) name = some text →
    IsSourceText text

variable (q : Request) (c : Cache) (t : FileTree)

/-- An acquisition touches nothing, or it fetches what cannot be found. -/
theorem tree_cases :
    (q.tree c t = t ∧ Acquisition.kept q.endpoints q.fetch c t = []) ∨
      ∃ endpoints, (∀ e ∈ endpoints, c.contains t e = false) ∧
        q.tree c t = (Acquisition.fetchAll q.fetch (some c) t endpoints).1 ∧
        Acquisition.kept q.endpoints q.fetch c t = Acquisition.allKept q.fetch c t endpoints := by
  rw [tree, acquire, Acquisition.kept]
  cases Acquisition.readAllKept (some c) t q.endpoints with
  | error e => exact Or.inl ⟨rfl, rfl⟩
  | ok found =>
      refine Or.inr ⟨_, fun e he => ?_, rfl, rfl⟩
      rw [Acquisition.toFetch_eq] at he
      rw [← Acquisition.isKept_some]
      exact ((Acquisition.mem_missing_iff ..).mp he).2

/-- An acquisition that leaves sources leaves a sound cache sound. -/
theorem sound_tree (hsound : c.Sound t) (hleaves : q.LeavesSources c t) : c.Sound (q.tree c t) := by
  rcases q.tree_cases c t with ⟨htree, _⟩ | ⟨endpoints, _, htree, hkept⟩
  · rwa [htree]
  · intro directory name content hdirectory hfile
    -- An entry is the last text that was kept under its name, or it was there before.
    rw [htree, Acquisition.fileAt?_fetchAll q.fetch c t endpoints name directory hdirectory,
      ← hkept] at hfile
    cases hlast : lastOf? (Acquisition.kept q.endpoints q.fetch c t) name with
    | none =>
        rw [hlast] at hfile
        exact hsound directory name content hdirectory hfile
    | some text =>
        rw [hlast, Option.map_some, Option.some_or, Option.some_inj] at hfile
        exact ⟨text, (FileTree.fromUTF8?_eq_some_iff ..).mpr hfile.symm, hleaves name text hlast⟩

/-- An acquisition that does not leave sources spoils an entry. -/
theorem exists_spoiled (hleaves : ¬ q.LeavesSources c t) : ∃ e, c.Spoiled (q.tree c t) e := by
  rw [LeavesSources] at hleaves
  push Not at hleaves
  rcases hleaves with ⟨name, text, hlast, hsource⟩
  rcases q.tree_cases c t with ⟨_, hkept⟩ | ⟨endpoints, _, htree, hkept⟩
  · rw [hkept] at hlast
    contradiction
  · rw [hkept] at hlast
    rcases Acquisition.mem_allKept q.fetch c t endpoints name text (mem_of_lastOf? _ _ _ hlast) with
      ⟨e, _, rfl, _⟩
    have hread : c.read (q.tree c t) e = .ok text :=
      htree ▸ Acquisition.read_fetchAll q.fetch c t endpoints e text hlast
    refine ⟨e, c.contains_of_read _ e text hread, fun found hfound => ?_⟩
    rw [hread, Except.ok.injEq] at hfound
    rwa [← hfound]

/-- No acquisition replaces a spoiled entry. -/
theorem spoiled_tree (endpoint : String) (hspoiled : c.Spoiled t endpoint) :
    c.Spoiled (q.tree c t) endpoint := by
  rcases q.tree_cases c t with ⟨htree, _⟩ | ⟨endpoints, hothers, htree, _⟩
  · rwa [htree]
  · rw [htree]
    rcases Acquisition.found_fetchAll q.fetch c t endpoints endpoint hspoiled.1 hothers with
      ⟨hcontains, hread⟩
    exact ⟨hcontains, fun text htext => hspoiled.2 text (hread text htext)⟩

/-- A sound cache stays sound exactly if sources are left in it. -/
theorem sound_tree_iff (hsound : c.Sound t) : c.Sound (q.tree c t) ↔ q.LeavesSources c t := by
  refine ⟨fun hsound' => ?_, q.sound_tree c t hsound⟩
  -- A text that does not spell a source is found under its endpoint.
  by_contra hleaves
  rcases q.exists_spoiled c t hleaves with ⟨e, hspoiled⟩
  exact hspoiled.not_sound c _ e hsound'

/-- With a sound cache, an acquisition to which sources are delivered succeeds. -/
theorem exists_sources_of_sound (hsound : c.Sound t) (hdelivers : q.fetch.Delivers q.endpoints) :
    ∃ sources, q.result c t = .ok sources := by
  refine (Acquisition.exists_result_acquire_iff ..).mpr fun e he => ?_
  cases hcontains : c.contains t e with
  | true =>
      rcases c.exists_source_of_sound t e hsound hcontains with ⟨text, hread, source, hsource⟩
      exact ⟨source, (Acquisition.sourceOf_eq_ok_iff_of_contains _ _ t c e hcontains source).mpr
        ⟨text, hread, hsource⟩⟩
  | false =>
      have hkept : Acquisition.isKept (some c) t e = false :=
        (Acquisition.isKept_some c t e).trans hcontains
      rcases Acquisition.exists_answerTo_eq q.fetch (some c) t _ e
        ((Acquisition.mem_missing_iff q.endpoints (some c) t e).mpr ⟨he, hkept⟩) with ⟨t', hanswer⟩
      rcases hdelivers e he t' with ⟨text, hfetch, source, hsource⟩
      refine ⟨source, ?_⟩
      rw [Acquisition.sourceOf_of_missing _ _ _ t e hkept, hanswer, hfetch]
      exact (Acquisition.spelled_eq_ok_iff ..).mpr hsource

/-- An acquisition that finds a spoiled entry fails. -/
theorem not_exists_sources_of_spoiled (e : String) (he : e ∈ q.endpoints)
    (hspoiled : c.Spoiled t e) : ¬ ∃ sources, q.result c t = .ok sources := by
  intro hok
  rcases (Acquisition.exists_result_acquire_iff ..).mp hok e he with ⟨source, hsource⟩
  rcases (Acquisition.sourceOf_eq_ok_iff_of_contains _ _ t c e hspoiled.1 source).mp hsource with
    ⟨text, hread, hparse⟩
  exact hspoiled.2 text hread ⟨source, hparse⟩

/-- A fetcher that comes back with sources or with nothing leaves sources. -/
theorem leavesSources_of_fetch
    (hfetch : ∀ t e text, q.fetch t e = some text → IsSourceText text) : q.LeavesSources c t := by
  intro name text hlast
  rcases q.tree_cases c t with ⟨_, hkept⟩ | ⟨endpoints, _, _, hkept⟩
  · rw [hkept] at hlast
    contradiction
  · rw [hkept] at hlast
    rcases Acquisition.mem_allKept q.fetch c t endpoints name text (mem_of_lastOf? _ _ _ hlast) with
      ⟨e, _, _, ⟨t', hfetched⟩, _⟩
    exact hfetch t' e text hfetched

end Request

/-- A text that does not spell a source. -/
def brokenText : String := "\x7b not json"

/-- A source without anything in it. -/
def blankText : String := "\x7b\x7d"

theorem isSourceText_blankText : IsSourceText blankText := by decide +kernel

theorem not_isSourceText_brokenText : ¬ IsSourceText brokenText := by decide +kernel

/-- An acquisition to which a broken text is delivered. -/
def brokenRequest : Request where
  endpoints := ["api.json"]
  fetch := fun _ _ => some brokenText

/-- The broken text is kept. -/
theorem spoiled_brokenRequest :
    (Cache.mk "cache").Spoiled (brokenRequest.tree ⟨"cache"⟩ FileTree.empty) "api.json" := by
  have hread : (Cache.mk "cache").read (brokenRequest.tree ⟨"cache"⟩ FileTree.empty) "api.json" =
      .ok brokenText := by decide +kernel
  refine ⟨Cache.contains_of_read _ _ _ _ hread, fun text htext => ?_⟩
  rw [hread, Except.ok.injEq] at htext
  rw [← htext]
  exact not_isSourceText_brokenText

/-- An acquisition can spoil a cache in which nothing was wrong. It can also keep another one
    from succeeding, to which a source is delivered for every endpoint. -/
theorem not_forall_sound_tree :
    (¬ ∀ (c : Cache) (t : FileTree) (q : Request), c.Sound t → c.Sound (q.tree c t)) ∧
      ¬ ∀ (c : Cache) (t : FileTree) (q later : Request), c.Sound t →
        later.fetch.Delivers later.endpoints →
          ∃ sources, later.result c (q.tree c t) = .ok sources := by
  constructor
  · intro hall
    exact spoiled_brokenRequest.not_sound _ _ _
      (hall ⟨"cache"⟩ FileTree.empty brokenRequest (Cache.sound_empty _))
  · intro hall
    refine Request.not_exists_sources_of_spoiled ⟨["api.json"], fun _ _ => some blankText⟩ _ _ _
      List.mem_cons_self spoiled_brokenRequest
      (hall ⟨"cache"⟩ FileTree.empty brokenRequest _ (Cache.sound_empty _) ?_)
    exact fun _ _ _ => ⟨blankText, rfl, isSourceText_blankText⟩

/-- The files after a history of acquisitions. -/
def Cache.after (c : Cache) (t : FileTree) (history : List Request) : FileTree :=
  history.foldl (fun t q => q.tree c t) t

/-- What each acquisition of a history leaves in a cache spells sources. -/
def LeaveSources (c : Cache) : FileTree → List Request → Prop
  | _, [] => True
  | t, q :: later => q.LeavesSources c t ∧ LeaveSources c (q.tree c t) later

section Histories

variable (c : Cache) (t : FileTree) (history : List Request)

theorem Cache.spoiled_after (endpoint : String) (hspoiled : c.Spoiled t endpoint) :
    c.Spoiled (c.after t history) endpoint := by
  induction history generalizing t with
  | nil => exact hspoiled
  | cons q later ih => exact ih (q.tree c t) (q.spoiled_tree c t endpoint hspoiled)

/-- Where all acquisitions leave sources, the cache is sound in the end. -/
theorem Cache.sound_after (hsound : c.Sound t) (hleave : LeaveSources c t history) :
    c.Sound (c.after t history) := by
  induction history generalizing t with
  | nil => exact hsound
  | cons q later ih => exact ih (q.tree c t) (q.sound_tree c t hsound hleave.1) hleave.2

/-- Where one of them does not, an entry is spoiled in the end. -/
theorem Cache.exists_spoiled_after (hleave : ¬ LeaveSources c t history) :
    ∃ e, c.Spoiled (c.after t history) e := by
  induction history generalizing t with
  | nil => exact absurd trivial hleave
  | cons q later ih =>
      by_cases hfirst : q.LeavesSources c t
      · exact ih (q.tree c t) fun hlater => hleave ⟨hfirst, hlater⟩
      · -- What the first acquisition has spoiled, the later ones find and leave as it is.
        rcases q.exists_spoiled c t hfirst with ⟨e, hspoiled⟩
        exact ⟨e, c.spoiled_after (q.tree c t) later e hspoiled⟩

/-- What is left of a sound cache after an acquisition, and after a history of them. It is
    sound exactly if what they left in it spells sources, as it does if whatever is fetched
    does. Then, but only then, every acquisition to which sources are delivered succeeds
    from there on. -/
theorem Cache.sound_after_iff (hsound : c.Sound t) :
    (∀ q : Request, c.Sound (q.tree c t) ↔ q.LeavesSources c t) ∧
      (∀ q : Request, (∀ t e text, q.fetch t e = some text → IsSourceText text) →
        q.LeavesSources c t) ∧
      (c.Sound (c.after t history) ↔ LeaveSources c t history) ∧
      ((∀ q : Request, q.fetch.Delivers q.endpoints →
          ∃ sources, q.result c (c.after t history) = .ok sources) ↔
        LeaveSources c t history) := by
  refine ⟨fun q => q.sound_tree_iff c t hsound, fun q => q.leavesSources_of_fetch c t,
    ⟨fun hafter => ?_, c.sound_after t history hsound⟩, fun hlater => ?_, fun hleave => ?_⟩
  · by_contra hleave
    rcases c.exists_spoiled_after t history hleave with ⟨e, hspoiled⟩
    exact hspoiled.not_sound c _ e hafter
  · by_contra hleave
    rcases c.exists_spoiled_after t history hleave with ⟨e, hspoiled⟩
    -- Whoever asks for the spoiled entry gets nothing, although there is a source for it.
    exact Request.not_exists_sources_of_spoiled ⟨[e], fun _ _ => some blankText⟩ c _ e
      List.mem_cons_self hspoiled (hlater _ fun _ _ _ => ⟨_, rfl, isSourceText_blankText⟩)
  · intro q hdelivers
    exact q.exists_sources_of_sound c _ (c.sound_after t history hsound hleave) hdelivers

end Histories

/-- Two endpoints that share a file. The first has no source, the second has one. -/
def sharingRequest : Request where
  endpoints := ["sap/m.json", "sap.m.json"]
  fetch := fun _ e => some (if e = "sap/m.json" then brokenText else blankText)

/-- It fails, but what it leaves is the source. -/
theorem leavesSources_sharingRequest :
    sharingRequest.LeavesSources ⟨"cache"⟩ FileTree.empty := by
  have hkept : Acquisition.kept sharingRequest.endpoints sharingRequest.fetch ⟨"cache"⟩
      FileTree.empty = [("sap.m.json", brokenText)] ++ [("sap.m.json", blankText)] := by
    decide +kernel
  intro name text hlast
  rw [hkept, lastOf?_append, lastOf?_singleton, lastOf?_singleton] at hlast
  by_cases hname : name = "sap.m.json"
  · rw [if_pos hname, Option.some_or, Option.some_inj] at hlast
    rw [← hlast]
    exact isSourceText_blankText
  · rw [if_neg hname, if_neg hname] at hlast
    exact absurd hlast nofun

/-- First nothing can be fetched. Then a broken text is kept, which makes the acquisition
    fail, and a source takes its place under the same name. -/
def unluckyHistory : List Request :=
  [⟨["sap/m.json"], fun _ _ => none⟩, sharingRequest]

/-- After both failures the cache is as good as new. -/
theorem sound_after_unluckyHistory :
    (Cache.mk "cache").Sound FileTree.empty ∧
      LeaveSources ⟨"cache"⟩ FileTree.empty unluckyHistory ∧
      (Cache.mk "cache").Sound ((Cache.mk "cache").after FileTree.empty unluckyHistory) ∧
      ∀ q : Request, q.fetch.Delivers q.endpoints → ∃ sources,
        q.result ⟨"cache"⟩ ((Cache.mk "cache").after FileTree.empty unluckyHistory) =
          .ok sources := by
  have hsound := (Cache.mk "cache").sound_empty
  have hleave : LeaveSources ⟨"cache"⟩ FileTree.empty unluckyHistory :=
    ⟨Request.leavesSources_of_fetch _ _ _ nofun, leavesSources_sharingRequest, trivial⟩
  have hafter := (Cache.mk "cache").sound_after_iff FileTree.empty unluckyHistory hsound
  exact ⟨hsound, hleave, hafter.2.2.1.mpr hleave, hafter.2.2.2.mpr hleave⟩

end Typings
