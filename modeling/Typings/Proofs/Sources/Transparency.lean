import Typings.Proofs.Sources.Acquire

/-!
# When a Cache Goes Unnoticed

A cache is there to save fetches, and nothing else should come of it. While it is empty,
nothing does: every text is fetched, and sources are made of what was fetched, not of what
was kept. The next acquisition asks the cache instead. What it gets for an endpoint is the
file with the name that is made of the endpoint, and in that name slashes and dots are the
same. Where several endpoints make one name, the text of the last of them is in the file,
and the others get its source for their own.

So the cache goes unnoticed exactly if endpoints that share a file have the same source.
From the second acquisition on nothing is fetched and nothing is kept, so whatever the
second one comes to, all later ones come to as well.

Acquisitions can be compared only if the fetcher does not change its mind between them, and
nothing can be expected of a cache that cannot be written. Both are assumed here.

## Main definitions

* `Fetcher.Steady`: A fetcher gives the same source text for an endpoint at any time.
* `Cache.CanKeep`: A text can be kept.
* `Request.KeepsAll`: All texts that an acquisition fetches can be kept.
* `SharedFilesAgree`: Endpoints that share a file have the same source.

## Theorems

* `Acquisition.allKept_eq_map`: Every text that can be kept is kept.
* `Request.exists_read_tree`: What is in the cache for an endpoint after an acquisition.
* `Request.result_tree_iff`: When the next acquisition comes to the same.
* `Cache.unnoticed_iff`: When a cache goes unnoticed.
* `not_forall_unnoticed`: A cache does not always go unnoticed.
-/

namespace Typings

/-- Whatever the files are, a fetcher answers with the same text for an endpoint, and the
    text spells a source. -/
def Fetcher.Steady (fetch : Fetcher) (endpoints : List String) (text : String → String) : Prop :=
  ∀ e ∈ endpoints, (∀ t, fetch t e = some (text e)) ∧ IsSourceText (text e)

/-- Endpoints that share a file have the same source. -/
def SharedFilesAgree (endpoints : List String) (text : String → String) : Prop :=
  ∀ e ∈ endpoints, ∀ e' ∈ endpoints, cacheFileName e = cacheFileName e' →
    Api.parseSource (text e) = Api.parseSource (text e')

/-- Endpoints agree if no two of them share a file. -/
theorem sharedFilesAgree_of_inj (endpoints : List String) (text : String → String)
    (hinj : ∀ e ∈ endpoints, ∀ e' ∈ endpoints, cacheFileName e = cacheFileName e' → e = e') :
    SharedFilesAgree endpoints text := by
  intro e he e' he' hname
  rw [hinj e he e' he' hname]

namespace Cache

/-- A text can be kept for an endpoint: the directory is there or can be made, and then the
    file can be written. -/
def CanKeep (c : Cache) (t : FileTree) (endpoint text : String) : Prop :=
  (t.createDirs c.directory).2 = none ∧
    ((t.createDirs c.directory).1.write (c.pathOf endpoint) text.toUTF8).isOk = true

instance (c : Cache) (t : FileTree) (endpoint text : String) :
    Decidable (c.CanKeep t endpoint text) :=
  inferInstanceAs (Decidable (_ ∧ _))

/-- A text that can be kept is read from then on. -/
theorem read_keep (c : Cache) (t : FileTree) (endpoint text : String)
    (hkeep : c.CanKeep t endpoint text) :
    c.read (c.keep t endpoint text) endpoint = .ok text := by
  rcases hkeep with ⟨hfault, hok⟩
  rcases hmade : t.createDirs c.directory with ⟨made, _ | fault⟩
  all_goals rw [hmade] at hfault hok
  · rw [keep, hmade]
    simp only at hok ⊢
    cases hwritten : made.write (c.pathOf endpoint) text.toUTF8 with
    | error fault =>
        rw [hwritten] at hok
        contradiction
    | ok written => exact FileTree.readText_of_write made written _ text hwritten
  · exact absurd hfault (Option.some_ne_none fault)

end Cache

namespace Acquisition

/-- While endpoints are fetched one after the other, every text can be kept. -/
def KeepsAll (fetch : Fetcher) (c : Cache) : FileTree → List String → Prop
  | _, [] => True
  | t, endpoint :: rest =>
    (∀ text ∈ fetch t endpoint, c.CanKeep t endpoint text) ∧
      KeepsAll fetch c (fetchOne fetch (some c) t endpoint).1 rest

instance decidableKeepsAll (fetch : Fetcher) (c : Cache) :
    (t : FileTree) → (fetched : List String) → Decidable (KeepsAll fetch c t fetched)
  | _, [] => inferInstanceAs (Decidable True)
  | t, endpoint :: rest =>
    have := decidableKeepsAll fetch c (fetchOne fetch (some c) t endpoint).1 rest
    inferInstanceAs (Decidable (_ ∧ _))

section Fetching

variable (fetch : Fetcher) (c : Cache) (text : String → String)

/-- Every text that can be kept is kept. -/
theorem allKept_eq_map (t : FileTree) (fetched : List String)
    (hsteady : ∀ e ∈ fetched, ∀ t, fetch t e = some (text e))
    (hkeeps : KeepsAll fetch c t fetched) :
    allKept fetch c t fetched = fetched.map fun e => (cacheFileName e, text e) := by
  induction fetched generalizing t with
  | nil => rfl
  | cons e rest ih =>
      have hfetch := hsteady e List.mem_cons_self t
      have hnew : newlyKept fetch c t e = [(cacheFileName e, text e)] := by
        rw [newlyKept, hfetch]
        exact if_pos (c.read_keep t e (text e) (hkeeps.1 _ hfetch))
      rw [allKept, hnew, ih _ (fun e he => hsteady e (List.mem_cons_of_mem _ he)) hkeeps.2]
      rfl

/-- What is read for an endpoint after all could be kept is the text of an endpoint with the
    same file. -/
theorem exists_read_fetchAll (t : FileTree) (fetched : List String)
    (hsteady : ∀ e ∈ fetched, ∀ t, fetch t e = some (text e))
    (hkeeps : KeepsAll fetch c t fetched) (e : String) (he : e ∈ fetched) :
    ∃ e' ∈ fetched, cacheFileName e = cacheFileName e' ∧
      c.read (fetchAll fetch (some c) t fetched).1 e = .ok (text e') := by
  have hkept := allKept_eq_map fetch c text t fetched hsteady hkeeps
  cases hlast : lastOf? (allKept fetch c t fetched) (cacheFileName e) with
  | none =>
      -- At least the text of the endpoint itself was kept under this name.
      refine absurd ?_ ((lastOf?_eq_none_iff ..).mp hlast)
      rw [hkept, List.map_map]
      exact List.mem_map_of_mem he
  | some last =>
      -- Whatever came last is the text of some endpoint with this name.
      have hmem := mem_of_lastOf? _ _ _ hlast
      rw [hkept] at hmem
      rcases List.mem_map.mp hmem with ⟨e', he', hpair⟩
      rw [Prod.mk.injEq] at hpair
      rw [← hpair.2] at hlast
      exact ⟨e', he', hpair.1.symm, read_fetchAll fetch c t fetched e (text e') hlast⟩

/-- Where nothing is kept for an endpoint yet, its source is that of the text that is always
    fetched for it. -/
theorem sourceOf_of_steady (endpoints : List String) (cache : Option Cache) (t : FileTree)
    (hsteady : fetch.Steady endpoints text) (e : String) (he : e ∈ endpoints)
    (hkept : isKept cache t e = false) :
    sourceOf endpoints fetch cache t e = spelled e (text e) := by
  rcases exists_answerTo_eq fetch cache t _ e
    ((mem_missing_iff endpoints cache t e).mpr ⟨he, hkept⟩) with ⟨t', hanswer⟩
  rw [sourceOf_of_missing _ _ _ t e hkept, hanswer, (hsteady e he).1 t']

end Fetching

end Acquisition

namespace Request

/-- All texts that an acquisition fetches can be kept. -/
def KeepsAll (q : Request) (c : Cache) (t : FileTree) : Prop :=
  Acquisition.KeepsAll q.fetch c t (Acquisition.missing q.endpoints (some c) t)

instance (q : Request) (c : Cache) (t : FileTree) : Decidable (q.KeepsAll c t) :=
  Acquisition.decidableKeepsAll _ _ _ _

variable (q : Request) (c : Cache) (t : FileTree) (text : String → String)

/-- After an acquisition that could keep everything, there is a file for every endpoint. It
    has the text of an endpoint with the same file. -/
theorem exists_read_tree (hempty : c.IsEmpty t) (hsteady : q.fetch.Steady q.endpoints text)
    (hkeeps : q.KeepsAll c t) (e : String) (he : e ∈ q.endpoints) :
    ∃ e' ∈ q.endpoints, cacheFileName e = cacheFileName e' ∧
      c.read (q.tree c t) e = .ok (text e') := by
  -- Nothing is found, so nothing is read and everything is fetched.
  have hmissing : ∀ e, e ∈ Acquisition.missing q.endpoints (some c) t ↔ e ∈ q.endpoints := by
    intro e
    rw [Acquisition.mem_missing_iff, Acquisition.isKept_some, hempty.contains_eq_false c t e,
      eq_self, and_true]
  have hnone : Acquisition.readAllKept (some c) t q.endpoints = .ok [] := by
    have hfilter : q.endpoints.filter (c.contains t) = [] :=
      List.filter_eq_nil_iff.mpr fun e _ => by
        rw [hempty.contains_eq_false c t e]
        exact Bool.false_ne_true
    rw [Acquisition.readAllKept, hfilter]
    rfl
  rcases Acquisition.exists_read_fetchAll q.fetch c text t _
    (fun e he => (hsteady e ((hmissing e).mp he)).1) hkeeps e ((hmissing e).mpr he) with
    ⟨e', he', hname, hread⟩
  refine ⟨e', (hmissing e').mp he', hname, ?_⟩
  rw [tree, acquire, hnone, Acquisition.toFetch_eq]
  exact hread

/-- After it, the next acquisition has nothing to fetch. -/
theorem acquire_tree (hempty : c.IsEmpty t) (hsteady : q.fetch.Steady q.endpoints text)
    (hkeeps : q.KeepsAll c t) :
    (acquire q.endpoints q.fetch (some c) (q.tree c t)).fetched = [] ∧
      q.tree c (q.tree c t) = q.tree c t := by
  have hmissing : Acquisition.missing q.endpoints (some c) (q.tree c t) = [] := by
    refine List.eq_nil_iff_forall_not_mem.mpr fun e he => ?_
    rcases (Acquisition.mem_missing_iff ..).mp he with ⟨he, hkept⟩
    rcases q.exists_read_tree c t text hempty hsteady hkeeps e he with ⟨e', _, _, hread⟩
    rw [Acquisition.isKept_some, c.contains_of_read _ e _ hread] at hkept
    contradiction
  -- From here on it does not matter how the files came about.
  generalize q.tree c t = t' at hmissing ⊢
  rw [tree, acquire, Acquisition.toFetch_eq, hmissing]
  cases Acquisition.readAllKept (some c) t' q.endpoints <;> exact ⟨rfl, rfl⟩

/-- The next acquisition comes to what the texts of the endpoints spell exactly if endpoints
    that share a file agree. -/
theorem result_tree_iff (hempty : c.IsEmpty t) (hsteady : q.fetch.Steady q.endpoints text)
    (hkeeps : q.KeepsAll c t) (sources : List Api.Source)
    (hsources : q.endpoints.eraseDups.mapM (fun e => Acquisition.spelled e (text e)) =
      .ok sources) :
    q.result c (q.tree c t) = .ok sources ↔ SharedFilesAgree q.endpoints text := by
  have hread := q.exists_read_tree c t text hempty hsteady hkeeps
  -- The source of an endpoint is what its file spells.
  have hsource : ∀ e ∈ q.endpoints, ∀ found, c.read (q.tree c t) e = .ok found →
      Acquisition.sourceOf q.endpoints q.fetch (some c) (q.tree c t) e =
        Acquisition.spelled e found := by
    intro e _ found hfound
    rw [Acquisition.sourceOf_of_contains _ _ _ c e (c.contains_of_read _ e found hfound), hfound]
  rw [result, Acquisition.result_acquire_eq_ok_iff, ← mapM_eq_ok_iff,
    mapM_eq_ok_iff_forall _ _ _ _ hsources]
  simp only [List.mem_eraseDups]
  constructor
  · intro hall e he e' he' hname
    -- What is read for the one is read for the other.
    rcases hread e he with ⟨last, _, _, hlast⟩
    have hlast' : c.read (q.tree c t) e' = .ok (text last) := by
      rw [← hlast, Cache.read, Cache.read, Cache.pathOf, Cache.pathOf, hname]
    rw [← (Acquisition.spelled_inj ..).mp ((hsource e he _ hlast).symm.trans (hall e he)),
      ← (Acquisition.spelled_inj ..).mp ((hsource e' he' _ hlast').symm.trans (hall e' he'))]
  · intro hagree e he
    -- The file may have the text of another endpoint, but that spells the same source.
    rcases hread e he with ⟨last, hmem, hname, hlast⟩
    rw [hsource e he _ hlast, Acquisition.spelled_inj]
    exact (hagree e he last hmem hname).symm

end Request

open Acquisition in
/-- What comes of acquisitions to which the same texts are fetched at any time. Without a cache
    and with an empty one the same sources come out. If all texts could be kept, the next
    acquisition has nothing to fetch and nothing to keep, and sources come out of it too.
    They are the same exactly if endpoints that share a file have the same source. -/
theorem Cache.unnoticed_iff (c : Cache) (t : FileTree) (q : Request) (text : String → String)
    (hempty : c.IsEmpty t) (hsteady : q.fetch.Steady q.endpoints text)
    (hkeeps : q.KeepsAll c t) :
    ∃ sources, (∀ t', (acquire q.endpoints q.fetch none t').result = .ok sources) ∧
      q.result c t = .ok sources ∧
      (acquire q.endpoints q.fetch (some c) (q.tree c t)).fetched = [] ∧
      q.tree c (q.tree c t) = q.tree c t ∧
      (∃ again, q.result c (q.tree c t) = .ok again) ∧
      (q.result c (q.tree c t) = .ok sources ↔ SharedFilesAgree q.endpoints text) := by
  rcases exists_mapM_eq_ok (fun e => spelled e (text e)) q.endpoints.eraseDups fun e he => by
    rcases (hsteady e (List.mem_eraseDups.mp he)).2 with ⟨s, hs⟩
    exact ⟨s, (spelled_eq_ok_iff ..).mpr hs⟩ with ⟨sources, hsources⟩
  -- Without a cache and with an empty one everything is fetched, whatever the files are.
  have hfetched : ∀ cache t', (∀ e, isKept cache t' e = false) →
      (acquire q.endpoints q.fetch cache t').result = .ok sources := by
    intro cache t' hnone
    rw [result_acquire_eq_ok_iff, ← mapM_eq_ok_iff, mapM_eq_ok_iff_forall _ _ _ _ hsources]
    exact fun e he => sourceOf_of_steady q.fetch text q.endpoints cache t' hsteady e
      (List.mem_eraseDups.mp he) (hnone e)
  rcases q.acquire_tree c t text hempty hsteady hkeeps with ⟨hnothing, htree⟩
  refine ⟨sources, fun t' => hfetched none t' fun _ => rfl, hfetched (some c) t fun e => ?_,
    hnothing, htree, ?_, q.result_tree_iff c t text hempty hsteady hkeeps sources hsources⟩
  · exact (isKept_some c t e).trans (hempty.contains_eq_false c t e)
  · refine (exists_result_acquire_iff ..).mpr fun e he => ?_
    rcases q.exists_read_tree c t text hempty hsteady hkeeps e he with ⟨e', he', _, hread⟩
    rcases (hsteady e' he').2 with ⟨s, hs⟩
    exact ⟨s, (sourceOf_eq_ok_iff_of_contains _ _ _ c e (c.contains_of_read _ e _ hread) s).mpr
      ⟨text e', hread, hs⟩⟩

/-- The text of a source without symbols. -/
def libraryText (library : String) : String :=
  "\x7b\"library\": \"" ++ library ++ "\"\x7d"

/-- An acquisition to which a source is fetched for every endpoint, with the endpoint for its
    library. -/
def libraryRequest (endpoints : List String) : Request where
  endpoints := endpoints
  fetch := fun _ e => some (libraryText e)

theorem steady_libraryRequest (endpoints : List String)
    (hsource : ∀ e ∈ endpoints, IsSourceText (libraryText e)) :
    (libraryRequest endpoints).fetch.Steady (libraryRequest endpoints).endpoints libraryText :=
  fun e he => ⟨fun _ => rfl, hsource e he⟩

/-- The cache goes unnoticed where two endpoints have different names. -/
theorem unnoticed_libraryRequest :
    let q := libraryRequest ["sap/m/api.json", "sap/ui/api.json"]
    let c : Cache := ⟨"cache"⟩
    c.IsEmpty FileTree.empty ∧ q.fetch.Steady q.endpoints libraryText ∧
      q.KeepsAll c FileTree.empty ∧
      ∃ sources, (∀ t', (acquire q.endpoints q.fetch none t').result = .ok sources) ∧
        q.result c FileTree.empty = .ok sources ∧
        q.result c (q.tree c FileTree.empty) = .ok sources := by
  intro q c
  have hempty := c.isEmpty_empty
  have hsteady := steady_libraryRequest ["sap/m/api.json", "sap/ui/api.json"] (by decide +kernel)
  have hkeeps : q.KeepsAll c FileTree.empty := by decide +kernel
  have hagree : SharedFilesAgree q.endpoints libraryText :=
    sharedFilesAgree_of_inj q.endpoints libraryText (by decide +kernel)
  rcases c.unnoticed_iff FileTree.empty q libraryText hempty hsteady hkeeps with
    ⟨sources, hnone, hfirst, _, _, _, hagain⟩
  exact ⟨hempty, hsteady, hkeeps, sources, hnone, hfirst, hagain.mpr hagree⟩

/-- A cache does not always go unnoticed. Of two endpoints that share a file the one gets the
    source of the other as soon as both are in the cache. -/
theorem not_forall_unnoticed :
    ¬ ∀ (c : Cache) (t : FileTree) (q : Request) (text : String → String),
      c.IsEmpty t → q.fetch.Steady q.endpoints text → q.KeepsAll c t →
        q.result c t = (acquire q.endpoints q.fetch none t).result ∧
          q.result c (q.tree c t) = (acquire q.endpoints q.fetch none t).result := by
  intro hall
  have hequal := (hall ⟨"cache"⟩ FileTree.empty (libraryRequest ["sap/m.json", "sap.m.json"])
    libraryText (Cache.isEmpty_empty _)
    (steady_libraryRequest ["sap/m.json", "sap.m.json"] (by decide +kernel))
    (by decide +kernel)).2
  have hdifferent :
      (((libraryRequest ["sap/m.json", "sap.m.json"]).result ⟨"cache"⟩
        ((libraryRequest ["sap/m.json", "sap.m.json"]).tree ⟨"cache"⟩ FileTree.empty)).toOption.map
          (List.map (·.library))) = some ["sap.m.json", "sap.m.json"] ∧
      ((acquire ["sap/m.json", "sap.m.json"] (libraryRequest []).fetch none
        FileTree.empty).result.toOption.map (List.map (·.library))) =
          some ["sap/m.json", "sap.m.json"] := by
    decide +kernel
  have hlibraries := hdifferent.1.symm.trans
    ((congrArg (fun r => r.toOption.map (List.map (·.library))) hequal).trans hdifferent.2)
  revert hlibraries
  decide

end Typings
