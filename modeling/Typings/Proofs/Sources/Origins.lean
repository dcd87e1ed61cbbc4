import Typings.Proofs.Sources.Transparency

/-!
# Where Sources Come From

What an acquisition comes to can be told by the files alone. A text is in the cache for an
endpoint if there is a file in the directory of the cache whose name is the endpoint, with
dots for its slashes. An endpoint with such a file has its source from there. It fails if
the file is not a text, or if the text does not spell a source, and is not asked for again.
Every other endpoint is asked for once, when its turn comes, and nothing but texts for
endpoints before it has been written until then.

Here `Acquisition.ComesTo` says this endpoint by endpoint, without the cache that an
acquisition looks into. That it tells the source that an acquisition makes use of is
`Acquisition.comesTo_iff`, and with that the outcome of `result_acquire` becomes an outcome
in terms of files.

## Main definitions

* `Acquisition.HasFile`, `Acquisition.IsCached`: What is in the cache for an endpoint.
* `Acquisition.uncached`: The endpoints that have to be fetched.
* `Acquisition.ComesTo`: The source of an endpoint, or the reason why it has none.
* `Acquisition.FailsFirst`: The first endpoint of a list that fails, and with what.

## Theorems

* `Acquisition.hasFile_iff_of_directory`: The files in the directory of the cache.
* `Acquisition.isCached_iff`: What is in the cache is kept.
* `Acquisition.comesTo_iff`: Endpoints come to their sources.
* `Acquisition.exists_turn`: The files at the turn of an endpoint.
* `acquire_iff`: What an acquisition comes to, and what it fetches.
-/

namespace Typings

namespace Acquisition

/-- The name of an endpoint with dots for its slashes. -/
def dotted (endpoint : String) : String :=
  String.ofList (endpoint.toList.map fun ch => if ch = '/' then '.' else ch)

/-- In the directory of the cache, if there is one, there is a file for an endpoint. -/
def HasFile (cache : Option Cache) (t : FileTree) (endpoint : String) (content : ByteArray) :
    Prop :=
  ∃ c ∈ cache, ∃ place, t.locate (Path.join c.directory (dotted endpoint)) = .ok place ∧
    t.get? place = some (.file content)

/-- A name that a file can have in any directory. -/
structure IsFileName (name : String) : Prop where
  notEmpty : name ≠ ""
  notDot : name ≠ "."
  notUp : name ≠ ".."
  notZero : '\x00' ∉ name.toList
  short : name.utf8ByteSize ≤ FileTree.maxName

/-- An endpoint is in the cache. -/
def IsCached (cache : Option Cache) (t : FileTree) (endpoint : String) : Prop :=
  ∃ content, HasFile cache t endpoint content

theorem hasFile_some_iff (c : Cache) (t : FileTree) (endpoint : String) (content : ByteArray) :
    HasFile (some c) t endpoint content ↔
      ∃ place, t.locate (c.pathOf endpoint) = .ok place ∧ t.fileAt? place = some content := by
  simp only [HasFile, Option.mem_some, exists_eq_left', FileTree.fileAt?_eq_some_iff]
  rfl

theorem ne_slash_of_mem_dotted (endpoint : String) : '/' ∉ (dotted endpoint).toList :=
  fun hmem => Cache.ne_slash_of_mem_cacheFileName endpoint '/' hmem rfl

/-- In a directory that is there, the file for an endpoint is the one with its name. -/
theorem hasFile_iff_of_directory (cache : Option Cache) (t : FileTree) (c : Cache) (hc : c ∈ cache)
    (directory : Place) (hlocate : t.locate c.directory = .ok directory)
    (hdirectory : t.get? directory = some .directory) (endpoint : String)
    (hname : IsFileName (dotted endpoint))
    (hpath : c.directory.utf8ByteSize + (dotted endpoint).utf8ByteSize < FileTree.maxPath)
    (content : ByteArray) :
    HasFile cache t endpoint content ↔
      t.get? (directory ++ [dotted endpoint]) = some (.file content) := by
  have hidle : Path.isIdle (dotted endpoint) = false := by
    rw [Path.isIdle, Bool.or_eq_false_iff, decide_eq_false_iff_not, Bool.eq_false_iff, ne_eq,
      String.isEmpty_iff]
    exact ⟨hname.notEmpty, hname.notDot⟩
  have hplace : t.locate (c.pathOf endpoint) = .ok (directory ++ [dotted endpoint]) :=
    t.locate_join c.directory (dotted endpoint) directory hlocate hdirectory
      (ne_slash_of_mem_dotted endpoint) hname.notZero hidle hname.notUp hname.short hpath
  rw [Option.mem_def.mp hc, hasFile_some_iff, hplace]
  simp only [Except.ok.injEq, exists_eq_left', FileTree.fileAt?_eq_some_iff]

/-- What is in the cache is kept. -/
theorem isCached_iff (cache : Option Cache) (t : FileTree) (endpoint : String) :
    IsCached cache t endpoint ↔ isKept cache t endpoint = true := by
  cases cache with
  | none =>
      refine iff_of_false ?_ Bool.false_ne_true
      rintro ⟨_, c, hc, _⟩
      contradiction
  | some c =>
      simp only [IsCached, hasFile_some_iff, isKept_some, Cache.contains, FileTree.isFile_iff]
      exact exists_comm

instance (cache : Option Cache) (t : FileTree) : DecidablePred (IsCached cache t) :=
  fun endpoint => decidable_of_iff _ (isCached_iff cache t endpoint).symm

/-- What is read for an endpoint that is in the cache is the text of its file. -/
theorem exists_read_of_hasFile (cache : Option Cache) (t : FileTree) (endpoint : String)
    (content : ByteArray) (hfile : HasFile cache t endpoint content) :
    ∃ c, cache = some c ∧ c.contains t endpoint = true ∧
      ∀ text, c.read t endpoint = .ok text ↔ content = text.toUTF8 := by
  rcases hcache : cache with _ | c
  · rcases hfile with ⟨c, hc, _⟩
    rw [hcache] at hc
    contradiction
  · rw [hcache, hasFile_some_iff] at hfile
    rcases hfile with ⟨place, hlocate, hcontent⟩
    refine ⟨c, rfl, (FileTree.isFile_iff ..).mpr ⟨place, content, hlocate, hcontent⟩,
      fun text => ?_⟩
    rw [Cache.read, FileTree.readText_eq_ok_iff]
    simp only [hlocate, Except.ok.injEq, exists_eq_left', hcontent, Option.some_inj]

section Turns

variable (fetch : Fetcher) (cache : Option Cache) (t : FileTree)

/-- When the turn of an endpoint comes, those before it have been fetched. -/
theorem exists_turn (fetched : List String) (e : String) (he : e ∈ fetched) :
    ∃ before after, fetched = before ++ e :: after ∧
      answerTo fetch cache t fetched e = fetch (fetchAll fetch cache t before).1 e := by
  induction fetched generalizing t with
  | nil => contradiction
  | cons first rest ih =>
      rw [answerTo]
      by_cases hsame : e = first
      · refine ⟨[], rest, ?_, ?_⟩
        · rw [hsame, List.nil_append]
        · rw [if_pos hsame, hsame]
          rfl
      · rw [if_neg hsame]
        rcases ih (fetchOne fetch cache t first).1 ((List.mem_cons.mp he).resolve_left hsame) with
          ⟨before, after, hrest, hanswer⟩
        exact ⟨first :: before, after, by rw [hrest, List.cons_append], hanswer⟩

/-- Until the turn of an endpoint comes, nothing is written but texts for those that are
    fetched. -/
theorem exists_writesOnly_answerTo (fetched : List String) (e : String) (he : e ∈ fetched) :
    ∃ t', t.WritesOnly (fun place _ => IsEntry cache fetched place) (IsCacheDirectory cache) t' ∧
      answerTo fetch cache t fetched e = fetch t' e := by
  rcases exists_turn fetch cache t fetched e he with ⟨before, after, hfetched, hanswer⟩
  refine ⟨_, (writesOnly_fetchAll fetch t cache before).mono (fun place _ h => ?_) fun _ h => h,
    hanswer⟩
  rcases h with ⟨c, hc, e', he', hentry⟩
  exact ⟨c, hc, e', hfetched ▸ List.mem_append_left _ he', hentry⟩

end Turns

section Origin

variable (endpoints : List String) (fetch : Fetcher) (cache : Option Cache) (t : FileTree)

/-- The endpoints that are not in the cache, each once, in the order in which they are first
    listed. -/
def uncached : List String :=
  (endpoints.filter (¬ IsCached cache t ·)).eraseDups

/-- What an endpoint comes to: the source that the text in its file spells, if it is in the
    cache, or otherwise the source that the text spells that is fetched when its turn
    comes. -/
inductive ComesTo (e : String) : Except AcquisitionError Api.Source → Prop
  | cached (text : String) (s : Api.Source) (hfile : HasFile cache t e text.toUTF8)
      (hsource : Api.parseSource text = .ok s) : ComesTo e (.ok s)
  | spoiled (text : String) (fault : Json.ReadError) (hfile : HasFile cache t e text.toUTF8)
      (hfault : Api.parseSource text = .error fault) : ComesTo e (.error (.parse e fault))
  | unreadable (c : Cache) (content : ByteArray) (hc : c ∈ cache)
      (hfile : HasFile cache t e content) (htext : ∀ text : String, content ≠ text.toUTF8) :
      ComesTo e (.error (.cacheRead (Path.join c.directory (dotted e))))
  | fetched (text : String) (s : Api.Source) (hcached : ¬ IsCached cache t e)
      (hanswer : answerTo fetch cache t (uncached endpoints cache t) e = some text)
      (hsource : Api.parseSource text = .ok s) : ComesTo e (.ok s)
  | invalid (text : String) (fault : Json.ReadError) (hcached : ¬ IsCached cache t e)
      (hanswer : answerTo fetch cache t (uncached endpoints cache t) e = some text)
      (hfault : Api.parseSource text = .error fault) : ComesTo e (.error (.parse e fault))
  | unanswered (hcached : ¬ IsCached cache t e)
      (hanswer : answerTo fetch cache t (uncached endpoints cache t) e = none) :
      ComesTo e (.error (.fetch e))

/-- The first endpoint of a list that fails, fails with an error. -/
def FailsFirst (l : List String) (error : AcquisitionError) : Prop :=
  ∃ before e after, l = before ++ e :: after ∧
    (∀ b ∈ before, ∃ s, ComesTo endpoints fetch cache t b (.ok s)) ∧
    ComesTo endpoints fetch cache t e (.error error)

theorem uncached_eq_missing : uncached endpoints cache t = missing endpoints cache t := by
  rw [uncached, missing, filter_eraseDups]
  congr 1
  refine List.filter_congr fun e _ => ?_
  rw [Bool.eq_iff_iff, decide_eq_true_eq, isCached_iff, Bool.not_eq_true', Bool.not_eq_true]

theorem eraseDups_filter_isCached :
    (endpoints.filter (IsCached cache t ·)).eraseDups = found endpoints cache t := by
  rw [found, filter_eraseDups]
  congr 1
  refine List.filter_congr fun e _ => ?_
  rw [Bool.eq_iff_iff, decide_eq_true_eq, isCached_iff]

theorem mem_found_iff (e : String) :
    e ∈ found endpoints cache t ↔ e ∈ endpoints ∧ IsCached cache t e := by
  rw [found, List.mem_filter, List.mem_eraseDups, isCached_iff]

theorem mem_missing_iff_not_isCached (e : String) :
    e ∈ missing endpoints cache t ↔ e ∈ endpoints ∧ ¬ IsCached cache t e := by
  rw [mem_missing_iff, isCached_iff, Bool.not_eq_true]

/-- Every endpoint comes to something. -/
theorem exists_comesTo (e : String) : ∃ r, ComesTo endpoints fetch cache t e r := by
  by_cases hcached : IsCached cache t e
  · rcases hcached with ⟨content, hfile⟩
    by_cases htext : ∃ text : String, content = text.toUTF8
    · rcases htext with ⟨text, rfl⟩
      cases hparse : Api.parseSource text with
      | ok s => exact ⟨_, .cached text s hfile hparse⟩
      | error fault => exact ⟨_, .spoiled text fault hfile hparse⟩
    · have hc := hfile
      rcases hc with ⟨c, hc, _⟩
      exact ⟨_, .unreadable c content hc hfile (not_exists.mp htext)⟩
  · cases hanswer : answerTo fetch cache t (uncached endpoints cache t) e with
    | none => exact ⟨_, .unanswered hcached hanswer⟩
    | some text =>
        cases hparse : Api.parseSource text with
        | ok s => exact ⟨_, .fetched text s hcached hanswer hparse⟩
        | error fault => exact ⟨_, .invalid text fault hcached hanswer hparse⟩

theorem sourceOf_of_hasFile (e text : String) (hfile : HasFile cache t e text.toUTF8) :
    sourceOf endpoints fetch cache t e = spelled e text := by
  rcases exists_read_of_hasFile cache t e _ hfile with ⟨c, rfl, hcontains, hread⟩
  rw [sourceOf_of_contains endpoints fetch t c e hcontains, (hread text).mpr rfl]

theorem sourceOf_of_answer (e text : String) (hcached : ¬ IsCached cache t e)
    (hanswer : answerTo fetch cache t (uncached endpoints cache t) e = some text) :
    sourceOf endpoints fetch cache t e = spelled e text := by
  rw [isCached_iff, Bool.not_eq_true] at hcached
  rw [uncached_eq_missing] at hanswer
  rw [sourceOf_of_missing endpoints fetch cache t e hcached, hanswer]

/-- Endpoints come to their sources. -/
theorem ComesTo.sourceOf_eq (e : String) (r : Except AcquisitionError Api.Source)
    (h : ComesTo endpoints fetch cache t e r) : sourceOf endpoints fetch cache t e = r := by
  cases h with
  | cached text s hfile hsource =>
      rw [sourceOf_of_hasFile endpoints fetch cache t e text hfile, spelled, hsource]
      rfl
  | spoiled text fault hfile hfault =>
      rw [sourceOf_of_hasFile endpoints fetch cache t e text hfile, spelled, hfault]
      rfl
  | unreadable c content hc hfile htext =>
      rcases exists_read_of_hasFile cache t e content hfile with ⟨c', rfl, hcontains, hread⟩
      rw [Option.mem_some] at hc
      subst hc
      rw [sourceOf_of_contains endpoints fetch t c' e hcontains]
      cases hfound : c'.read t e with
      | error fault => rfl
      | ok text => exact absurd ((hread text).mp hfound) (htext text)
  | fetched text s hcached hanswer hsource =>
      rw [sourceOf_of_answer endpoints fetch cache t e text hcached hanswer, spelled, hsource]
      rfl
  | invalid text fault hcached hanswer hfault =>
      rw [sourceOf_of_answer endpoints fetch cache t e text hcached hanswer, spelled, hfault]
      rfl
  | unanswered hcached hanswer =>
      rw [isCached_iff, Bool.not_eq_true] at hcached
      rw [uncached_eq_missing] at hanswer
      rw [sourceOf_of_missing endpoints fetch cache t e hcached, hanswer]

/-- What an endpoint comes to is its source, or the reason why it has none. -/
theorem comesTo_iff (e : String) (r : Except AcquisitionError Api.Source) :
    ComesTo endpoints fetch cache t e r ↔ sourceOf endpoints fetch cache t e = r := by
  refine ⟨ComesTo.sourceOf_eq endpoints fetch cache t e r, ?_⟩
  rintro rfl
  rcases exists_comesTo endpoints fetch cache t e with ⟨r, h⟩
  rwa [h.sourceOf_eq]

/-- Every endpoint comes to one thing. -/
theorem existsUnique_comesTo (e : String) : ∃! r, ComesTo endpoints fetch cache t e r := by
  simp only [comesTo_iff, existsUnique_eq']

theorem failsFirst_iff (l : List String) (error : AcquisitionError) :
    FailsFirst endpoints fetch cache t l error ↔
      FirstFailure (sourceOf endpoints fetch cache t) l.eraseDups error := by
  rw [firstFailure_eraseDups, firstFailure_iff]
  simp only [FailsFirst, comesTo_iff]

/-- If something in the cache fails, something in it fails first. -/
theorem exists_firstFailure_of_isCached (e : String) (he : e ∈ endpoints)
    (hcached : IsCached cache t e) (error : AcquisitionError)
    (hfails : ComesTo endpoints fetch cache t e (.error error)) :
    ∃ error, FirstFailure (sourceOf endpoints fetch cache t) (found endpoints cache t) error := by
  cases hall : (found endpoints cache t).mapM (sourceOf endpoints fetch cache t) with
  | error error => exact ⟨error, (mapM_eq_error_iff ..).mp hall⟩
  | ok sources =>
      rcases (exists_mapM_eq_ok_iff ..).mp ⟨sources, hall⟩ e
        ((mem_found_iff endpoints cache t e).mpr ⟨he, hcached⟩) with ⟨s, hs⟩
      rw [(comesTo_iff ..).mp hfails] at hs
      contradiction

end Origin

end Acquisition

open Acquisition in
/-- What an acquisition comes to. Each endpoint comes to one thing, by its file in the cache or
    by what is fetched for it when its turn comes, with nothing but texts for fetched endpoints
    written until then. The file is the one with the name of the endpoint in the directory of
    the cache, if that is there. Sources come out, one for each endpoint in the order in which the
    endpoints are first listed, exactly if each endpoint comes to one. Otherwise the error that
    comes out is the first of an endpoint that is in the cache, and if there is none, the first
    of an endpoint that is not. That no source came at all is never the reason. After an error
    in the cache nothing is fetched, and otherwise what is not in the cache is, each endpoint
    once. What the fetcher would answer for any other endpoint makes no difference. -/
theorem acquire_iff (endpoints : List String) (fetch : Fetcher) (cache : Option Cache)
    (t : FileTree) :
    (∀ c ∈ cache, ∀ directory, t.locate c.directory = .ok directory →
        t.get? directory = some .directory → ∀ e, IsFileName (dotted e) →
          c.directory.utf8ByteSize + (dotted e).utf8ByteSize < FileTree.maxPath → ∀ content,
            HasFile cache t e content ↔
              t.get? (directory ++ [dotted e]) = some (.file content)) ∧
      (∀ e, ∃! r, ComesTo endpoints fetch cache t e r) ∧
      (∀ e ∈ uncached endpoints cache t, ∃ t',
        t.WritesOnly (fun place _ => IsEntry cache (uncached endpoints cache t) place)
          (IsCacheDirectory cache) t' ∧
        answerTo fetch cache t (uncached endpoints cache t) e = fetch t' e) ∧
      (∀ sources, (acquire endpoints fetch cache t).result = .ok sources ↔
        List.Forall₂ (fun e s => ComesTo endpoints fetch cache t e (.ok s))
          endpoints.eraseDups sources) ∧
      ((∃ sources, (acquire endpoints fetch cache t).result = .ok sources) ↔
        ∀ e ∈ endpoints, ∃ s, ComesTo endpoints fetch cache t e (.ok s)) ∧
      (∀ error, (acquire endpoints fetch cache t).result = .error error ↔
        FailsFirst endpoints fetch cache t (endpoints.filter (IsCached cache t ·)) error ∨
          (∀ e ∈ endpoints, IsCached cache t e →
            ∃ s, ComesTo endpoints fetch cache t e (.ok s)) ∧
          FailsFirst endpoints fetch cache t (uncached endpoints cache t) error) ∧
      (∀ l, (acquire endpoints fetch cache t).result ≠ .error (.incomplete l)) ∧
      ((∃ e ∈ endpoints, IsCached cache t e ∧
          ∃ error, ComesTo endpoints fetch cache t e (.error error)) →
        (acquire endpoints fetch cache t).fetched = [] ∧
          (acquire endpoints fetch cache t).tree = t) ∧
      ((∀ e ∈ endpoints, IsCached cache t e →
          ∃ s, ComesTo endpoints fetch cache t e (.ok s)) →
        (acquire endpoints fetch cache t).fetched = uncached endpoints cache t) ∧
      (acquire endpoints fetch cache t).fetched.Nodup ∧
      (∀ e ∈ (acquire endpoints fetch cache t).fetched,
        e ∈ endpoints ∧ ¬ IsCached cache t e) ∧
      ∀ fetch' : Fetcher,
        (∀ e ∈ endpoints, ¬ IsCached cache t e → ∀ t, fetch' t e = fetch t e) →
          acquire endpoints fetch' cache t = acquire endpoints fetch cache t := by
  have hfetched := fetched_acquire endpoints fetch cache t
  -- All sources of what is found, in the words of files.
  have hfound : (∀ e ∈ found endpoints cache t, ∃ s, sourceOf endpoints fetch cache t e = .ok s) ↔
      ∀ e ∈ endpoints, IsCached cache t e →
        ∃ s, ComesTo endpoints fetch cache t e (.ok s) := by
    simp only [mem_found_iff, and_imp, comesTo_iff]
  -- Either the cache fails and nothing is fetched, or all that it does not have is.
  have hcases : (acquire endpoints fetch cache t).fetched = [] ∨
      (acquire endpoints fetch cache t).fetched = missing endpoints cache t := by
    cases hall : (found endpoints cache t).mapM (sourceOf endpoints fetch cache t) with
    | error e => exact Or.inl (hfetched.1 ⟨e, (mapM_eq_error_iff ..).mp hall⟩).1
    | ok _ => exact Or.inr (hfetched.2 ((exists_mapM_eq_ok_iff ..).mp ⟨_, hall⟩))
  refine ⟨hasFile_iff_of_directory cache t, existsUnique_comesTo endpoints fetch cache t,
    exists_writesOnly_answerTo fetch cache t _, fun sources => ?_, ?_, fun error => ?_,
    fun l hincomplete => ?_, ?_, fun hall => ?_, ?_, fun e he => ?_, fun fetch' hsame => ?_⟩
  · rw [result_acquire_eq_ok_iff]
    simp only [comesTo_iff]
  · rw [exists_result_acquire_iff]
    simp only [comesTo_iff]
  · rw [result_acquire_eq_error_iff, hfound, failsFirst_iff, failsFirst_iff,
      eraseDups_filter_isCached, uncached_eq_missing, firstFailure_eraseDups]
  · rcases (result_acquire_eq_error_iff endpoints fetch cache t _).mp hincomplete with h | ⟨_, h⟩
    all_goals
      rcases h with ⟨e, _, hsource⟩
      exact sourceOf_ne_incomplete endpoints fetch cache t e l hsource
  · rintro ⟨e, he, hcached, error, hfails⟩
    exact hfetched.1
      (exists_firstFailure_of_isCached endpoints fetch cache t e he hcached error hfails)
  · rw [uncached_eq_missing]
    exact hfetched.2 (hfound.mpr hall)
  · rcases hcases with h | h <;> rw [h]
    · exact List.nodup_nil
    · exact nodup_missing endpoints cache t
  · rcases hcases with h | h <;> rw [h] at he
    · contradiction
    · exact (mem_missing_iff_not_isCached endpoints cache t e).mp he
  · refine acquire_congr endpoints fetch cache t fetch' fun e he => ?_
    rcases (mem_missing_iff_not_isCached endpoints cache t e).mp he with ⟨he, hcached⟩
    exact hsame e he hcached

section Example

/-- A cache with a source for `sap/m.json`, but none for `sap/ui.json`. -/
def filledCache : FileTree where
  entries :=
    [(["cache"], .directory),
      (["cache", "sap.m.json"], .file (libraryText "sap.m").toUTF8)]

/-- A request in which an endpoint that is not in that cache is listed twice. -/
def repeatedRequest : Request :=
  libraryRequest ["sap/ui.json", "sap/m.json", "sap/ui.json"]

open Acquisition in
theorem hasFile_filledCache :
    HasFile (some ⟨"cache"⟩) filledCache "sap/m.json" (libraryText "sap.m").toUTF8 := by
  rw [hasFile_some_iff]
  refine ⟨["cache", "sap.m.json"], by decide +kernel, ?_⟩
  rw [FileTree.fileAt?_eq_some_iff]
  rfl

/-- The text of a source spells one for its library. -/
theorem exists_parseSource_libraryText (library : String)
    (hlibrary : (Api.parseSource (libraryText library)).toOption.map (·.library) =
      some library) :
    ∃ s, Api.parseSource (libraryText library) = .ok s ∧ s.library = library := by
  cases hs : Api.parseSource (libraryText library) with
  | error fault =>
      rw [hs] at hlibrary
      contradiction
  | ok s =>
      rw [hs] at hlibrary
      exact ⟨s, rfl, Option.some_inj.mp hlibrary⟩

open Acquisition in
/-- One endpoint has its source from its file in the cache, and not what would be fetched for
    it. The other one is fetched, once, though it is listed twice. -/
theorem acquire_filledCache :
    HasFile (some ⟨"cache"⟩) filledCache "sap/m.json" (libraryText "sap.m").toUTF8 ∧
      ¬ IsCached (some ⟨"cache"⟩) filledCache "sap/ui.json" ∧
      (acquire repeatedRequest.endpoints repeatedRequest.fetch (some ⟨"cache"⟩)
        filledCache).fetched = ["sap/ui.json"] ∧
      ∃ fetched cached, Api.parseSource (libraryText "sap/ui.json") = .ok fetched ∧
        Api.parseSource (libraryText "sap.m") = .ok cached ∧
        fetched.library = "sap/ui.json" ∧ cached.library = "sap.m" ∧
        (acquire repeatedRequest.endpoints repeatedRequest.fetch (some ⟨"cache"⟩)
          filledCache).result = .ok [fetched, cached] := by
  have hcached : ¬ IsCached (some ⟨"cache"⟩) filledCache "sap/ui.json" := by decide +kernel
  have huncached : uncached repeatedRequest.endpoints (some ⟨"cache"⟩) filledCache =
      ["sap/ui.json"] := by decide +kernel
  rcases exists_parseSource_libraryText "sap/ui.json" (by decide +kernel) with
    ⟨fetched, hfetched, hui⟩
  rcases exists_parseSource_libraryText "sap.m" (by decide +kernel) with ⟨cached, hm, hname⟩
  have hfromFile : ComesTo repeatedRequest.endpoints repeatedRequest.fetch (some ⟨"cache"⟩)
      filledCache "sap/m.json" (.ok cached) :=
    .cached (libraryText "sap.m") cached hasFile_filledCache hm
  have hanswer : answerTo repeatedRequest.fetch (some ⟨"cache"⟩) filledCache
      (uncached repeatedRequest.endpoints (some ⟨"cache"⟩) filledCache) "sap/ui.json" =
        some (libraryText "sap/ui.json") := by
    rw [huncached, answerTo, if_pos rfl]
    rfl
  have hfromFetch : ComesTo repeatedRequest.endpoints repeatedRequest.fetch (some ⟨"cache"⟩)
      filledCache "sap/ui.json" (.ok fetched) :=
    .fetched (libraryText "sap/ui.json") fetched hcached hanswer hfetched
  rcases acquire_iff repeatedRequest.endpoints repeatedRequest.fetch (some ⟨"cache"⟩) filledCache
    with ⟨_, _, _, hok, _, _, _, _, hall, _⟩
  have hlisted : repeatedRequest.endpoints.eraseDups = ["sap/ui.json", "sap/m.json"] := by
    decide +kernel
  refine ⟨hasFile_filledCache, hcached, (hall fun e he _ => ?_).trans huncached, fetched, cached,
    hfetched, hm, hui, hname, (hok _).mpr ?_⟩
  · rw [← List.mem_eraseDups, hlisted, List.mem_pair] at he
    rcases he with rfl | rfl
    · exact ⟨fetched, hfromFetch⟩
    · exact ⟨cached, hfromFile⟩
  · rw [hlisted]
    exact .cons hfromFetch (.cons hfromFile .nil)

end Example

end Typings
