import Mathlib.Data.List.Forall2
import Typings.Proofs.Sources.Pending
import Typings.Sources.Acquire

/-!
# What an Acquisition Comes To

An acquisition handles a list in which endpoints may be repeated, in three places that do
not know of each other: what is in the cache is read as often as it is listed, what is not
is fetched once, and what came is put into order again at the end. Still it can be said
endpoint by endpoint what comes out. Each endpoint has a source or an error of its own,
from its file in the cache if there is one and from what was fetched otherwise. If all have
sources, these come out in the order in which the endpoints are first listed. If not, the
first error comes out, where everything that is in the cache comes before everything that
is not.

A fetcher is asked at most once for an endpoint, so it makes no difference whether it would
answer the same again. `Acquisition.answerTo` is what it answers when the endpoint's turn
comes.

## Main definitions

* `FirstFailure`: The first member of a list that fails, and with what.
* `Acquisition.answerTo`: What is answered for an endpoint when its turn comes.
* `Acquisition.sourceOf`: The source of an endpoint, or the reason why it has none.
* `Acquisition.found`, `Acquisition.missing`: The endpoints that are in the cache, and those
  that are not, each once.

## Theorems

* `mapM_eq_ok_iff`, `mapM_eq_error_iff`: All results are there if each of them is, and
  otherwise they are missing because of the first failure.
* `firstFailure_eraseDups`: Repetitions do not change what fails first.
* `Acquisition.snd_fetchAll`: What fetching comes to, endpoint by endpoint.
* `Acquisition.collect_eq`: Sources come out in order.
* `Acquisition.result_acquire`: The outcome in terms of the sources of endpoints.
* `Acquisition.result_acquire_eq_ok_iff`, `Acquisition.result_acquire_eq_error_iff`: When
  sources come out, and which error does otherwise.
* `Acquisition.fetched_acquire`: What an acquisition fetches.
-/

namespace Typings

section Failures

variable {ε α β : Type} (f : α → Except ε β)

/-- All results are there if each of them is. -/
theorem mapM_eq_ok_iff (l : List α) (results : List β) :
    l.mapM f = .ok results ↔ List.Forall₂ (fun a b => f a = .ok b) l results := by
  induction l generalizing results with
  | nil =>
      rw [List.mapM_nil, List.forall₂_nil_left_iff]
      exact ⟨fun h => (Except.ok.inj h).symm, fun h => h ▸ rfl⟩
  | cons a rest ih =>
      rw [List.mapM_cons, List.forall₂_cons_left_iff]
      simp only [← ih]
      cases f a with
      | error e => exact ⟨nofun, fun ⟨_, _, h, _⟩ => nomatch h⟩
      | ok b =>
          cases rest.mapM f with
          | error e => exact ⟨nofun, fun ⟨_, _, _, h, _⟩ => nomatch h⟩
          | ok bs =>
              refine ⟨fun h => ⟨b, bs, rfl, rfl, (Except.ok.inj h).symm⟩, ?_⟩
              rintro ⟨_, _, ⟨⟩, ⟨⟩, rfl⟩
              rfl

/-- Where the results are known, the same come of another function exactly if it does the
    same to each member. -/
theorem mapM_eq_ok_iff_forall (g : α → Except ε β) (l : List α) (results : List β)
    (hf : l.mapM f = .ok results) : l.mapM g = .ok results ↔ ∀ a ∈ l, g a = f a := by
  rw [mapM_eq_ok_iff] at hf ⊢
  induction hf with
  | nil => exact ⟨fun _ => List.forall_mem_nil _, fun _ => List.Forall₂.nil⟩
  | cons hb _ ih => rw [List.forall₂_cons, ih, List.forall_mem_cons, hb]

theorem exists_mapM_eq_ok (l : List α) (hf : ∀ a ∈ l, ∃ b, f a = .ok b) :
    ∃ results, l.mapM f = .ok results := by
  simp only [mapM_eq_ok_iff]
  induction l with
  | nil => exact ⟨[], List.Forall₂.nil⟩
  | cons a rest ih =>
      rcases hf a List.mem_cons_self with ⟨b, hb⟩
      rcases ih fun a ha => hf a (List.mem_cons_of_mem _ ha) with ⟨results, hall⟩
      exact ⟨b :: results, List.Forall₂.cons hb hall⟩

/-- The first member of a list that fails, fails with an error. -/
def FirstFailure (f : α → Except ε β) (l : List α) (e : ε) : Prop :=
  ∃ a, l.find? (fun a => !(f a).isOk) = some a ∧ f a = .error e

theorem firstFailure_cons_of_ok (a : α) (rest : List α) (b : β) (e : ε) (hb : f a = .ok b) :
    FirstFailure f (a :: rest) e ↔ FirstFailure f rest e := by
  rw [FirstFailure, List.find?_cons_of_neg]
  · rfl
  · rw [hb]
    exact Bool.false_ne_true

theorem firstFailure_cons_of_error (a : α) (rest : List α) (e e' : ε) (he : f a = .error e) :
    FirstFailure f (a :: rest) e' ↔ e = e' := by
  rw [FirstFailure, List.find?_cons_of_pos]
  · simp only [Option.some_inj, exists_eq_left', he, Except.error.injEq]
  · rw [he]
    rfl

/-- What fails first is the first failure behind members that do not fail. -/
theorem firstFailure_iff (l : List α) (e : ε) :
    FirstFailure f l e ↔ ∃ before a after, l = before ++ a :: after ∧
      (∀ b ∈ before, ∃ r, f b = .ok r) ∧ f a = .error e := by
  have hok : ∀ b, (!(!(f b).isOk)) = true ↔ ∃ r, f b = .ok r := by
    intro b
    rw [Bool.not_not]
    cases f b with
    | error fault => exact iff_of_false Bool.false_ne_true fun ⟨_, h⟩ => nomatch h
    | ok r => exact iff_of_true rfl ⟨r, rfl⟩
  simp only [FirstFailure, List.find?_eq_some_iff_append, hok]
  constructor
  · rintro ⟨a, ⟨_, before, after, hl, hbefore⟩, ha⟩
    exact ⟨before, a, after, hl, hbefore, ha⟩
  · rintro ⟨before, a, after, hl, hbefore, ha⟩
    refine ⟨a, ⟨?_, before, after, hl, hbefore⟩, ha⟩
    rw [ha]
    rfl

/-- Results are missing because of the first failure. -/
theorem mapM_eq_error_iff (l : List α) (e : ε) : l.mapM f = .error e ↔ FirstFailure f l e := by
  induction l with
  | nil => exact ⟨nofun, fun ⟨_, h, _⟩ => nomatch h⟩
  | cons a rest ih =>
      rw [List.mapM_cons]
      cases ha : f a with
      | error fault =>
          rw [firstFailure_cons_of_error f a rest fault e ha]
          exact ⟨Except.error.inj, congrArg Except.error⟩
      | ok b =>
          rw [firstFailure_cons_of_ok f a rest b e ha, ← ih]
          cases rest.mapM f with
          | error fault => exact ⟨fun h => congrArg Except.error (Except.error.inj h),
              fun h => congrArg Except.error (Except.error.inj h)⟩
          | ok results => exact ⟨nofun, nofun⟩

/-- All results are there exactly if no member fails. -/
theorem exists_mapM_eq_ok_iff (l : List α) :
    (∃ results, l.mapM f = .ok results) ↔ ∀ a ∈ l, ∃ b, f a = .ok b := by
  refine ⟨fun ⟨results, hok⟩ a ha => ?_, exists_mapM_eq_ok f l⟩
  rcases List.getElem_of_mem ha with ⟨i, hi, rfl⟩
  have hall := (mapM_eq_ok_iff f l results).mp hok
  exact ⟨_, (List.forall₂_iff_get.mp hall).2 i hi (hall.length_eq ▸ hi)⟩

section Repetitions

variable [DecidableEq α]

/-- What is found first is found first without repetitions. -/
theorem find?_eraseDups (q : α → Bool) (l : List α) : l.eraseDups.find? q = l.find? q := by
  induction l using List.reverseRecOn with
  | nil => rfl
  | append_singleton l a ih =>
      rw [eraseDups_concat, List.find?_append]
      by_cases ha : a ∈ l
      · rw [if_pos ha, ih]
        cases hfound : l.find? q with
        | some b => rfl
        | none =>
            -- A member that was there before has been passed over before.
            rw [Option.none_or, List.find?_singleton, if_neg (List.find?_eq_none.mp hfound a ha)]
      · rw [if_neg ha, List.find?_append, ih]

/-- Repetitions do not change what fails first. -/
theorem firstFailure_eraseDups (l : List α) (e : ε) :
    FirstFailure f l.eraseDups e ↔ FirstFailure f l e := by
  rw [FirstFailure, FirstFailure, find?_eraseDups]

end Repetitions

/-- What is made of results does not change what fails first. -/
theorem firstFailure_map {γ : Type} (h : α → β → γ) (l : List α) (e : ε) :
    FirstFailure (fun a => (f a).map (h a)) l e ↔ FirstFailure f l e := by
  have hok : ∀ a, ((f a).map (h a)).isOk = (f a).isOk := by
    intro a
    cases f a <;> rfl
  simp only [FirstFailure, hok]
  refine exists_congr fun a => and_congr_right fun _ => ?_
  cases f a with
  | error fault => exact ⟨fun he => congrArg Except.error (Except.error.inj he),
      fun he => congrArg Except.error (Except.error.inj he)⟩
  | ok b => exact ⟨nofun, nofun⟩

end Failures

namespace Acquisition

/-- What is answered for an endpoint when its turn comes, while endpoints are fetched one
    after the other. -/
def answerTo (fetch : Fetcher) (cache : Option Cache) :
    FileTree → List String → String → Option String
  | _, [], _ => none
  | t, e :: rest, endpoint =>
    if endpoint = e then fetch t e
    else answerTo fetch cache (fetchOne fetch cache t e).1 rest endpoint

/-- The source that the text for an endpoint spells. -/
def spelled (endpoint text : String) : Except AcquisitionError Api.Source :=
  (Api.parseSource text).mapError (.parse endpoint)

/-- A source is spelled if it is read off the text. -/
theorem spelled_eq_ok_iff (endpoint text : String) (s : Api.Source) :
    spelled endpoint text = .ok s ↔ Api.parseSource text = .ok s := by
  rw [spelled]
  cases Api.parseSource text with
  | error fault => exact ⟨nofun, nofun⟩
  | ok found => exact ⟨fun h => congrArg Except.ok (Except.ok.inj h),
      fun h => congrArg Except.ok (Except.ok.inj h)⟩

/-- Texts spell the same for an endpoint if the same is read off them. -/
theorem spelled_inj (endpoint text text' : String) :
    spelled endpoint text = spelled endpoint text' ↔
      Api.parseSource text = Api.parseSource text' := by
  rw [spelled, spelled]
  cases Api.parseSource text <;> cases Api.parseSource text' <;>
    simp only [Except.mapError, Except.ok.injEq, Except.error.injEq, AcquisitionError.parse.injEq,
      true_and, reduceCtorEq]

theorem isKept_some (c : Cache) (t : FileTree) (endpoint : String) :
    isKept (some c) t endpoint = c.contains t endpoint := by
  rw [isKept, Option.any_some]

/-- The turn of an endpoint comes if it is among those that are fetched. -/
theorem exists_answerTo_eq (fetch : Fetcher) (cache : Option Cache) (t : FileTree)
    (fetched : List String) (e : String) (he : e ∈ fetched) :
    ∃ t', answerTo fetch cache t fetched e = fetch t' e := by
  induction fetched generalizing t with
  | nil => contradiction
  | cons other rest ih =>
      rw [answerTo]
      by_cases hsame : e = other
      · exact ⟨t, by rw [if_pos hsame, hsame]⟩
      · rw [if_neg hsame]
        exact ih _ ((List.mem_cons.mp he).resolve_left hsame)

section Outcome

variable (endpoints : List String) (fetch : Fetcher) (cache : Option Cache) (t : FileTree)

/-- The endpoints that are in the cache, each once, in the order in which they are listed. -/
def found : List String :=
  endpoints.eraseDups.filter (isKept cache t)

/-- The endpoints that are not in the cache, each once, in the order in which they are
    listed. -/
def missing : List String :=
  endpoints.eraseDups.filter (!isKept cache t ·)

/-- The source of an endpoint, or the reason why it has none. If it has a file in the cache,
    that is read, and otherwise what was fetched counts. -/
def sourceOf (endpoint : String) : Except AcquisitionError Api.Source :=
  match cache.filter (·.contains t endpoint) with
  | some c =>
    match c.read t endpoint with
    | .ok text => spelled endpoint text
    | .error _ => .error (.cacheRead (c.pathOf endpoint))
  | none =>
    match answerTo fetch cache t (missing endpoints cache t) endpoint with
    | some text => spelled endpoint text
    | none => .error (.fetch endpoint)

/-- The source of an endpoint together with the endpoint. -/
def namedSource (endpoint : String) : Except AcquisitionError (String × Api.Source) :=
  (sourceOf endpoints fetch cache t endpoint).map fun s => (endpoint, s)

theorem sourceOf_of_contains (c : Cache) (e : String) (hcontains : c.contains t e = true) :
    sourceOf endpoints fetch (some c) t e =
      match c.read t e with
      | .ok text => spelled e text
      | .error _ => .error (.cacheRead (c.pathOf e)) := by
  have hfilter : (some c).filter (·.contains t e) = some c := by
    rw [Option.filter_some, if_pos hcontains]
  rw [sourceOf, hfilter]

theorem sourceOf_of_missing (e : String) (hmissing : isKept cache t e = false) :
    sourceOf endpoints fetch cache t e =
      match answerTo fetch cache t (missing endpoints cache t) e with
      | some text => spelled e text
      | none => .error (.fetch e) := by
  have hfilter : cache.filter (·.contains t e) = none := by
    rw [Option.filter_eq_none_iff]
    intro c hc hcontains
    rw [hc, isKept_some, hcontains] at hmissing
    contradiction
  rw [sourceOf, hfilter]

/-- An endpoint that is in the cache has a source if its file spells one. -/
theorem sourceOf_eq_ok_iff_of_contains (c : Cache) (e : String) (hcontains : c.contains t e = true)
    (s : Api.Source) :
    sourceOf endpoints fetch (some c) t e = .ok s ↔
      ∃ text, c.read t e = .ok text ∧ Api.parseSource text = .ok s := by
  rw [sourceOf_of_contains endpoints fetch t c e hcontains]
  cases c.read t e with
  | error fault => exact ⟨nofun, fun ⟨_, h, _⟩ => nomatch h⟩
  | ok text => simp only [spelled_eq_ok_iff, Except.ok.injEq, exists_eq_left']

theorem parse_eq (e text : String) : parse e text = (spelled e text).map fun s => (e, s) := by
  rw [parse, spelled]
  cases Api.parseSource text <;> rfl

/-- What is missing is what is fetched. -/
theorem toFetch_eq : toFetch cache t endpoints = missing endpoints cache t := by
  rw [toFetch, addAllNew_nil, missing, filter_eraseDups]

theorem nodup_missing : (missing endpoints cache t).Nodup := by
  rw [← toFetch_eq]
  exact nodup_addAllNew [] _ List.nodup_nil

theorem mem_missing_iff (e : String) :
    e ∈ missing endpoints cache t ↔ e ∈ endpoints ∧ isKept cache t e = false := by
  rw [missing, List.mem_filter, List.mem_eraseDups, Bool.not_eq_true']

/-- Endpoints that are in the cache have their sources from there. -/
theorem readAllKept_eq :
    readAllKept cache t endpoints =
      (endpoints.filter (isKept cache t)).mapM (namedSource endpoints fetch cache t) := by
  cases cache with
  | none =>
      have hnone : endpoints.filter (isKept none t) = [] :=
        List.filter_eq_nil_iff.mpr fun _ _ => Bool.false_ne_true
      rw [hnone]
      rfl
  | some c =>
      have hkept : isKept (some c) t = c.contains t :=
        funext fun e => isKept_some c t e
      have hsource : ∀ e ∈ endpoints.filter (c.contains t),
          readKept c t e = namedSource endpoints fetch (some c) t e := by
        intro e he
        rw [namedSource, sourceOf_of_contains endpoints fetch t c e (List.mem_filter.mp he).2]
        unfold readKept
        cases c.read t e with
        | error fault => rfl
        | ok text => exact parse_eq e text
      have hall := congrArg (List.mapM id) (List.map_congr_left hsource)
      simp only [List.mapM_map, Function.id_comp] at hall
      rw [hkept, readAllKept]
      exact hall

/-- Fetching comes to what is answered for each endpoint at its turn. -/
theorem snd_fetchAll (fetched : List String) (hnodup : fetched.Nodup) :
    (fetchAll fetch cache t fetched).2 = fetched.map fun e =>
      match answerTo fetch cache t fetched e with
      | some text => parse e text
      | none => .error (.fetch e) := by
  induction fetched generalizing t with
  | nil => rfl
  | cons e rest ih =>
      rcases List.nodup_cons.mp hnodup with ⟨hfresh, hrest⟩
      have hone : (fetchOne fetch cache t e).2 =
          match fetch t e with
          | some text => parse e text
          | none => .error (.fetch e) := by
        rw [fetchOne]
        cases fetch t e <;> rfl
      rw [List.map_cons, answerTo, if_pos rfl, ← hone]
      refine congrArg (_ :: ·) ((ih (fetchOne fetch cache t e).1 hrest).trans
        (List.map_congr_left fun e' he' => ?_))
      -- The turn of the first endpoint does not come again.
      rw [answerTo, if_neg fun h : e' = e => hfresh (h ▸ he')]

theorem snd_fetchAll_missing :
    (fetchAll fetch cache t (missing endpoints cache t)).2 =
      (missing endpoints cache t).map (namedSource endpoints fetch cache t) := by
  rw [snd_fetchAll fetch cache t _ (nodup_missing endpoints cache t)]
  refine List.map_congr_left fun e he => ?_
  rw [namedSource, sourceOf_of_missing endpoints fetch cache t e
    ((mem_missing_iff endpoints cache t e).mp he).2]
  cases answerTo fetch cache t (missing endpoints cache t) e with
  | none => rfl
  | some text => exact parse_eq e text

theorem mapM_namedSource_eq_error_iff (l : List String) (e : AcquisitionError) :
    l.mapM (namedSource endpoints fetch cache t) = .error e ↔
      FirstFailure (sourceOf endpoints fetch cache t) l e := by
  rw [mapM_eq_error_iff]
  exact firstFailure_map (sourceOf endpoints fetch cache t) (fun e s => (e, s)) l e

/-- The cache can be read unless an endpoint fails that is in it. -/
theorem readAllKept_eq_error_iff (e : AcquisitionError) :
    readAllKept cache t endpoints = .error e ↔
      FirstFailure (sourceOf endpoints fetch cache t) (found endpoints cache t) e := by
  rw [readAllKept_eq endpoints fetch cache t, mapM_namedSource_eq_error_iff, found,
    filter_eraseDups, firstFailure_eraseDups]

/-- Named sources bear the names of their endpoints. -/
theorem named_of_mapM (l : List String) (named : List (String × Api.Source))
    (hnamed : l.mapM (namedSource endpoints fetch cache t) = .ok named) :
    named.map Prod.fst = l ∧ ∀ p ∈ named, sourceOf endpoints fetch cache t p.1 = .ok p.2 := by
  have hsource : ∀ e p, namedSource endpoints fetch cache t e = .ok p →
      p.1 = e ∧ sourceOf endpoints fetch cache t p.1 = .ok p.2 := by
    intro e p hp
    rw [namedSource] at hp
    cases hs : sourceOf endpoints fetch cache t e with
    | error fault =>
        rw [hs] at hp
        contradiction
    | ok s =>
        rw [hs] at hp
        rw [← Except.ok.inj hp]
        exact ⟨rfl, hs⟩
  have hall := (mapM_eq_ok_iff ..).mp hnamed
  constructor
  · have hnames := (hall.imp fun e p hp => (hsource e p hp).1).flip
    rwa [← List.forall₂_map_left_iff (f := Prod.fst), List.forall₂_eq_eq_eq] at hnames
  · intro p hp
    rcases List.getElem_of_mem hp with ⟨i, hi, rfl⟩
    exact (hsource _ _ ((List.forall₂_iff_get.mp hall).2 i (hall.length_eq.symm ▸ hi) hi)).2

theorem exists_source_of_mem (named : List (String × Api.Source))
    (hnamed : ∀ p ∈ named, sourceOf endpoints fetch cache t p.1 = .ok p.2) (e : String)
    (he : e ∈ named.map Prod.fst) : ∃ s, sourceOf endpoints fetch cache t e = .ok s := by
  rcases List.mem_map.mp he with ⟨p, hp, rfl⟩
  exact ⟨p.2, hnamed p hp⟩

/-- Sources that came for all endpoints come out in the order in which the endpoints are
    first listed. -/
theorem collect_eq (named : List (String × Api.Source))
    (hall : ∀ e ∈ endpoints, e ∈ named.map Prod.fst)
    (hnamed : ∀ p ∈ named, sourceOf endpoints fetch cache t p.1 = .ok p.2) :
    collect endpoints named =
      endpoints.eraseDups.mapM (sourceOf endpoints fetch cache t) := by
  rcases (Pending.exists_finish_deliverAll_iff endpoints named).mpr hall with ⟨sources, hfinish⟩
  have hlast := (Pending.finish_deliverAll_eq_ok_iff endpoints named sources).mp hfinish
  rw [← List.forall₂_eq_eq_eq, List.forall₂_map_left_iff, List.forall₂_map_right_iff] at hlast
  -- What came last for an endpoint is its source.
  have hsources := (hlast.imp fun s e h => hnamed (e, s) (mem_of_lastOf? _ e s h.symm)).flip
  rw [(mapM_eq_ok_iff ..).mpr hsources, collect, hfinish]
  rfl

/-- The outcome of an acquisition: what is in the cache has to have sources, what is not has
    to have sources, and then all endpoints have. -/
theorem result_acquire :
    (acquire endpoints fetch cache t).result = (do
      let _ ← (found endpoints cache t).mapM (sourceOf endpoints fetch cache t)
      let _ ← (missing endpoints cache t).mapM (sourceOf endpoints fetch cache t)
      endpoints.eraseDups.mapM (sourceOf endpoints fetch cache t)) := by
  rw [acquire, toFetch_eq]
  cases hkept : readAllKept cache t endpoints with
  | error e =>
      rw [readAllKept_eq_error_iff endpoints fetch cache t, ← mapM_eq_error_iff] at hkept
      rw [hkept]
      rfl
  | ok kept =>
      rw [readAllKept_eq endpoints fetch cache t] at hkept
      rcases named_of_mapM endpoints fetch cache t _ kept hkept with ⟨hkeptNames, hkeptSources⟩
      rcases (exists_mapM_eq_ok_iff (sourceOf endpoints fetch cache t)
        (found endpoints cache t)).mpr (fun e he => exists_source_of_mem endpoints fetch cache t
          kept hkeptSources e
          (by rwa [hkeptNames, List.mem_filter, ← List.mem_eraseDups, ← List.mem_filter]))
        with ⟨_, hfound⟩
      have hresults : (fetchAll fetch cache t (missing endpoints cache t)).2.mapM id =
          (missing endpoints cache t).mapM (namedSource endpoints fetch cache t) := by
        rw [snd_fetchAll_missing, List.mapM_map, Function.id_comp]
      rw [hfound]
      show (do collect endpoints (kept ++
        (← (fetchAll fetch cache t (missing endpoints cache t)).2.mapM id))) = _
      rw [hresults]
      cases hfetched : (missing endpoints cache t).mapM (namedSource endpoints fetch cache t) with
      | error e =>
          rw [mapM_namedSource_eq_error_iff, ← mapM_eq_error_iff] at hfetched
          rw [hfetched]
          rfl
      | ok fetched =>
          rcases named_of_mapM endpoints fetch cache t _ fetched hfetched with
            ⟨hfetchedNames, hfetchedSources⟩
          rcases (exists_mapM_eq_ok_iff (sourceOf endpoints fetch cache t)
            (missing endpoints cache t)).mpr (fun e he => exists_source_of_mem endpoints fetch
              cache t fetched hfetchedSources e (hfetchedNames.symm ▸ he)) with ⟨_, hmissing⟩
          rw [hmissing]
          refine collect_eq endpoints fetch cache t (kept ++ fetched) (fun e he => ?_)
            fun p hp => ?_
          · -- Every endpoint was found or fetched.
            rw [List.map_append, List.mem_append, hkeptNames, hfetchedNames, missing,
              List.mem_filter, List.mem_filter, List.mem_eraseDups]
            cases isKept cache t e with
            | true => exact Or.inl ⟨he, rfl⟩
            | false => exact Or.inr ⟨he, rfl⟩
          · rcases List.mem_append.mp hp with hp | hp
            · exact hkeptSources p hp
            · exact hfetchedSources p hp

/-- Sources come out if every endpoint has one. -/
theorem result_acquire_eq_ok_iff (sources : List Api.Source) :
    (acquire endpoints fetch cache t).result = .ok sources ↔
      List.Forall₂ (fun e s => sourceOf endpoints fetch cache t e = .ok s)
        endpoints.eraseDups sources := by
  rw [result_acquire, ← mapM_eq_ok_iff]
  constructor
  · intro hok
    cases hfound : (found endpoints cache t).mapM (sourceOf endpoints fetch cache t) with
    | error e =>
        rw [hfound] at hok
        contradiction
    | ok _ =>
        rw [hfound] at hok
        cases hmissing : (missing endpoints cache t).mapM (sourceOf endpoints fetch cache t) with
        | error e =>
            rw [hmissing] at hok
            contradiction
        | ok _ =>
            rw [hmissing] at hok
            exact hok
  · intro hok
    have hall := (exists_mapM_eq_ok_iff ..).mp ⟨sources, hok⟩
    rcases exists_mapM_eq_ok _ (found endpoints cache t)
      fun e he => hall e (List.mem_filter.mp he).1 with ⟨_, hfound⟩
    rcases exists_mapM_eq_ok _ (missing endpoints cache t)
      fun e he => hall e (List.mem_filter.mp he).1 with ⟨_, hmissing⟩
    rw [hfound, hmissing]
    exact hok

theorem exists_result_acquire_iff :
    (∃ sources, (acquire endpoints fetch cache t).result = .ok sources) ↔
      ∀ e ∈ endpoints, ∃ s, sourceOf endpoints fetch cache t e = .ok s := by
  simp only [result_acquire_eq_ok_iff, ← mapM_eq_ok_iff, exists_mapM_eq_ok_iff,
    List.mem_eraseDups]

/-- An error comes out if it is the first in the cache, or if there is none in the cache and
    it is the first among what is not there. -/
theorem result_acquire_eq_error_iff (e : AcquisitionError) :
    (acquire endpoints fetch cache t).result = .error e ↔
      FirstFailure (sourceOf endpoints fetch cache t) (found endpoints cache t) e ∨
        (∀ k ∈ found endpoints cache t, ∃ s, sourceOf endpoints fetch cache t k = .ok s) ∧
          FirstFailure (sourceOf endpoints fetch cache t) (missing endpoints cache t) e := by
  rw [result_acquire, ← exists_mapM_eq_ok_iff, ← mapM_eq_error_iff, ← mapM_eq_error_iff]
  cases hfound : (found endpoints cache t).mapM (sourceOf endpoints fetch cache t) with
  | error fault =>
      refine ⟨fun h => Or.inl (congrArg Except.error (Except.error.inj h)), ?_⟩
      rintro (h | ⟨⟨_, h⟩, _⟩)
      · exact congrArg Except.error (Except.error.inj h)
      · contradiction
  | ok results =>
      cases hmissing : (missing endpoints cache t).mapM (sourceOf endpoints fetch cache t) with
      | error fault =>
          refine ⟨fun h => Or.inr ⟨⟨_, rfl⟩, congrArg Except.error (Except.error.inj h)⟩, ?_⟩
          rintro (h | ⟨_, h⟩)
          · contradiction
          · exact congrArg Except.error (Except.error.inj h)
      | ok results' =>
          -- Every endpoint is among the ones or the others, so all sources are there.
          have hall : ∀ k ∈ endpoints.eraseDups,
              ∃ s, sourceOf endpoints fetch cache t k = .ok s := by
            intro k hk
            cases hkept : isKept cache t k with
            | true =>
                refine (exists_mapM_eq_ok_iff ..).mp ⟨_, hfound⟩ k (List.mem_filter.mpr ⟨hk, ?_⟩)
                exact hkept
            | false =>
                refine (exists_mapM_eq_ok_iff ..).mp ⟨_, hmissing⟩ k (List.mem_filter.mpr ⟨hk, ?_⟩)
                rw [hkept]
                rfl
          rcases exists_mapM_eq_ok _ _ hall with ⟨sources, hsources⟩
          refine ⟨fun h => ?_, ?_⟩
          · have hok : endpoints.eraseDups.mapM (sourceOf endpoints fetch cache t) = .error e := h
            rw [hsources] at hok
            contradiction
          · rintro (h | ⟨_, h⟩) <;> contradiction

/-- What is missing is fetched unless something fails before, and then nothing happens. -/
theorem fetched_acquire :
    ((∃ e, FirstFailure (sourceOf endpoints fetch cache t) (found endpoints cache t) e) →
        (acquire endpoints fetch cache t).fetched = [] ∧
          (acquire endpoints fetch cache t).tree = t) ∧
      ((∀ k ∈ found endpoints cache t, ∃ s, sourceOf endpoints fetch cache t k = .ok s) →
        (acquire endpoints fetch cache t).fetched = missing endpoints cache t) := by
  constructor
  · rintro ⟨e, hfirst⟩
    rw [acquire, (readAllKept_eq_error_iff endpoints fetch cache t e).mpr hfirst]
    exact ⟨rfl, rfl⟩
  · intro hall
    rcases exists_mapM_eq_ok _ _ hall with ⟨results, hfound⟩
    rw [acquire, toFetch_eq]
    cases hkept : readAllKept cache t endpoints with
    | error e =>
        rw [readAllKept_eq_error_iff endpoints fetch cache t, ← mapM_eq_error_iff, hfound] at hkept
        contradiction
    | ok kept => rfl

/-- No endpoint fails for being incomplete. -/
theorem sourceOf_ne_incomplete (e : String) (l : List String) :
    sourceOf endpoints fetch cache t e ≠ .error (.incomplete l) := by
  have hspelled : ∀ text, spelled e text ≠ .error (.incomplete l) := by
    intro text h
    rw [spelled] at h
    cases hparse : Api.parseSource text with
    | error fault =>
        rw [hparse] at h
        exact absurd h nofun
    | ok s =>
        rw [hparse] at h
        contradiction
  intro h
  rw [sourceOf] at h
  split at h
  · split at h
    · exact hspelled _ h
    · exact absurd h nofun
  · split at h
    · exact hspelled _ h
    · exact absurd h nofun

/-- What would be answered for an endpoint that is not missing makes no difference. -/
theorem fetchAll_congr (fetch' : Fetcher) (fetched : List String)
    (hsame : ∀ e ∈ fetched, ∀ t, fetch' t e = fetch t e) :
    fetchAll fetch' cache t fetched = fetchAll fetch cache t fetched := by
  induction fetched generalizing t with
  | nil => rfl
  | cons e rest ih =>
      have hone : fetchOne fetch' cache t e = fetchOne fetch cache t e := by
        rw [fetchOne, fetchOne, hsame e List.mem_cons_self t]
      have hrest := ih (fetchOne fetch cache t e).1
        fun e he => hsame e (List.mem_cons_of_mem _ he)
      simp only [fetchAll, hone, hrest]

theorem acquire_congr (fetch' : Fetcher)
    (hsame : ∀ e ∈ missing endpoints cache t, ∀ t, fetch' t e = fetch t e) :
    acquire endpoints fetch' cache t = acquire endpoints fetch cache t := by
  simp only [acquire, toFetch_eq, fetchAll_congr fetch cache t fetch' _ hsame]

end Outcome

end Acquisition

end Typings
