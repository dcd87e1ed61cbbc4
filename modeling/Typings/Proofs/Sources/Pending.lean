import Typings.Proofs.Requirements
import Typings.Sources.Pending
import Mathlib.Data.List.Induction

/-!
# When Awaited Sources Are Complete

Sources come in any order, more than once, and also without having been asked for. What
counts in the end is the history of what came: for every endpoint that is awaited the last
source that came for it, and nothing else. So the order in which sources for different
endpoints come does not matter, and neither does what comes unasked.

Each endpoint is awaited once, however often it is listed. Only for that reason can
sources be handed out one by one: the source of an endpoint that came up twice would be
gone the second time.

## Main definitions

* `Pending.Alike`: The same is awaited, and the same is there.

## Theorems

* `Pending.handOut_eq_filterMap`: Where no endpoint is awaited twice, no source is missed.
* `Pending.finish_eq_ok_iff`, `Pending.finish_eq_error_iff`: What comes out at the end.
* `Pending.get?_deliverAll`: What is there after a history.
* `Pending.alike_deliverAll`: Histories that end the same for every endpoint are alike.
* `Pending.finish_deliverAll`: What comes out after a history.
-/

namespace Typings

open Api (Source)

/-- A list has exactly the values of the members of another one if each of those has one. -/
theorem map_some_eq_map_iff {α β : Type} (value? : α → Option β) (l : List α) (values : List β) :
    values.map some = l.map value? ↔
      (∀ a ∈ l, (value? a).isSome = true) ∧ values = l.filterMap value? := by
  constructor
  · intro h
    have hsome : ∀ o ∈ l.map value?, o.isSome = true := by
      intro o ho
      rw [← h] at ho
      rcases List.mem_map.mp ho with ⟨_, _, rfl⟩
      rfl
    have hvalues := congrArg (List.filterMap id) h
    rw [List.filterMap_map, List.filterMap_map] at hvalues
    exact ⟨fun a ha => hsome _ (List.mem_map_of_mem ha), by
      rw [← List.filterMap_some (l := values)]; exact hvalues⟩
  · rintro ⟨hsome, rfl⟩
    induction l with
    | nil => rfl
    | cons a rest ih =>
        rcases Option.isSome_iff_exists.mp (hsome a List.mem_cons_self) with ⟨b, hb⟩
        rw [List.filterMap_cons_some hb, List.map_cons, List.map_cons, hb,
          ih fun a ha => hsome a (List.mem_cons_of_mem _ ha)]

namespace Pending

/-- The same is awaited, and the same is there, whatever came first. -/
structure Alike (p q : Pending) : Prop where
  endpoints : p.endpoints = q.endpoints
  delivered : p.delivered.get? = q.delivered.get?

section HandOut

/-- What is handed out depends on what is there, and not on what came first. -/
theorem handOut_congr (endpoints : List String) (t t' : Table Source) (h : t.get? = t'.get?) :
    handOut endpoints t = handOut endpoints t' := by
  induction endpoints generalizing t t' with
  | nil => rfl
  | cons e rest ih =>
      -- Tables that look alike look alike without what was handed out.
      have herase : (t.erase e).get? = (t'.erase e).get? := by
        funext other
        rw [Table.get?_erase, Table.get?_erase, h]
      rw [handOut, handOut, h]
      cases t'.get? e with
      | none => exact ih t t' h
      | some s => exact congrArg (s :: ·) (ih _ _ herase)

/-- Where no endpoint is awaited twice, its source is still there when its turn comes. -/
theorem handOut_eq_filterMap (endpoints : List String) (hnodup : endpoints.Nodup)
    (t : Table Source) : handOut endpoints t = endpoints.filterMap t.get? := by
  induction endpoints generalizing t with
  | nil => rfl
  | cons e rest ih =>
      rcases List.nodup_cons.mp hnodup with ⟨hfresh, hrest⟩
      rw [handOut]
      cases hget : t.get? e with
      | none => rw [List.filterMap_cons_none hget]; exact ih hrest t
      | some s =>
          -- No other endpoint is the one whose source was handed out.
          have hothers : rest.filterMap (t.erase e).get? = rest.filterMap t.get? := by
            refine List.filterMap_congr fun other hother => ?_
            have hne : other ≠ e := fun h => hfresh (h ▸ hother)
            rw [Table.get?_erase, if_neg hne]
          rw [List.filterMap_cons_some hget, ← hothers]
          exact congrArg (s :: ·) (ih hrest (t.erase e))

end HandOut

section Finish

variable (p q : Pending)

theorem mem_missing_iff (e : String) :
    e ∈ p.missing ↔ e ∈ p.endpoints ∧ (p.delivered.get? e).isSome = false := by
  rw [missing, List.mem_filter, Bool.not_eq_true', Table.contains_iff_isSome_get?]

theorem isComplete_iff :
    p.isComplete = true ↔ ∀ e ∈ p.endpoints, (p.delivered.get? e).isSome = true := by
  rw [isComplete, List.isEmpty_iff, List.eq_nil_iff_forall_not_mem]
  refine forall_congr' fun e => ?_
  rw [mem_missing_iff, not_and, Bool.not_eq_false]

/-- All sources come out, in the order of their endpoints, if there is one for each. -/
theorem finish_eq_ok_iff (hnodup : p.endpoints.Nodup) (sources : List Source) :
    p.finish = .ok sources ↔ sources.map some = p.endpoints.map p.delivered.get? := by
  rw [map_some_eq_map_iff, ← isComplete_iff, finish, handOut_eq_filterMap p.endpoints hnodup]
  by_cases hcomplete : p.isComplete = true
  · rw [if_pos hcomplete, Except.ok.injEq]
    exact ⟨fun h => ⟨hcomplete, h.symm⟩, fun h => h.2.symm⟩
  · rw [if_neg hcomplete]
    exact ⟨nofun, fun h => absurd h.1 hcomplete⟩

/-- Otherwise those endpoints come out that nothing came for. -/
theorem finish_eq_error_iff (endpoints : List String) :
    p.finish = .error endpoints ↔ p.missing = endpoints ∧ endpoints ≠ [] := by
  rw [finish, isComplete]
  by_cases hmissing : p.missing = []
  · have hcomplete : p.missing.isEmpty = true := List.isEmpty_iff.mpr hmissing
    rw [if_pos hcomplete, hmissing]
    exact ⟨nofun, fun h => absurd h.1.symm h.2⟩
  · rw [if_neg (by rwa [List.isEmpty_iff]), Except.error.injEq]
    exact ⟨fun h => ⟨h, h ▸ hmissing⟩, And.left⟩

theorem Alike.missing_eq {p q : Pending} (h : p.Alike q) : p.missing = q.missing := by
  rw [missing, missing, h.endpoints]
  refine List.filter_congr fun e _ => ?_
  rw [Table.contains_iff_isSome_get?, Table.contains_iff_isSome_get?, h.delivered]

/-- What comes out at the end is what is there, and not what came first. -/
theorem Alike.finish_eq {p q : Pending} (h : p.Alike q) : p.finish = q.finish := by
  rw [finish, finish, isComplete, isComplete, h.missing_eq, h.endpoints,
    handOut_congr q.endpoints _ _ h.delivered]

end Finish

section Histories

variable (p : Pending) (deliveries others : List (String × Source))

/-- What was not asked for changes nothing. -/
theorem deliver_of_not_mem (e : String) (s : Source) (he : e ∉ p.endpoints) :
    p.deliver e s = p := by
  rw [deliver, if_neg (by rwa [List.contains_iff_mem])]

theorem endpoints_deliver (e : String) (s : Source) :
    (p.deliver e s).endpoints = p.endpoints := by
  by_cases he : e ∈ p.endpoints
  · rw [deliver, if_pos (List.contains_iff_mem.mpr he)]
  · rw [deliver_of_not_mem p e s he]

/-- A source replaces what came before for its endpoint, and nothing else. -/
theorem get?_deliver (e other : String) (s : Source) (he : e ∈ p.endpoints) :
    (p.deliver e s).delivered.get? other =
      if other = e then some s else p.delivered.get? other := by
  rw [deliver, if_pos (List.contains_iff_mem.mpr he)]
  exact Table.get?_put p.delivered e other s

theorem deliverAll_concat (e : String) (s : Source) :
    p.deliverAll (deliveries ++ [(e, s)]) = (p.deliverAll deliveries).deliver e s :=
  List.foldl_concat ..

theorem deliverAll_append :
    p.deliverAll (deliveries ++ others) = (p.deliverAll deliveries).deliverAll others :=
  List.foldl_append

theorem endpoints_deliverAll : (p.deliverAll deliveries).endpoints = p.endpoints := by
  induction deliveries using List.reverseRecOn with
  | nil => rfl
  | append_singleton deliveries d ih => rw [deliverAll_concat, endpoints_deliver, ih]

/-- After a history the last source is there for every endpoint that is awaited, and what
    was there before for every other one. -/
theorem get?_deliverAll (e : String) :
    (p.deliverAll deliveries).delivered.get? e =
      if e ∈ p.endpoints then (lastOf? deliveries e).or (p.delivered.get? e)
      else p.delivered.get? e := by
  induction deliveries using List.reverseRecOn with
  | nil => exact (ite_self _).symm
  | append_singleton deliveries d ih =>
      rw [deliverAll_concat, lastOf?_append, lastOf?_singleton]
      -- Only what is awaited is taken, and then it is the last for its endpoint.
      by_cases hasked : d.1 ∈ p.endpoints
      · rw [get?_deliver _ _ _ _ ((endpoints_deliverAll p deliveries).symm ▸ hasked), ih]
        by_cases he : e = d.1
        · rw [if_pos he, if_pos (he ▸ hasked), if_pos he, Option.some_or, Option.some_or]
        · rw [if_neg he, if_neg he, Option.none_or]
      · rw [deliver_of_not_mem _ _ _ ((endpoints_deliverAll p deliveries).symm ▸ hasked), ih]
        by_cases he : e = d.1
        · rw [if_neg (he ▸ hasked), if_neg (he ▸ hasked)]
        · rw [if_neg he, Option.none_or]

/-- Histories that end the same for every endpoint that is awaited are alike. -/
theorem alike_deliverAll (h : ∀ e ∈ p.endpoints, lastOf? deliveries e = lastOf? others e) :
    (p.deliverAll deliveries).Alike (p.deliverAll others) := by
  refine ⟨?_, ?_⟩
  · rw [endpoints_deliverAll, endpoints_deliverAll]
  · funext e
    rw [get?_deliverAll, get?_deliverAll]
    by_cases he : e ∈ p.endpoints
    · rw [h e he]
    · rw [if_neg he, if_neg he]

end Histories

section Awaiting

variable (endpoints : List String) (deliveries : List (String × Source))

/-- Every endpoint is awaited once, where it is listed first. -/
theorem endpoints_ofEndpoints : (ofEndpoints endpoints).endpoints = endpoints.eraseDups :=
  addAllNew_nil endpoints

theorem nodup_ofEndpoints : (ofEndpoints endpoints).endpoints.Nodup :=
  nodup_addAllNew [] endpoints List.nodup_nil

theorem get?_deliverAll_ofEndpoints (e : String) (he : e ∈ endpoints) :
    ((ofEndpoints endpoints).deliverAll deliveries).delivered.get? e = lastOf? deliveries e := by
  have hasked : e ∈ (ofEndpoints endpoints).endpoints := by
    rwa [endpoints_ofEndpoints, List.mem_eraseDups]
  rw [get?_deliverAll, if_pos hasked]
  exact Option.or_none

/-- What is missing after a history is what does not occur in it. -/
theorem missing_deliverAll :
    ((ofEndpoints endpoints).deliverAll deliveries).missing =
      endpoints.eraseDups.filter (· ∉ deliveries.map Prod.fst) := by
  rw [missing, endpoints_deliverAll, endpoints_ofEndpoints]
  refine List.filter_congr fun e he => ?_
  rw [Table.contains_iff_isSome_get?,
    get?_deliverAll_ofEndpoints endpoints deliveries e (List.mem_eraseDups.mp he),
    Bool.eq_iff_iff, decide_eq_true_eq, Bool.not_eq_true', Option.isSome_eq_false_iff,
    Option.isNone_iff_eq_none, lastOf?_eq_none_iff]

/-- Sources come out if they are the last ones that came, one for each endpoint. -/
theorem finish_deliverAll_eq_ok_iff (sources : List Source) :
    ((ofEndpoints endpoints).deliverAll deliveries).finish = .ok sources ↔
      sources.map some = endpoints.eraseDups.map (lastOf? deliveries) := by
  -- Every endpoint is awaited once, so no source is handed out to another in its place.
  have hendpoints := endpoints_deliverAll (ofEndpoints endpoints) deliveries
  rw [finish_eq_ok_iff _ (hendpoints.symm ▸ nodup_ofEndpoints endpoints), hendpoints,
    endpoints_ofEndpoints, List.map_congr_left fun e he =>
      get?_deliverAll_ofEndpoints endpoints deliveries e (List.mem_eraseDups.mp he)]

/-- Sources come out exactly if one came for each endpoint. -/
theorem exists_finish_deliverAll_iff :
    (∃ sources, ((ofEndpoints endpoints).deliverAll deliveries).finish = .ok sources) ↔
      ∀ e ∈ endpoints, e ∈ deliveries.map Prod.fst := by
  -- Something came last exactly if something came.
  have hcame : ∀ e, (lastOf? deliveries e).isSome = true ↔ e ∈ deliveries.map Prod.fst := by
    intro e
    rw [← not_iff_not, ← lastOf?_eq_none_iff, Bool.not_eq_true, Option.isSome_eq_false_iff,
      Option.isNone_iff_eq_none]
  simp only [finish_deliverAll_eq_ok_iff, map_some_eq_map_iff, List.mem_eraseDups, hcame]
  exact ⟨fun ⟨_, h, _⟩ => h, fun h => ⟨_, h, rfl⟩⟩

/-- What comes out after a history of what came. It is one source for each endpoint, in the
    order in which the endpoints are first listed, and each is the last one that came for
    its endpoint, exactly if something came for every endpoint. Otherwise those endpoints
    come out that nothing came for, in the same order. It makes no difference in which
    order sources for two different endpoints come, and whether something comes that was
    not asked for. -/
theorem finish_deliverAll :
    ((∃ sources, ((ofEndpoints endpoints).deliverAll deliveries).finish = .ok sources) ↔
        ∀ e ∈ endpoints, e ∈ deliveries.map Prod.fst) ∧
      (∀ sources, ((ofEndpoints endpoints).deliverAll deliveries).finish = .ok sources →
        sources.map some = endpoints.eraseDups.map (lastOf? deliveries)) ∧
      (∀ missing, ((ofEndpoints endpoints).deliverAll deliveries).finish = .error missing →
        missing = endpoints.eraseDups.filter (· ∉ deliveries.map Prod.fst)) ∧
      (∀ e e' s s' later, e ≠ e' →
        ((ofEndpoints endpoints).deliverAll (deliveries ++ [(e, s), (e', s')] ++ later)).Alike
            ((ofEndpoints endpoints).deliverAll (deliveries ++ [(e', s'), (e, s)] ++ later)) ∧
          ((ofEndpoints endpoints).deliverAll (deliveries ++ [(e, s), (e', s')] ++ later)).finish =
            ((ofEndpoints endpoints).deliverAll
              (deliveries ++ [(e', s'), (e, s)] ++ later)).finish) ∧
      ∀ e s later, e ∉ endpoints →
        (ofEndpoints endpoints).deliverAll (deliveries ++ [(e, s)] ++ later) =
          (ofEndpoints endpoints).deliverAll (deliveries ++ later) := by
  refine ⟨exists_finish_deliverAll_iff endpoints deliveries, ?_, ?_, ?_, ?_⟩
  · intro sources hok
    exact (finish_deliverAll_eq_ok_iff endpoints deliveries sources).mp hok
  · intro missing herror
    rw [← missing_deliverAll]
    exact ((finish_eq_error_iff _ missing).mp herror).1.symm
  · intro e e' s s' later hne
    have halike := alike_deliverAll (ofEndpoints endpoints) _ _ fun other _ =>
      lastOf?_swap deliveries later e e' other s s' hne
    exact ⟨halike, halike.finish_eq⟩
  · intro e s later he
    -- What has come so far does not change what is awaited.
    have hunasked : e ∉ ((ofEndpoints endpoints).deliverAll deliveries).endpoints := by
      rwa [endpoints_deliverAll, endpoints_ofEndpoints, List.mem_eraseDups]
    rw [deliverAll_append, deliverAll_concat, deliver_of_not_mem _ e s hunasked,
      deliverAll_append]

end Awaiting

/-- What comes while two libraries are awaited, one of which is listed twice. One source
    was not asked for, and another is replaced. -/
def lateDeliveries : List (String × Source) :=
  [("m", { library := "early" }), ("x", { library := "unasked" }), ("c", { library := "core" }),
   ("m", { library := "late" })]

/-- The replaced source is not among those that come out, and what was not asked for can be
    left out. -/
theorem finish_lateDeliveries :
    (∀ e ∈ ["c", "m", "c"], e ∈ lateDeliveries.map Prod.fst) ∧
      ((ofEndpoints ["c", "m", "c"]).deliverAll lateDeliveries).finish =
        .ok [{ library := "core" }, { library := "late" }] ∧
      "x" ∉ ["c", "m", "c"] ∧
      (ofEndpoints ["c", "m", "c"]).deliverAll lateDeliveries =
        (ofEndpoints ["c", "m", "c"]).deliverAll
          (lateDeliveries.take 1 ++ lateDeliveries.drop 2) := by
  have hall : ∀ e ∈ ["c", "m", "c"], e ∈ lateDeliveries.map Prod.fst := by decide
  have hunasked : "x" ∉ ["c", "m", "c"] := by decide
  rcases finish_deliverAll ["c", "m", "c"] lateDeliveries with ⟨hiff, hsources, _⟩
  rcases hiff.mpr hall with ⟨sources, hok⟩
  refine ⟨hall, ?_, hunasked, ?_⟩
  · have hlast : ["c", "m", "c"].eraseDups.map (lastOf? lateDeliveries) =
        [{ library := "core" }, { library := "late" }].map some := rfl
    rw [hok, (List.map_inj_right fun _ _ => Option.some.inj).mp
      ((hsources sources hok).trans hlast)]
  · exact (finish_deliverAll ["c", "m", "c"] (lateDeliveries.take 1)).2.2.2.2 "x"
      { library := "unasked" } (lateDeliveries.drop 2) hunasked

end Pending

end Typings
