import Typings.Table
import Mathlib.Data.List.Basic

/-!
# Looking Up in Tables

What a table answers after something was put into it, and what a table holds
that was filled entry by entry. The last entry of a name decides its value, so
where no name occurs twice the entries are the table, in whatever order they
came.

## Main definitions

* `lastOf?`: The last value of a key among entries.

## Theorems

* `lookup_replace`, `lookup_append_new`, `lookup_filter_ne`: A key among entries
  after a change.
* `lookup_eq_some_iff_mem`: A key among entries that repeat none.
* `lastOf?_append`, `lastOf?_swap`, `lastOf?_eq_none_iff`,
  `lastOf?_eq_some_iff`: What came last.
* `contains_iff_isSome_get?`, `contains_iff_mem_keys`: A name is contained if it
  has a value.
* `get?_put`, `get?_erase`: A name put has its new value and a name taken out has
  none, and every other name has its old one.
* `get?_ofList`: The last entry of a name decides its value.
* `mem_of_get?_ofList`: Every value comes from an entry.
* `size_foldl_put`: Without repeated names, there are as many names as
  entries.
* `get?_ofList_of_perm`: Without repeated names, the order of entries does not
  matter.
-/

namespace Typings

/-! ### Entries -/

/-- The last value of a key among entries. -/
def lastOf? {κ α : Type} [BEq κ] (entries : List (κ × α)) (key : κ) : Option α :=
  entries.reverse.lookup key

section Entries

variable {κ α : Type} [DecidableEq κ]

/-- Replacing the values of a key that does not occur changes nothing. -/
theorem map_replace_of_not_mem (entries : List (κ × α)) (key : κ) (value : α)
    (hnot : ¬ entries.any (fun entry => entry.1 = key) = true) :
    entries.map (fun entry => if entry.1 = key then (key, value) else entry) = entries := by
  rw [List.map_congr_left (g := id) ?_, List.map_id]
  intro entry hentry
  rw [if_neg, id]
  intro hkey
  exact hnot (List.any_eq_true.mpr ⟨entry, hentry, decide_eq_true hkey⟩)

variable [BEq κ] [LawfulBEq κ]

/-- A key occurs among entries if it has a value there. -/
theorem any_eq_isSome_lookup (entries : List (κ × α)) (key : κ) :
    (entries.any fun entry => entry.1 = key) = (entries.lookup key).isSome := by
  induction entries with
  | nil => rfl
  | cons entry rest ih =>
      rcases entry with ⟨other, value⟩
      rw [List.any_cons, List.lookup_cons, ih]
      by_cases hkey : other = key
      · simp only [hkey, decide_true, Bool.true_or, BEq.rfl, Option.isSome_some]
      · have hbeq : (key == other) = false := beq_eq_false_iff_ne.mpr (Ne.symm hkey)
        simp only [hkey, decide_false, Bool.false_or, hbeq]

/-- Replacing the values of a key that occurs. -/
theorem lookup_replace (entries : List (κ × α)) (key other : κ) (value : α)
    (hmem : entries.any (fun entry => entry.1 = key) = true) :
    (entries.map fun entry => if entry.1 = key then (key, value) else entry).lookup other =
      if other = key then some value else entries.lookup other := by
  induction entries with
  | nil => exact absurd hmem (by simp only [List.any_nil, Bool.false_eq_true, not_false_eq_true])
  | cons entry rest ih =>
      rcases entry with ⟨first, old⟩
      rw [List.map_cons, List.lookup_cons]
      by_cases hfirst : first = key
      · rw [if_pos hfirst, List.lookup_cons, hfirst]
        by_cases hother : other = key
        · simp only [hother, BEq.rfl, if_true]
        · have hbeq : (other == key) = false := beq_eq_false_iff_ne.mpr hother
          simp only [hbeq, if_false, hother]
          -- The rest may or may not have the key; it does not matter.
          by_cases hrest : rest.any (fun entry => entry.1 = key) = true
          · rw [ih hrest, if_neg hother]
          · rw [map_replace_of_not_mem rest key value hrest]
      · have hrest : rest.any (fun entry => entry.1 = key) = true := by
          simpa only [List.any_cons, hfirst, decide_false, Bool.false_or] using hmem
        rw [if_neg hfirst, List.lookup_cons, ih hrest]
        by_cases hother : other = first
        · have hne : other ≠ key := fun h => hfirst (hother ▸ h)
          simp only [hother, BEq.rfl, hother ▸ hne, if_false]
        · have hbeq : (other == first) = false := beq_eq_false_iff_ne.mpr hother
          simp only [hbeq]

/-- Adding a key that does not occur. -/
theorem lookup_append_new (entries : List (κ × α)) (key other : κ) (value : α)
    (hnew : entries.lookup key = none) :
    (entries ++ [(key, value)]).lookup other =
      if other = key then some value else entries.lookup other := by
  rw [List.lookup_append, List.lookup_cons, List.lookup_nil]
  by_cases hother : other = key
  · simp only [hother, hnew, BEq.rfl, if_true, Option.none_or]
  · have hbeq : (other == key) = false := beq_eq_false_iff_ne.mpr hother
    simp only [hbeq, if_false, hother, Option.or_none]

omit [DecidableEq κ] [LawfulBEq κ] in
theorem lastOf?_append (entries others : List (κ × α)) (key : κ) :
    lastOf? (entries ++ others) key = (lastOf? others key).or (lastOf? entries key) := by
  rw [lastOf?, List.reverse_append, List.lookup_append]
  rfl

theorem lastOf?_singleton (key other : κ) (value : α) :
    lastOf? [(key, value)] other = if other = key then some value else none := by
  rw [lastOf?, List.reverse_singleton, List.lookup_cons]
  by_cases hother : other = key
  · rw [if_pos hother, hother, BEq.rfl]
  · rw [if_neg hother, beq_eq_false_iff_ne.mpr hother]
    rfl

theorem lastOf?_cons (entry : κ × α) (rest : List (κ × α)) (key : κ) :
    lastOf? (entry :: rest) key =
      (lastOf? rest key).or (if key = entry.1 then some entry.2 else none) := by
  rw [← List.singleton_append, lastOf?_append, lastOf?_singleton]

/-- The order of two different keys does not show in what came last. -/
theorem lastOf?_swap (entries others : List (κ × α)) (key key' other : κ) (value value' : α)
    (hne : key ≠ key') :
    lastOf? (entries ++ [(key, value), (key', value')] ++ others) other =
      lastOf? (entries ++ [(key', value'), (key, value)] ++ others) other := by
  -- The two entries are told apart by their keys, so neither hides the other.
  have hpair : lastOf? [(key, value), (key', value')] other =
      lastOf? [(key', value'), (key, value)] other := by
    have hsplit := lastOf?_append [(key, value)] [(key', value')] other
    have hsplit' := lastOf?_append [(key', value')] [(key, value)] other
    rw [lastOf?_singleton, lastOf?_singleton] at hsplit hsplit'
    rw [List.singleton_append] at hsplit hsplit'
    rw [hsplit, hsplit']
    by_cases hother : other = key
    · rw [if_pos hother, if_neg (hother ▸ hne)]
      rfl
    · rw [if_neg hother, Option.or_none, Option.none_or]
  rw [lastOf?_append, lastOf?_append, lastOf?_append, lastOf?_append, hpair]

/-- Taking a key out leaves the other keys alone. -/
theorem lookup_filter_ne (entries : List (κ × α)) (key other : κ) :
    (entries.filter (·.1 ≠ key)).lookup other =
      if other = key then none else entries.lookup other := by
  induction entries with
  | nil => rw [List.filter_nil, List.lookup_nil, ite_self]
  | cons entry rest ih =>
      rcases entry with ⟨first, value⟩
      rw [List.filter_cons, List.lookup_cons]
      by_cases hfirst : first = key
      · rw [if_neg (by simp only [hfirst, ne_eq, not_true, decide_false, not_false_eq_true,
          Bool.false_eq_true]), ih]
        by_cases hother : other = key
        · rw [if_pos hother, if_pos hother]
        · have hbeq : (other == first) = false :=
            beq_eq_false_iff_ne.mpr fun h => hother (h.trans hfirst)
          rw [if_neg hother, if_neg hother, hbeq]
      · rw [if_pos (decide_eq_true hfirst), List.lookup_cons, ih]
        by_cases hother : other = first
        · have hne : other ≠ key := fun h => hfirst (hother.symm.trans h)
          rw [if_neg hne, if_neg hne]
        · have hbeq : (other == first) = false := beq_eq_false_iff_ne.mpr hother
          simp only [hbeq]

/-- A key has no value if it does not occur. -/
theorem lookup_eq_none_iff_not_mem (entries : List (κ × α)) (key : κ) :
    entries.lookup key = none ↔ key ∉ entries.map Prod.fst := by
  rw [← Option.isNone_iff_eq_none, ← Option.isSome_eq_false_iff, ← any_eq_isSome_lookup,
    List.any_eq_false, List.mem_map]
  constructor
  · rintro hnone ⟨entry, hentry, hkey⟩
    exact hnone entry hentry (decide_eq_true hkey)
  · intro hnone entry hentry hkey
    exact hnone ⟨entry, hentry, of_decide_eq_true hkey⟩

theorem lastOf?_eq_none_iff (entries : List (κ × α)) (key : κ) :
    lastOf? entries key = none ↔ key ∉ entries.map Prod.fst := by
  rw [lastOf?, lookup_eq_none_iff_not_mem, List.map_reverse, List.mem_reverse]

/-- What came last came. -/
theorem mem_of_lastOf? (entries : List (κ × α)) (key : κ) (value : α)
    (hlast : lastOf? entries key = some value) : (key, value) ∈ entries := by
  induction entries with
  | nil => contradiction
  | cons entry rest ih =>
      rw [lastOf?_cons] at hlast
      cases hrest : lastOf? rest key with
      | some later =>
          rw [hrest, Option.some_or] at hlast
          exact List.mem_cons_of_mem _ (ih (hrest.trans hlast))
      | none =>
          rw [hrest, Option.none_or] at hlast
          by_cases hkey : key = entry.1
          · rw [if_pos hkey, Option.some_inj] at hlast
            rw [hkey, ← hlast]
            exact List.mem_cons_self
          · rw [if_neg hkey] at hlast
            contradiction

/-- Where no key is repeated, what came is what came last. -/
theorem lastOf?_eq_some_iff (entries : List (κ × α)) (key : κ) (value : α)
    (hnodup : (entries.map Prod.fst).Nodup) :
    lastOf? entries key = some value ↔ (key, value) ∈ entries := by
  refine ⟨mem_of_lastOf? entries key value, fun hmem => ?_⟩
  induction entries with
  | nil => exact absurd hmem List.not_mem_nil
  | cons entry rest ih =>
      rw [List.map_cons, List.nodup_cons] at hnodup
      rw [lastOf?_cons]
      rcases List.mem_cons.mp hmem with rfl | hrest
      · rw [(lastOf?_eq_none_iff rest key).mpr hnodup.1, Option.none_or, if_pos rfl]
      · rw [ih hnodup.2 hrest, Option.some_or]

/-- Where no key is repeated, what is found is what is among the entries. -/
theorem lookup_eq_some_iff_mem (entries : List (κ × α)) (key : κ) (value : α)
    (hnodup : (entries.map Prod.fst).Nodup) :
    entries.lookup key = some value ↔ (key, value) ∈ entries := by
  rw [← List.mem_reverse, ← lastOf?_eq_some_iff, lastOf?, List.reverse_reverse]
  exact ((List.reverse_perm entries).map Prod.fst).nodup_iff.mpr hnodup

end Entries

namespace Table

variable {α : Type}

theorem get?_empty (name : String) : (empty : Table α).get? name = none := rfl

theorem contains_iff_isSome_get? (t : Table α) (name : String) :
    t.contains name = (t.get? name).isSome :=
  any_eq_isSome_lookup t.entries name

theorem contains_iff_mem_keys (t : Table α) (name : String) :
    t.contains name = true ↔ name ∈ t.keys := by
  rw [contains, keys, List.any_eq_true, List.mem_map]
  simp only [decide_eq_true_eq]

theorem get?_put (t : Table α) (name other : String) (value : α) :
    (t.put name value).get? other = if other = name then some value else t.get? other := by
  by_cases hmem : t.contains name = true
  · rw [put, if_pos hmem]
    exact lookup_replace t.entries name other value hmem
  · rw [put, if_neg hmem]
    rw [contains_iff_isSome_get?, Bool.not_eq_true, Option.isSome_eq_false_iff,
      Option.isNone_iff_eq_none] at hmem
    exact lookup_append_new t.entries name other value hmem

theorem get?_erase (t : Table α) (name other : String) :
    (t.erase name).get? other = if other = name then none else t.get? other := by
  rw [get?, get?, erase]
  exact lookup_filter_ne t.entries name other

theorem contains_put (t : Table α) (name other : String) (value : α) :
    (t.put name value).contains other = (decide (other = name) || t.contains other) := by
  rw [contains_iff_isSome_get?, contains_iff_isSome_get?, get?_put]
  by_cases hother : other = name
  · simp only [hother, if_true, Option.isSome_some, decide_true, Bool.true_or]
  · simp only [hother, if_false, decide_false, Bool.false_or]

theorem size_put_of_not_contains (t : Table α) (name : String) (value : α)
    (hnew : t.contains name = false) : (t.put name value).size = t.size + 1 := by
  simp only [put, hnew, Bool.false_eq_true, if_false, size, List.length_append, List.length_cons,
    List.length_nil]

/-- Putting the first of several entries without repeated names leaves the
    others new. -/
theorem not_contains_put_of_nodup (entry : String × α) (rest : List (String × α)) (t : Table α)
    (hfresh : entry.1 ∉ rest.map Prod.fst)
    (hnew : ∀ e ∈ entry :: rest, t.contains e.1 = false) :
    ∀ e ∈ rest, (t.put entry.1 entry.2).contains e.1 = false := by
  intro e he
  have hne : e.1 ≠ entry.1 := fun h => hfresh (h ▸ List.mem_map_of_mem he)
  rw [contains_put, hnew e (List.mem_cons_of_mem _ he), decide_eq_false hne, Bool.or_false]

/-- The last entry of a name decides its value. -/
theorem get?_foldl_put (entries : List (String × α)) (t : Table α) (name : String) :
    (entries.foldl (fun t entry => t.put entry.1 entry.2) t).get? name =
      (lastOf? entries name).or (t.get? name) := by
  induction entries generalizing t with
  | nil => exact (Option.none_or ..).symm
  | cons entry rest ih =>
      rw [List.foldl_cons, ih, lastOf?_cons, get?_put, Option.or_assoc]
      by_cases hname : name = entry.1
      · rw [if_pos hname, if_pos hname, Option.some_or]
      · rw [if_neg hname, if_neg hname, Option.none_or]

/-- The values of a table are what came last. -/
theorem get?_ofList (entries : List (String × α)) (name : String) :
    (ofList entries).get? name = lastOf? entries name := by
  rw [ofList, get?_foldl_put, get?_empty, Option.or_none]

theorem mem_of_get?_ofList (entries : List (String × α)) (name : String) (value : α)
    (hget : (ofList entries).get? name = some value) : (name, value) ∈ entries :=
  mem_of_lastOf? entries name value ((get?_ofList entries name).symm.trans hget)

theorem size_foldl_put (entries : List (String × α)) (t : Table α)
    (hnodup : (entries.map Prod.fst).Nodup)
    (hnew : ∀ entry ∈ entries, t.contains entry.1 = false) :
    (entries.foldl (fun t entry => t.put entry.1 entry.2) t).size = t.size + entries.length := by
  induction entries generalizing t with
  | nil => simp only [List.foldl_nil, List.length_nil, Nat.add_zero]
  | cons entry rest ih =>
      rw [List.map_cons, List.nodup_cons] at hnodup
      -- What is put leaves the names of the rest as new as they were.
      have hnew' := not_contains_put_of_nodup entry rest t hnodup.1 hnew
      rw [List.foldl_cons, ih _ hnodup.2 hnew',
        size_put_of_not_contains t entry.1 entry.2 (hnew entry List.mem_cons_self),
        List.length_cons]
      omega

/-- Without repeated names the order of the entries is not seen by looking up. -/
theorem get?_ofList_of_perm (first second : List (String × α)) (hperm : first.Perm second)
    (hnodup : (first.map Prod.fst).Nodup) : (ofList first).get? = (ofList second).get? := by
  have hnodup' : (second.map Prod.fst).Nodup := (hperm.map Prod.fst).nodup_iff.mp hnodup
  -- Both tables answer what is among their entries, and these are the same.
  funext name
  refine Option.ext fun value => ?_
  rw [get?_ofList, get?_ofList, lastOf?_eq_some_iff _ _ _ hnodup, lastOf?_eq_some_iff _ _ _ hnodup',
    hperm.mem_iff]

theorem size_ofList (entries : List (String × α)) (hnodup : (entries.map Prod.fst).Nodup) :
    (ofList entries).size = entries.length := by
  have hsize := size_foldl_put entries empty hnodup fun _ _ => rfl
  have hempty : (empty : Table α).size = 0 := rfl
  rwa [hempty, Nat.zero_add] at hsize

end Table

end Typings
