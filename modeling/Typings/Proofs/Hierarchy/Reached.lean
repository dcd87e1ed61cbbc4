import Typings.Proofs.Hierarchy.Visits

/-!
# What Changes Can Lead To

A hierarchy begins without classes. It grows by classes that have no links yet,
single classes are linked and linked anew, to any class and as often as one
likes, and all classes are linked to their declared bases. Whatever comes of
that, the two sides of every link agree, since each change by itself leaves them
so.

Linking all classes takes every class that has a provider from wherever it is
and puts it behind the children of its base. So the children of a class are
those that only single links brought there, followed by those that declare it as
their base, in the order of their places. Doing it again takes the latter away
and puts them back one after the other, which is why nothing changes, not even
the order of children (`Consistent.link_link`).

## Main definitions

* `Hierarchy.Reached`: The hierarchies that changes can lead to.
* `Hierarchy.providerAt?`: The place of the class that provides the declared base
  of the class at a place.

## Theorems

* `Hierarchy.Consistent.childIds_setBase`: What a link does to child lists.
* `Hierarchy.Consistent.childIds_link`: The child lists of a linked hierarchy.
* `Hierarchy.Consistent.link_link`: Linking twice is linking once.
* `Hierarchy.Reached.consistent`: The two sides of every link agree.
* `Hierarchy.ofSources_induction`: What adding a class keeps holds of the classes of
  sources.
* `Hierarchy.links_agree_of_reached`: The same, for each class, and that linking
  again changes nothing.
-/

namespace Typings

namespace Hierarchy

/-- The hierarchies that changes can lead to. -/
inductive Reached : Hierarchy → Prop where
  | empty : Reached empty
  | push (h : Hierarchy) (c : ClassModel) (hid : c.id = h.size) (hbase : c.baseId = none)
      (hchildren : c.children = []) (hh : Reached h) : Reached (h.push c)
  | setBase (h : Hierarchy) (child base : Nat) (hchild : child < h.size) (hbase : base < h.size)
      (hh : Reached h) : Reached (h.setBase child base)
  | link (h : Hierarchy) (hh : Reached h) : Reached h.link.1

/-- The place of the class that provides the declared base of the class at a
    place. -/
def providerAt? (h : Hierarchy) (i : Nat) : Option Nat :=
  (h.get? i).bind h.declaredBaseId?

/-- The hierarchy without classes has no links that could disagree. -/
theorem consistent_empty : empty.Consistent := by
  have hnone : ∀ i, empty.get? i = none := fun i => get?_eq_none empty i (Nat.zero_le i)
  refine ⟨?_, ?_, ?_, ?_⟩
  · intro i c hget
    rw [hnone] at hget
    contradiction
  · intro i c hget
    rw [hnone] at hget
    contradiction
  · intro i c hget
    rw [hnone] at hget
    contradiction
  · intro i b hbase
    exact absurd (lt_size_of_baseId? empty i b hbase) (Nat.not_lt_zero i)

/-- Every change leaves the two sides of all links in agreement. -/
theorem Reached.consistent {h : Hierarchy} (hr : h.Reached) : h.Consistent := by
  induction hr with
  | empty => exact consistent_empty
  | push h c hid hbase hchildren _ ih => exact ih.push c hid hbase hchildren
  | setBase h child base hchild hbase _ ih => exact ih.setBase child base hchild hbase
  | link h _ ih => exact ih.link

/-- The classes of sources are added one after the other, so what holds without
    classes and is kept by every class that is added holds of all of them. -/
theorem ofSources_induction {motive : Hierarchy → Prop} (r : Resolver)
    (symbolKind : Api.SymbolKind) (kind : ClassKind) (hempty : motive empty)
    (hpush : ∀ h library s, motive h → motive (pushSymbol r kind library h s))
    (sources : List Api.Source) : motive (ofSources r symbolKind kind sources) := by
  have hsymbols : ∀ (library : String) (symbols : List Api.Symbol) (h : Hierarchy), motive h →
      motive (symbols.foldl (pushSymbol r kind library) h) := by
    intro library symbols
    induction symbols with
    | nil => exact fun h hh => hh
    | cons s rest ih => exact fun h hh => ih _ (hpush h library s hh)
  have hsources : ∀ (sources : List Api.Source) (h : Hierarchy), motive h →
      motive (sources.foldl (fun h source =>
        (source.symbols.filter (·.kind = symbolKind)).foldl (pushSymbol r kind source.library) h)
        h) := by
    intro sources
    induction sources with
    | nil => exact fun h hh => hh
    | cons source rest ih => exact fun h hh => ih _ (hsymbols source.library _ h hh)
  exact hsources sources empty hempty

theorem reached_ofSources (r : Resolver) (symbolKind : Api.SymbolKind) (kind : ClassKind)
    (sources : List Api.Source) : (ofSources r symbolKind kind sources).Reached :=
  ofSources_induction r symbolKind kind Reached.empty
    (fun h _ _ hh => Reached.push h _ rfl rfl rfl hh) sources

section Contents

variable (g h : Hierarchy)

theorem providerAt?_eq (i : Nat) :
    h.providerAt? i = (h.contents[i]?).bind h.declaredBaseId? := by
  rw [getElem?_contents, Option.bind_map]
  rfl

/-- Who provides a declared base can be read off the classes without their
    links. -/
theorem providerAt?_of_contents (hcontents : g.contents = h.contents) :
    g.providerAt? = h.providerAt? := by
  funext i
  rw [providerAt?_eq, providerAt?_eq, hcontents]
  congr 1
  funext c
  rw [declaredBaseId?, declaredBaseId?]
  congr 1
  funext base
  exact provider?_congr h g hcontents _

theorem providerAt?_eq_none (i : Nat) (hi : h.size ≤ i) : h.providerAt? i = none := by
  rw [providerAt?, get?_eq_none h i hi, Option.bind_none]

/-- A hierarchy is its classes without their links, and the links. -/
theorem eq_of_links (hcontents : g.contents = h.contents)
    (hbases : ∀ i, g.baseId? i = h.baseId? i) (hchildren : ∀ i, g.childIds i = h.childIds i) :
    g = h := by
  have hget : ∀ i, g.get? i = h.get? i := by
    intro i
    have hunlinked := congrArg (fun cs => cs[i]?) hcontents
    simp only [getElem?_contents] at hunlinked
    have hbase := hbases i
    have hchild := hchildren i
    rw [baseId?, baseId?] at hbase
    rw [childIds, childIds] at hchild
    rcases hg : g.get? i with _ | c
    · rw [hg, Option.map_none, eq_comm, Option.map_eq_none_iff] at hunlinked
      rw [hunlinked]
    · rw [hg, Option.map_some, eq_comm, Option.map_eq_some_iff] at hunlinked
      rcases hunlinked with ⟨d, hd, heq⟩
      rw [hg, hd, Option.bind_some, Option.bind_some] at hbase
      simp only [hg, hd] at hchild
      -- The classes are the same without their links, and so are the links.
      have hc : c = { c.unlinked with baseId := c.baseId, children := c.children } := rfl
      have hd' : d = { d.unlinked with baseId := d.baseId, children := d.children } := rfl
      rw [hd, Option.some_inj, hc, hd', heq, hbase, hchild]
  rcases g with ⟨g⟩
  rcases h with ⟨h⟩
  exact congrArg Hierarchy.mk (Array.ext_getElem? hget)

end Contents

namespace Consistent

variable {h : Hierarchy}

/-- A link takes the child from wherever it is and puts it behind the children of
    its base. -/
theorem childIds_setBase (hc : h.Consistent) (child base : Nat) (hbase : base < h.size)
    (i : Nat) :
    (h.setBase child base).childIds i =
      (h.childIds i).filter (· ≠ child) ++ if i = base then [child] else [] := by
  have hget := get?_setBase h child base i
  rcases hi : h.get? i with _ | c
  · have hne : i ≠ base := by
      rintro rfl
      rcases h.exists_get? i hbase with ⟨c, hsome⟩
      rw [hi] at hsome
      contradiction
    rw [hi, Option.map_none] at hget
    rw [childIds, childIds, hget, hi]
    simp only [if_neg hne, List.filter_nil, List.append_nil]
  · -- Only the former base has the child, so elsewhere nothing is taken away.
    have hstaying : (if h.baseId? child = some i then c.children.filter (· ≠ child)
        else c.children) = c.children.filter (· ≠ child) := by
      by_cases hformer : h.baseId? child = some i
      · rw [if_pos hformer]
      · rw [if_neg hformer, eq_comm, List.filter_eq_self]
        intro d hd
        rw [decide_eq_true_eq]
        exact fun heq => hformer (heq ▸ (hc.mem_children i c hi d).mp hd)
    have hnew : child ∉ c.children.filter (· ≠ child) := by
      rw [List.mem_filter, decide_eq_true_eq]
      exact fun hmem => hmem.2 rfl
    rw [hi, Option.map_some] at hget
    rw [childIds, childIds, hget, hi]
    simp only [relinked, hstaying]
    by_cases hib : i = base
    · rw [if_pos hib, if_pos hib, addNew, if_neg hnew]
    · rw [if_neg hib, if_neg hib, List.append_nil]

/-- Linking one class moves it if its declared base has a provider, and does
    nothing otherwise. -/
theorem childIds_linkOne (hc : h.Consistent) (g : Hierarchy) (hcontents : g.contents = h.contents)
    (hg : g.Consistent) (s : LinkSummary) (c : ClassModel) (hget : h.get? c.id = some c)
    (i : Nat) :
    (linkOne (g, s) c).1.childIds i =
      (g.childIds i).filter (fun d => d ≠ c.id ∨ h.providerAt? d = none) ++
        [c.id].filter (fun d => h.providerAt? d = some i) := by
  have hprovider : h.providerAt? c.id = h.declaredBaseId? c := by
    rw [providerAt?, hget, Option.bind_some]
  rcases hdeclared : h.declaredBaseId? c with _ | b
  · rw [hdeclared] at hprovider
    have hstays : (g.childIds i).filter (fun d => d ≠ c.id ∨ h.providerAt? d = none) =
        g.childIds i := by
      rw [List.filter_eq_self]
      intro d _
      rw [decide_eq_true_eq]
      by_cases hd : d = c.id
      · exact Or.inr (by rw [hd, hprovider])
      · exact Or.inl hd
    rw [linkOne_of_none h g hcontents s c hdeclared, hstays, List.filter_singleton]
    simp only [hprovider, reduceCtorEq, decide_false, cond_false, List.append_nil]
  · rw [hdeclared] at hprovider
    have hlt : b < g.size := by
      rw [size_of_contents h g hcontents]
      exact hc.lt_size_of_declaredBaseId? c b hdeclared
    have hleaves : (g.childIds i).filter (fun d => d ≠ c.id ∨ h.providerAt? d = none) =
        (g.childIds i).filter (· ≠ c.id) := by
      refine List.filter_congr fun d _ => ?_
      rw [decide_eq_decide]
      refine ⟨fun hd => hd.elim id fun hnone heq => ?_, Or.inl⟩
      rw [heq, hprovider] at hnone
      contradiction
    rw [linkOne_of_some h g hcontents s c b hdeclared, hg.childIds_setBase c.id b hlt, hleaves,
      List.filter_singleton]
    simp only [hprovider, Option.some_inj]
    by_cases hib : i = b
    · simp only [hib, if_true, decide_true, cond_true]
    · simp only [hib, Ne.symm hib, if_false, decide_false, cond_false]

/-- The child lists after linking several classes, each of which stands at its
    place in the hierarchy as it was in the beginning. -/
theorem childIds_foldl_linkOne (hc : h.Consistent) (cs : List ClassModel)
    (hids : (cs.map (·.id)).Nodup) (hmem : ∀ c ∈ cs, h.get? c.id = some c) (g : Hierarchy)
    (hcontents : g.contents = h.contents) (hg : g.Consistent) (s : LinkSummary) (i : Nat) :
    (cs.foldl linkOne (g, s)).1.childIds i =
      (g.childIds i).filter (fun d => d ∉ cs.map (·.id) ∨ h.providerAt? d = none) ++
        (cs.map (·.id)).filter (fun d => h.providerAt? d = some i) := by
  induction cs generalizing g s with
  | nil =>
      simp only [List.foldl_nil, List.map_nil, List.not_mem_nil, not_false_eq_true, true_or,
        decide_true, List.filter_true, List.filter_nil, List.append_nil]
  | cons c rest ih =>
      rw [List.map_cons, List.nodup_cons] at hids
      have hget : h.get? c.id = some c := hmem c List.mem_cons_self
      have hlt : c.id < h.size := h.lt_size_of_get? c.id c hget
      rcases hc.baseId?_linkOne g hcontents hg s c hlt with ⟨hconsistent, _⟩
      have hrest := ih hids.2 (fun d hd => hmem d (List.mem_cons_of_mem c hd))
        (linkOne (g, s) c).1 (contents_linkOne h g hcontents s c) hconsistent (linkOne (g, s) c).2
      -- The class that was just linked is not among the rest, so it stays behind the
      -- others while those are linked.
      have hkept : ([c.id].filter fun d => h.providerAt? d = some i).filter
          (fun d => d ∉ rest.map (·.id) ∨ h.providerAt? d = none) =
            [c.id].filter fun d => h.providerAt? d = some i := by
        rw [List.filter_eq_self]
        intro d hd
        rw [List.mem_singleton.mp (List.mem_of_mem_filter hd), decide_eq_true_eq]
        exact Or.inl hids.1
      have hleft : ∀ d, (d ∉ rest.map (·.id) ∨ h.providerAt? d = none) ∧
          (d ≠ c.id ∨ h.providerAt? d = none) ↔
            d ∉ c.id :: rest.map (·.id) ∨ h.providerAt? d = none := by
        intro d
        rw [List.mem_cons, not_or, ← and_or_right, and_comm (a := d ∉ _)]
      rw [List.foldl_cons, hrest, hc.childIds_linkOne g hcontents hg s c hget, List.filter_append,
        hkept, List.filter_filter, List.map_cons, List.append_assoc, ← List.filter_append,
        List.singleton_append]
      congr 1
      refine List.filter_congr fun d _ => ?_
      rw [← Bool.decide_and, decide_eq_decide, hleft]

/-- The children of a class in a linked hierarchy: those whose declared base has
    no provider, as they were, and those whose declared base it provides, in the
    order of their places. -/
theorem childIds_link (hc : h.Consistent) (i : Nat) :
    h.link.1.childIds i =
      (h.childIds i).filter (fun d => h.providerAt? d = none) ++
        (List.range h.size).filter (fun d => h.providerAt? d = some i) := by
  have hids : (h.classes.toList.map (·.id)).Nodup := by
    rw [hc.map_id_classes]
    exact List.nodup_range
  have hfold := hc.childIds_foldl_linkOne h.classes.toList hids
    (fun c hmem => (hc.mem_classes_iff c).mp hmem) h rfl hc {} i
  rw [hc.map_id_classes] at hfold
  rw [Hierarchy.link, hfold]
  congr 1
  refine List.filter_congr fun d _ => ?_
  rw [decide_eq_decide, List.mem_range, Nat.not_lt]
  exact ⟨fun hd => hd.elim (providerAt?_eq_none h d) id, Or.inr⟩

/-- Linking twice is linking once. -/
theorem link_link (hc : h.Consistent) : h.link.1.link.1 = h.link.1 := by
  have hcontents : h.link.1.contents = h.contents := contents_link h
  have hproviders : h.link.1.providerAt? = h.providerAt? :=
    providerAt?_of_contents h.link.1 h hcontents
  refine eq_of_links _ _ (contents_link h.link.1) (fun i => ?_) fun i => ?_
  · have hlink : ∀ j, h.link.1.baseId? j = (h.providerAt? j).or (h.baseId? j) := hc.baseId?_link
    have hagain : h.link.1.link.1.baseId? i = (h.link.1.providerAt? i).or (h.link.1.baseId? i) :=
      hc.link.baseId?_link i
    rw [hagain, hproviders, hlink, ← Option.or_assoc, Option.or_self]
  · -- Who was put behind the others has a provider, so none of them is among those
    -- that stay.
    have hnone : ((List.range h.size).filter fun d => h.providerAt? d = some i).filter
        (fun d => h.providerAt? d = none) = [] := by
      rw [List.filter_filter, List.filter_eq_nil_iff]
      intro d _
      rw [← Bool.decide_and, decide_eq_true_eq]
      rintro ⟨hnone, hsome⟩
      rw [hnone] at hsome
      contradiction
    rw [hc.link.childIds_link, hproviders, size_of_contents h h.link.1 hcontents,
      hc.childIds_link, List.filter_append, hnone, List.append_nil, List.filter_filter]
    simp only [Bool.and_self]

end Consistent

/-- However a hierarchy was reached, a class is among the children of another
    exactly if that one is its base, no class is a child twice, all places are
    those of classes, and linking all classes twice is linking them once. -/
theorem links_agree_of_reached (h : Hierarchy) (hr : h.Reached) :
    (∀ i j c d, h.get? i = some c → h.get? j = some d →
        (j ∈ c.children ↔ d.baseId = some i)) ∧
      (∀ i c, h.get? i = some c →
        c.id = i ∧ c.children.Nodup ∧ (∀ j ∈ c.children, j < h.size) ∧
          ∀ b, c.baseId = some b → b < h.size) ∧
      h.link.1.link.1 = h.link.1 := by
  have hc : h.Consistent := hr.consistent
  refine ⟨?_, ?_, hc.link_link⟩
  · intro i j c d hi hj
    rw [hc.mem_children i c hi, baseId?_of_get? h j d hj]
  · intro i c hi
    refine ⟨hc.id_eq i c hi, hc.nodup_children i c hi, ?_, ?_⟩
    · intro j hj
      exact h.lt_size_of_baseId? j i ((hc.mem_children i c hi j).mp hj)
    · intro b hb
      exact hc.base_lt i b ((baseId?_of_get? h i c hi).trans hb)

section Example

/-- Classes that declare a base before it, a base of its own, and none. -/
def tangledSource : Api.Source where
  library := "lib"
  symbols :=
    [{ kind := .class, name := "lib.A", base := some "lib.B",
       methods := [{ name := "foo", returnValue := some { type := "string" } }] },
     { kind := .class, name := "lib.B",
       methods := [{ name := "foo", returnValue := some { type := "number" } }] },
     { kind := .class, name := "lib.C", base := some "lib.C" },
     { kind := .class, name := "lib.D",
       methods := [{ name := "foo", returnValue := some { type := "boolean" } }] },
     { kind := .class, name := "lib.E", base := some "lib.B" }]

/-- The five classes after single links, one of them made twice and one from a
    class to itself, the links to all declared bases, and one more single link. -/
def tangledClasses : Hierarchy :=
  (((((ofSources {} .class .class [tangledSource]).setBase 3 1).setBase 3 1).setBase 1 1).link.1
    ).setBase 1 2

theorem reached_tangledClasses : tangledClasses.Reached :=
  have h0 : (ofSources {} .class .class [tangledSource]).Reached := reached_ofSources {} _ _ _
  have h1 := Reached.setBase _ 3 1 (by decide +kernel) (by decide +kernel) h0
  have h2 := Reached.setBase _ 3 1 (by decide +kernel) (by decide +kernel) h1
  have h3 := Reached.setBase _ 1 1 (by decide +kernel) (by decide +kernel) h2
  Reached.setBase _ 1 2 (by decide +kernel) (by decide +kernel) (Reached.link _ h3)

/-- The child of two bases in turn has left the first of them, and linking once
    more only moves the class that is its own base behind the other child. -/
theorem links_agree_tangledClasses :
    tangledClasses.Reached ∧
      (List.range 5).map tangledClasses.baseId? = [some 1, some 2, some 2, some 1, some 1] ∧
      (List.range 5).map tangledClasses.childIds = [[], [3, 0, 4], [2, 1], [], []] ∧
      (List.range 5).map tangledClasses.link.1.childIds = [[], [3, 0, 4], [1, 2], [], []] ∧
      (∀ i j c d, tangledClasses.get? i = some c → tangledClasses.get? j = some d →
        (j ∈ c.children ↔ d.baseId = some i)) ∧
      tangledClasses.link.1.link.1 = tangledClasses.link.1 := by
  have hagree := links_agree_of_reached tangledClasses reached_tangledClasses
  exact ⟨reached_tangledClasses, by decide +kernel, by decide +kernel, by decide +kernel,
    hagree.1, hagree.2.2⟩

end Example

end Hierarchy

end Typings
