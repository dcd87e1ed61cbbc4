import Typings.Hierarchy.Link
import Typings.Proofs.Requirements

/-!
# Links Between Classes

A link is kept twice, as the base of a class and among the children of that
base, and a class that is linked anew has to leave its former base. That the
two sides agree, and that places are what they claim to be, is the invariant of
all changes to a hierarchy (`Consistent`).

Linking touches nothing else of a class. In particular it does not change which
class provides a declared base, so all links can be read off the hierarchy as
it was before the first of them was made (`baseId?_link`).

## Main definitions

* `ClassModel.unlinked`: A class without its links.
* `Hierarchy.contents`: The classes of a hierarchy without their links.
* `Hierarchy.Consistent`: The two sides of every link agree.
* `Hierarchy.declaredBaseId?`: The place of the class that provides the
  declared base of a class.

## Theorems

* `Hierarchy.get?_setBase`, `Hierarchy.baseId?_setBase`: What a link changes.
* `Hierarchy.Consistent.push`, `Hierarchy.Consistent.setBase`,
  `Hierarchy.Consistent.link`: The invariant is kept.
* `Hierarchy.Consistent.provider?_eq_some_iff`: The last class with a path
  provides it.
* `Hierarchy.contents_link`, `Hierarchy.Consistent.baseId?_link`: A hierarchy
  after linking.
-/

namespace Typings

/-- A class without its links. -/
def ClassModel.unlinked (c : ClassModel) : ClassModel :=
  { c with baseId := none, children := [] }

namespace Hierarchy

/-- The classes of a hierarchy without their links. -/
def contents (h : Hierarchy) : List ClassModel :=
  h.classes.toList.map ClassModel.unlinked

section Places

variable (h : Hierarchy)

theorem get?_push (c : ClassModel) (i : Nat) :
    (h.push c).get? i = if i = h.size then some c else h.get? i :=
  Array.getElem?_push

theorem size_push (c : ClassModel) : (h.push c).size = h.size + 1 :=
  Array.size_push c

theorem get?_modify (id : Nat) (change : ClassModel → ClassModel) (i : Nat) :
    (h.modify id change).get? i = if id = i then (h.get? i).map change else h.get? i :=
  Array.getElem?_modify

theorem size_modify (id : Nat) (change : ClassModel → ClassModel) :
    (h.modify id change).size = h.size :=
  Array.size_modify

theorem lt_size_of_get? (i : Nat) (c : ClassModel) (hget : h.get? i = some c) : i < h.size :=
  (Array.getElem?_eq_some_iff.mp hget).1

theorem exists_get? (i : Nat) (hi : i < h.size) : ∃ c, h.get? i = some c :=
  ⟨h.classes[i], Array.getElem?_eq_getElem hi⟩

theorem get?_eq_none (i : Nat) (hi : h.size ≤ i) : h.get? i = none :=
  Array.getElem?_eq_none hi

theorem baseId?_of_get? (i : Nat) (c : ClassModel) (hget : h.get? i = some c) :
    h.baseId? i = c.baseId := by
  rw [baseId?, hget, Option.bind_some]

theorem baseId?_eq_some_iff (i b : Nat) :
    h.baseId? i = some b ↔ ∃ c, h.get? i = some c ∧ c.baseId = some b := by
  rw [baseId?, Option.bind_eq_some_iff]

/-- What a search finds among the methods of a class and those of its base. -/
theorem exists_methods_of_any (i b : Nat) (hlink : h.baseId? i = some b)
    (related : ClassModel → ClassModel → Method → Method → Bool)
    (hany : ((h.get? i).any fun c => (h.get? b).any fun base =>
      c.methods.any fun own => base.methods.any fun m => related c base own m) = true) :
    ∃ c base own m, h.get? i = some c ∧ c.baseId = some b ∧ h.get? b = some base ∧
      own ∈ c.methods ∧ m ∈ base.methods ∧ related c base own m = true := by
  rcases (h.baseId?_eq_some_iff i b).mp hlink with ⟨c, hget, hbase⟩
  rcases hgetb : h.get? b with _ | base
  · rw [hget, hgetb] at hany
    contradiction
  · rw [hget, hgetb, Option.any_some, Option.any_some, List.any_eq_true] at hany
    rcases hany with ⟨own, hown, hany⟩
    rw [List.any_eq_true] at hany
    rcases hany with ⟨m, hm, hrelated⟩
    exact ⟨c, base, own, m, hget, hbase, rfl, hown, hm, hrelated⟩

theorem lt_size_of_baseId? (i b : Nat) (hbase : h.baseId? i = some b) : i < h.size := by
  rcases (h.baseId?_eq_some_iff i b).mp hbase with ⟨c, hget, _⟩
  exact h.lt_size_of_get? i c hget

theorem getElem?_contents (i : Nat) : h.contents[i]? = (h.get? i).map ClassModel.unlinked := by
  rw [contents, List.getElem?_map, Array.getElem?_toList]
  rfl

end Places

section Linking

variable (h : Hierarchy) (child base : Nat)

/-- The class at a place after a link from a child to a base was made. -/
def relinked (i : Nat) (c : ClassModel) : ClassModel :=
  let staying := if h.baseId? child = some i then c.children.filter (· ≠ child) else c.children
  { c with
    baseId := if i = child then some base else c.baseId
    children := if i = base then addNew staying child else staying }

theorem get?_detach (i : Nat) :
    (h.detach child).get? i = (h.get? i).map fun c =>
      { c with
        children :=
          if h.baseId? child = some i then c.children.filter (· ≠ child) else c.children } := by
  rw [detach]
  rcases hformer : h.baseId? child with _ | former
  · simp only [reduceCtorEq, if_false, Option.map_id_fun', id_eq]
  · simp only [get?_modify, Option.some_inj]
    by_cases hi : former = i
    · simp only [if_pos hi]
    · simp only [if_neg hi, Option.map_id_fun', id_eq]

/-- A link changes the class that is linked, its former base and its base. -/
theorem get?_setBase (i : Nat) :
    (h.setBase child base).get? i = (h.get? i).map (h.relinked child base i) := by
  rw [setBase, get?_modify, get?_modify, get?_detach]
  rcases h.get? i with _ | c
  · simp only [Option.map_none, ite_self]
  · -- A class can be linked to itself, so the place may be both of the two.
    simp only [Option.map_some, relinked]
    by_cases hchild : child = i
    · by_cases hbase : base = i
      · simp only [hchild, hbase, if_true, Option.map_some]
      · simp only [hchild, hbase, Ne.symm hbase, if_true, if_false, Option.map_some]
    · by_cases hbase : base = i
      · simp only [hchild, hbase, Ne.symm hchild, if_true, if_false, Option.map_some]
      · simp only [hchild, hbase, Ne.symm hchild, Ne.symm hbase, if_false]

theorem size_setBase : (h.setBase child base).size = h.size := by
  rw [setBase, size_modify, size_modify, detach]
  rcases h.baseId? child with _ | former
  · rfl
  · exact size_modify h former _

theorem contents_setBase : (h.setBase child base).contents = h.contents := by
  refine List.ext_getElem? fun i => ?_
  rw [getElem?_contents, getElem?_contents, get?_setBase, Option.map_map]
  rfl

theorem baseId?_setBase (hchild : child < h.size) (i : Nat) :
    (h.setBase child base).baseId? i = if i = child then some base else h.baseId? i := by
  rw [baseId?, get?_setBase, Option.bind_map]
  by_cases hi : i = child
  · rcases h.exists_get? child hchild with ⟨c, hget⟩
    rw [if_pos hi, hi, hget, Option.bind_some]
    exact if_pos rfl
  · rw [if_neg hi, baseId?]
    exact Option.bind_congr fun c _ => if_neg hi

end Linking

/-- Places are what they claim to be, and the two sides of every link agree. -/
structure Consistent (h : Hierarchy) : Prop where
  id_eq : ∀ i c, h.get? i = some c → c.id = i
  mem_children : ∀ i c, h.get? i = some c → ∀ d, d ∈ c.children ↔ h.baseId? d = some i
  nodup_children : ∀ i c, h.get? i = some c → c.children.Nodup
  base_lt : ∀ i b, h.baseId? i = some b → b < h.size

theorem baseId?_push (h : Hierarchy) (c : ClassModel) (hbase : c.baseId = none) (i : Nat) :
    (h.push c).baseId? i = h.baseId? i := by
  rw [baseId?, baseId?, get?_push]
  by_cases hi : i = h.size
  · rw [if_pos hi, h.get?_eq_none i (Nat.le_of_eq hi.symm)]
    exact hbase
  · rw [if_neg hi]

namespace Consistent

variable {h : Hierarchy}

/-- A class without links can be added. -/
theorem push (hc : h.Consistent) (c : ClassModel) (hid : c.id = h.size) (hbase : c.baseId = none)
    (hchildren : c.children = []) : (h.push c).Consistent := by
  refine ⟨?_, ?_, ?_, ?_⟩
  · intro i d hd
    rw [get?_push] at hd
    by_cases hi : i = h.size
    · rw [if_pos hi, Option.some_inj] at hd
      rw [← hd, hid, hi]
    · rw [if_neg hi] at hd
      exact hc.id_eq i d hd
  · intro i d hd e
    rw [get?_push] at hd
    rw [baseId?_push h c hbase]
    by_cases hi : i = h.size
    · rw [if_pos hi, Option.some_inj] at hd
      rw [← hd, hchildren, hi]
      -- No link can lead to a place that did not exist.
      refine ⟨fun he => absurd he List.not_mem_nil, fun he => ?_⟩
      exact absurd (hc.base_lt e h.size he) (Nat.lt_irrefl _)
    · rw [if_neg hi] at hd
      exact hc.mem_children i d hd e
  · intro i d hd
    rw [get?_push] at hd
    by_cases hi : i = h.size
    · rw [if_pos hi, Option.some_inj] at hd
      rw [← hd, hchildren]
      exact List.nodup_nil
    · rw [if_neg hi] at hd
      exact hc.nodup_children i d hd
  · intro i b hb
    rw [baseId?_push h c hbase] at hb
    rw [size_push]
    exact Nat.lt_succ_of_lt (hc.base_lt i b hb)

/-- Who stays with a base when a class is linked anew. -/
theorem mem_relinked_children (hc : h.Consistent) (child base i : Nat) (c : ClassModel)
    (hget : h.get? i = some c) (d : Nat) :
    d ∈ (h.relinked child base i c).children ↔
      if d = child then i = base else h.baseId? d = some i := by
  -- Whoever had the child before has lost it, even where it is the new base.
  have hstaying : d ∈ (if h.baseId? child = some i then c.children.filter (· ≠ child)
      else c.children) ↔ d ≠ child ∧ h.baseId? d = some i := by
    by_cases hformer : h.baseId? child = some i
    · rw [if_pos hformer, List.mem_filter, hc.mem_children i c hget, decide_eq_true_eq, and_comm]
    · rw [if_neg hformer, hc.mem_children i c hget]
      refine ⟨fun hd => ⟨fun heq => hformer (heq ▸ hd), hd⟩, And.right⟩
  simp only [relinked]
  by_cases hbase : i = base
  · rw [if_pos hbase, mem_addNew, hstaying]
    by_cases hd : d = child
    · simp only [hd, hbase, ne_eq, not_true_eq_false, false_and, or_true, if_true]
    · simp only [hd, ne_eq, not_false_eq_true, true_and, or_false, if_false]
  · rw [if_neg hbase, hstaying]
    by_cases hd : d = child
    · simp only [hd, hbase, ne_eq, not_true_eq_false, false_and, if_true]
    · simp only [hd, ne_eq, not_false_eq_true, true_and, if_false]

theorem nodup_relinked_children (hc : h.Consistent) (child base i : Nat) (c : ClassModel)
    (hget : h.get? i = some c) : (h.relinked child base i c).children.Nodup := by
  have hstaying : (if h.baseId? child = some i then c.children.filter (· ≠ child)
      else c.children).Nodup := by
    by_cases hformer : h.baseId? child = some i
    · rw [if_pos hformer]
      exact (hc.nodup_children i c hget).filter _
    · rw [if_neg hformer]
      exact hc.nodup_children i c hget
  simp only [relinked]
  by_cases hbase : i = base
  · rw [if_pos hbase]
    exact nodup_addNew _ child hstaying
  · rw [if_neg hbase]
    exact hstaying

/-- A class can be linked to any class, also to its base and to itself. -/
theorem setBase (hc : h.Consistent) (child base : Nat) (hchild : child < h.size)
    (hbase : base < h.size) : (h.setBase child base).Consistent := by
  refine ⟨?_, ?_, ?_, ?_⟩
  · intro i d hd
    rw [get?_setBase, Option.map_eq_some_iff] at hd
    rcases hd with ⟨c, hget, rfl⟩
    exact hc.id_eq i c hget
  · intro i d hd e
    rw [get?_setBase, Option.map_eq_some_iff] at hd
    rcases hd with ⟨c, hget, rfl⟩
    rw [hc.mem_relinked_children child base i c hget, baseId?_setBase h child base hchild]
    by_cases he : e = child
    · rw [if_pos he, if_pos he, Option.some_inj, eq_comm]
    · rw [if_neg he, if_neg he]
  · intro i d hd
    rw [get?_setBase, Option.map_eq_some_iff] at hd
    rcases hd with ⟨c, hget, rfl⟩
    exact hc.nodup_relinked_children child base i c hget
  · intro i b hb
    rw [baseId?_setBase h child base hchild] at hb
    rw [size_setBase]
    by_cases hi : i = child
    · rw [if_pos hi, Option.some_inj] at hb
      rwa [← hb]
    · rw [if_neg hi] at hb
      exact hc.base_lt i b hb

end Consistent

section Providers

variable (h : Hierarchy)

/-- The place of the class that provides the declared base of a class. -/
def declaredBaseId? (c : ClassModel) : Option Nat :=
  c.base.bind fun base => h.provider? (TypePath.toModulePath base)

/-- Who provides a path can be read off the classes without their links. -/
theorem provider?_eq (path : String) :
    h.provider? path = (h.contents.reverse.find? (·.fullName = path)).map (·.id) := by
  rw [provider?, contents, ← List.map_reverse, List.find?_map, Option.map_map]
  rfl

theorem provider?_congr (g : Hierarchy) (hcontents : g.contents = h.contents) (path : String) :
    g.provider? path = h.provider? path := by
  rw [provider?_eq, provider?_eq, hcontents]

theorem size_of_contents (g : Hierarchy) (hcontents : g.contents = h.contents) :
    g.size = h.size := by
  have hlength := congrArg List.length hcontents
  rwa [contents, contents, List.length_map, List.length_map] at hlength

theorem linkOne_of_none (g : Hierarchy) (hcontents : g.contents = h.contents) (s : LinkSummary)
    (c : ClassModel) (hnone : h.declaredBaseId? c = none) : (linkOne (g, s) c).1 = g := by
  rw [declaredBaseId?] at hnone
  rw [linkOne]
  rcases hbase : c.base with _ | base
  · rfl
  · rw [hbase, Option.bind_some, ← provider?_congr h g hcontents] at hnone
    simp only [hnone]

theorem linkOne_of_some (g : Hierarchy) (hcontents : g.contents = h.contents) (s : LinkSummary)
    (c : ClassModel) (b : Nat) (hsome : h.declaredBaseId? c = some b) :
    (linkOne (g, s) c).1 = g.setBase c.id b := by
  rw [declaredBaseId?] at hsome
  rw [linkOne]
  rcases hbase : c.base with _ | base
  · rw [hbase] at hsome
    contradiction
  · rw [hbase, Option.bind_some, ← provider?_congr h g hcontents] at hsome
    simp only [hsome]

theorem contents_linkOne (g : Hierarchy) (hcontents : g.contents = h.contents) (s : LinkSummary)
    (c : ClassModel) : (linkOne (g, s) c).1.contents = h.contents := by
  rcases hdeclared : h.declaredBaseId? c with _ | b
  · rw [linkOne_of_none h g hcontents s c hdeclared, hcontents]
  · rw [linkOne_of_some h g hcontents s c b hdeclared, contents_setBase, hcontents]

theorem contents_foldl_linkOne (cs : List ClassModel) (g : Hierarchy)
    (hcontents : g.contents = h.contents) (s : LinkSummary) :
    (cs.foldl linkOne (g, s)).1.contents = h.contents := by
  induction cs generalizing g s with
  | nil => exact hcontents
  | cons c rest ih => exact ih _ (contents_linkOne h g hcontents s c) _

/-- Linking changes nothing but links. -/
theorem contents_link : h.link.1.contents = h.contents :=
  contents_foldl_linkOne h h.classes.toList h rfl {}

theorem linked_linkOne (g : Hierarchy) (hcontents : g.contents = h.contents) (s : LinkSummary)
    (c : ClassModel) :
    (linkOne (g, s) c).2.linked =
      s.linked + if (h.declaredBaseId? c).isSome = true then 1 else 0 := by
  rw [linkOne, declaredBaseId?]
  rcases c.base with _ | base
  · rfl
  · rw [Option.bind_some, ← provider?_congr h g hcontents]
    rcases hprovider : g.provider? (TypePath.toModulePath base) with _ | b
    · simp only [hprovider, Option.isSome_none, Bool.false_eq_true, if_false, Nat.add_zero]
    · simp only [hprovider, Option.isSome_some, if_true]

theorem linked_foldl_linkOne (cs : List ClassModel) (g : Hierarchy)
    (hcontents : g.contents = h.contents) (s : LinkSummary) :
    (cs.foldl linkOne (g, s)).2.linked =
      s.linked + cs.countP fun c => (h.declaredBaseId? c).isSome := by
  induction cs generalizing g s with
  | nil => rfl
  | cons c rest ih =>
      have hnext := contents_linkOne h g hcontents s c
      have hrest := ih (linkOne (g, s) c).1 hnext (linkOne (g, s) c).2
      rw [List.foldl_cons, hrest, linked_linkOne h g hcontents, List.countP_cons, Nat.add_assoc,
        Nat.add_comm (ite _ _ _)]

/-- The links made are those of the classes whose declared base is provided. -/
theorem linked_link :
    h.link.2.linked = h.classes.toList.countP fun c => (h.declaredBaseId? c).isSome := by
  have hcount := linked_foldl_linkOne h h.classes.toList h rfl {}
  rwa [Nat.zero_add] at hcount

end Providers

namespace Consistent

variable {h : Hierarchy}

theorem map_id_classes (hc : h.Consistent) : h.classes.toList.map (·.id) = List.range h.size := by
  refine List.ext_getElem? fun i => ?_
  rw [List.getElem?_map, Array.getElem?_toList]
  show (h.get? i).map (·.id) = _
  by_cases hi : i < h.size
  · rcases h.exists_get? i hi with ⟨c, hget⟩
    rw [hget, List.getElem?_range hi, Option.map_some, hc.id_eq i c hget]
  · rw [h.get?_eq_none i (Nat.le_of_not_lt hi), List.getElem?_eq_none]
    · rfl
    · rw [List.length_range]
      exact Nat.le_of_not_lt hi

theorem mem_classes_iff (hc : h.Consistent) (c : ClassModel) :
    c ∈ h.classes.toList ↔ h.get? c.id = some c := by
  rw [List.mem_iff_getElem?]
  constructor
  · rintro ⟨i, hi⟩
    rw [Array.getElem?_toList] at hi
    rwa [hc.id_eq i c hi]
  · exact fun hget => ⟨c.id, by rwa [Array.getElem?_toList]⟩

theorem lt_size_of_provider? (hc : h.Consistent) (path : String) (b : Nat)
    (hb : h.provider? path = some b) : b < h.size := by
  rw [provider?, Option.map_eq_some_iff] at hb
  rcases hb with ⟨c, hfind, rfl⟩
  have hmem : c ∈ h.classes.toList := List.mem_reverse.mp (List.mem_of_find?_eq_some hfind)
  exact h.lt_size_of_get? c.id c ((hc.mem_classes_iff c).mp hmem)

/-- A class that provides a path has it, and no class behind it does. -/
theorem path_of_provider? (hc : h.Consistent) (path : String) (j : Nat)
    (hj : h.provider? path = some j) :
    (∃ c, h.get? j = some c ∧ c.fullName = path) ∧
      ∀ k d, j < k → h.get? k = some d → d.fullName ≠ path := by
  rw [provider?, Option.map_eq_some_iff] at hj
  rcases hj with ⟨c, hfind, rfl⟩
  rcases List.find?_eq_some_iff_append.mp hfind with ⟨hpath, behind, before, hsplit, hbehind⟩
  have hsplit' : h.classes.toList = before.reverse ++ c :: behind.reverse := by
    rw [← List.reverse_reverse h.classes.toList, hsplit, List.reverse_append, List.reverse_cons,
      List.append_assoc, List.singleton_append]
  have hplaces : ∀ k, h.get? k = (before.reverse ++ c :: behind.reverse)[k]? := by
    intro k
    rw [← hsplit', Array.getElem?_toList]
    rfl
  have hget : h.get? before.reverse.length = some c := by
    rw [hplaces, List.getElem?_append_right (Nat.le_refl _), Nat.sub_self, List.getElem?_cons_zero]
  have hid : c.id = before.reverse.length := hc.id_eq _ c hget
  rw [decide_eq_true_eq] at hpath
  refine ⟨⟨c, hid ▸ hget, hpath⟩, ?_⟩
  intro k d hk hd
  rw [hid] at hk
  have hshift : k - before.reverse.length = k - before.reverse.length - 1 + 1 := by
    omega
  rw [hplaces, List.getElem?_append_right (Nat.le_of_lt hk), hshift,
    List.getElem?_cons_succ] at hd
  have hnot := hbehind d (List.mem_reverse.mp (List.mem_of_getElem? hd))
  rwa [Bool.not_eq_true', decide_eq_false_iff_not] at hnot

/-- A path is provided by the last class that has it. -/
theorem provider?_eq_some_iff (hc : h.Consistent) (path : String) (j : Nat) :
    h.provider? path = some j ↔
      (∃ c, h.get? j = some c ∧ c.fullName = path) ∧
        ∀ k d, j < k → h.get? k = some d → d.fullName ≠ path := by
  refine ⟨hc.path_of_provider? path j, ?_⟩
  rintro ⟨⟨c, hget, hpath⟩, hlast⟩
  have hsome : (h.provider? path).isSome = true := by
    rw [provider?, Option.isSome_map, List.find?_isSome]
    refine ⟨c, List.mem_reverse.mpr ((hc.mem_classes_iff c).mpr ?_), decide_eq_true hpath⟩
    rwa [hc.id_eq j c hget]
  rcases Option.isSome_iff_exists.mp hsome with ⟨i, hi⟩
  rcases hc.path_of_provider? path i hi with ⟨⟨d, hgetd, hpathd⟩, hlastd⟩
  -- Neither of the two is behind the other.
  rcases Nat.lt_trichotomy i j with hlt | heq | hlt
  · exact absurd hpath (hlastd j c hlt hget)
  · rw [hi, heq]
  · exact absurd hpathd (hlast i d hlt hgetd)

theorem lt_size_of_declaredBaseId? (hc : h.Consistent) (c : ClassModel) (b : Nat)
    (hb : h.declaredBaseId? c = some b) : b < h.size := by
  rcases Option.bind_eq_some_iff.mp hb with ⟨base, _, hprovider⟩
  exact hc.lt_size_of_provider? _ b hprovider

/-- The link of one class leads to the class that provided its base from the
    beginning, however many links were made since. -/
theorem baseId?_linkOne (hc : h.Consistent) (g : Hierarchy) (hcontents : g.contents = h.contents)
    (hg : g.Consistent) (s : LinkSummary) (c : ClassModel) (hlt : c.id < h.size) :
    (linkOne (g, s) c).1.Consistent ∧ ∀ i, (linkOne (g, s) c).1.baseId? i =
      (if i = c.id then h.declaredBaseId? c else none).or (g.baseId? i) := by
  have hsize : g.size = h.size := size_of_contents h g hcontents
  have hlt' : c.id < g.size := by
    rwa [hsize]
  rcases hdeclared : h.declaredBaseId? c with _ | b
  · rw [linkOne_of_none h g hcontents s c hdeclared]
    exact ⟨hg, fun i => by rw [ite_self, Option.none_or]⟩
  · rw [linkOne_of_some h g hcontents s c b hdeclared]
    refine ⟨hg.setBase c.id b hlt' ?_, fun i => ?_⟩
    · rw [hsize]
      exact hc.lt_size_of_declaredBaseId? c b hdeclared
    · rw [baseId?_setBase g c.id b hlt']
      by_cases hi : i = c.id
      · rw [if_pos hi, if_pos hi, Option.some_or]
      · rw [if_neg hi, if_neg hi, Option.none_or]

/-- The links of classes that are linked one after the other. Each of them is
    linked once, to the class that provided its base from the beginning. -/
theorem foldl_linkOne (hc : h.Consistent) (cs : List ClassModel)
    (hids : (cs.map (·.id)).Nodup) (hmem : ∀ c ∈ cs, c.id < h.size) (g : Hierarchy)
    (hcontents : g.contents = h.contents) (hg : g.Consistent) (s : LinkSummary) :
    (cs.foldl linkOne (g, s)).1.Consistent ∧
      ∀ i, (cs.foldl linkOne (g, s)).1.baseId? i =
        ((cs.find? (·.id = i)).bind h.declaredBaseId?).or (g.baseId? i) := by
  -- The hierarchy changes from link to link, but its contents stay those of the
  -- first one, so all links can be read off that one.
  induction cs generalizing g s with
  | nil => exact ⟨hg, fun i => rfl⟩
  | cons c rest ih =>
      rw [List.map_cons, List.nodup_cons] at hids
      have hnext := contents_linkOne h g hcontents s c
      rcases hc.baseId?_linkOne g hcontents hg s c (hmem c List.mem_cons_self) with
        ⟨hconsistent, hstep⟩
      rcases ih hids.2 (fun d hd => hmem d (List.mem_cons_of_mem _ hd)) _ hnext hconsistent
        (linkOne (g, s) c).2 with ⟨hfinal, hbases⟩
      refine ⟨hfinal, fun i => ?_⟩
      rw [List.foldl_cons, hbases i, hstep i, List.find?_cons]
      by_cases hi : i = c.id
      · -- No other class has this place, so the link just made is not made anew.
        have hrest : rest.find? (·.id = i) = none := by
          rw [List.find?_eq_none]
          intro d hd
          rw [decide_eq_true_eq, hi]
          exact fun heq => hids.1 (heq ▸ List.mem_map_of_mem hd)
        rw [hrest, if_pos hi, Option.bind_none, Option.none_or]
        simp only [hi, decide_true, Option.bind_some]
      · simp only [hi, Ne.symm hi, decide_false, if_false, Option.none_or]

theorem find?_id (hc : h.Consistent) (i : Nat) :
    h.classes.toList.find? (·.id = i) = h.get? i := by
  cases hfind : h.classes.toList.find? (·.id = i) with
  | none =>
      cases hget : h.get? i with
      | none => rfl
      | some c =>
          have hid : c.id = i := hc.id_eq i c hget
          have hmem := (hc.mem_classes_iff c).mpr (by rwa [hid])
          exact absurd (decide_eq_true hid) (List.find?_eq_none.mp hfind c hmem)
  | some c =>
      have hid := List.find?_some hfind
      simp only [decide_eq_true_eq] at hid
      rw [← hid]
      exact ((hc.mem_classes_iff c).mp (List.mem_of_find?_eq_some hfind)).symm

theorem foldl_linkOne_classes (hc : h.Consistent) :
    h.link.1.Consistent ∧
      ∀ i, h.link.1.baseId? i =
        ((h.classes.toList.find? (·.id = i)).bind h.declaredBaseId?).or (h.baseId? i) := by
  refine hc.foldl_linkOne h.classes.toList ?_ ?_ h rfl hc {}
  · rw [hc.map_id_classes]
    exact List.nodup_range
  · exact fun c hmem => h.lt_size_of_get? c.id c ((hc.mem_classes_iff c).mp hmem)

theorem link (hc : h.Consistent) : h.link.1.Consistent :=
  hc.foldl_linkOne_classes.1

/-- After linking a class has the base that provided its declared base before,
    and without such a class the base it had. -/
theorem baseId?_link (hc : h.Consistent) (i : Nat) :
    h.link.1.baseId? i = ((h.get? i).bind h.declaredBaseId?).or (h.baseId? i) := by
  rw [hc.foldl_linkOne_classes.2, hc.find?_id]

end Consistent

end Hierarchy

end Typings
