import Typings.Json.Schema
import Typings.Proofs.Json.Scanning

/-!
# What Is Read Is Written Back

A codec reads more than it writes: the visibility of a member may be spelled as an object, a
free value may repeat a name, and what is written has one spelling. So the law of a codec is
about what it has read: if a part came from a sound document, it is read again from the
document that is written for it, and all of its numbers can be spelled (`Codec.Recovers`).

Two things stand beside the law. An empty list takes a level of its own even where nothing was
in the text, so there must be levels left. And a value that may be absent is written as null
when it is, so what is written for a value that is there must not be null, unless null is what
was read (`Codec.IsFaithful`).

## Main definitions

* `Codec.Recovers`: A part that is read again from what is written for it.
* `Codec.IsFaithful`: A codec that recovers whatever it has read.

## Theorems

* `Codec.isFaithful_text`, `Codec.isFaithful_flag`, `Codec.isFaithful_free`,
  `Codec.isFaithful_choice`: The codecs of scalars and of free values.
* `Codec.isFaithful_optional`, `Codec.isFaithful_list`: What may be absent, and sequences.
-/

namespace Typings

namespace Json

theorem orFault_eq_ok_iff {α : Type} (read : Except Fault α) (a : α) :
    orFault read = .ok a ↔ read = .ok a := by
  cases read with
  | error fault => exact ⟨nofun, nofun⟩
  | ok b => exact ⟨fun h => congrArg Except.ok (Except.ok.inj h),
      fun h => congrArg Except.ok (Except.ok.inj h)⟩

theorem orFault_close_eq_ok_iff (ending : Option Fault) (u : Unit) :
    orFault (Node.close ending) = .ok u ↔ ending = none := by
  rw [orFault_eq_ok_iff, Node.close_eq_ok_iff]

theorem mismatch_ne_ok {α : Type} (m : Mismatch) (a : α) : mismatch m ≠ .ok a := nofun

/-- A value of the wrong type never gives a result. -/
theorem Node.wrongType_ne_ok {α : Type} (node : Node) (expected : String) (a : α) :
    node.wrongType expected ≠ .ok a := by
  intro h
  rcases (bind_eq_ok_iff _ _ _).mp h with ⟨found, _, hmismatch⟩
  exact mismatch_ne_ok _ a hmismatch

namespace Codec

variable {α : Type}

/-- A part that is read again from what is written for it, and whose numbers can be
    spelled. -/
structure Recovers (codec : Codec α) (depth : Nat) (a : α) : Prop where
  read : codec.read depth (codec.write a).node = .ok a
  numbers : ∀ n ∈ (codec.write a).numbers, n.InRange

/-- A codec that recovers whatever it has read, if more than so many levels are left, and
    writes null for nothing else than null. -/
structure IsFaithful (codec : Codec α) (levels : Nat) : Prop where
  recovers : ∀ depth node a, levels < depth → node.IsSound → codec.read depth node = .ok a →
    codec.Recovers depth a
  null : ∀ depth node a, node.IsSound → codec.read depth node = .ok a → codec.write a = .null →
    node = .word (.ok .null)

theorem IsFaithful.mono {codec : Codec α} {levels more : Nat} (h : codec.IsFaithful levels)
    (hle : levels ≤ more) : codec.IsFaithful more where
  recovers depth node a hdepth := h.recovers depth node a (Nat.lt_of_le_of_lt hle hdepth)
  null := h.null

theorem recovers_text (depth : Nat) (s : String) : text.Recovers depth s where
  read := rfl
  numbers _ hn := absurd hn List.not_mem_nil

theorem isFaithful_text : text.IsFaithful 0 where
  recovers depth _ s _ _ _ := recovers_text depth s
  null _ _ _ _ _ hnull := absurd hnull nofun

theorem recovers_flag (depth : Nat) (b : Bool) : flag.Recovers depth b where
  read := rfl
  numbers _ hn := absurd hn List.not_mem_nil

theorem isFaithful_flag : flag.IsFaithful 0 where
  recovers depth _ b _ _ _ := recovers_flag depth b
  null _ _ _ _ _ hnull := absurd hnull nofun

theorem isFaithful_free : free.IsFaithful 0 where
  recovers depth node v _ hsound hread := by
    -- A free value is read as it stands, with the levels that are left.
    have hvalue := (orFault_eq_ok_iff _ v).mp hread
    exact ⟨(orFault_eq_ok_iff _ v).mpr (node.value_node depth v hvalue),
      node.numbers_value hsound depth v hvalue⟩
  null depth node v hsound hread hnull := by
    have hvalue := (orFault_eq_ok_iff _ v).mp hread
    have hv : v = .null := hnull
    exact node.eq_null_of_value hsound depth (hv ▸ hvalue)

theorem recovers_choice (known : List String) (named? : String → Option α) (name : α → String)
    (hname : ∀ a, named? (name a) = some a) (depth : Nat) (a : α) :
    (choice known named? name).Recovers depth a where
  read := by
    -- The name that is written leads back to what it is the name of.
    have hvariant : variant known named? (name a) = .ok a := by rw [variant, hname]
    exact hvariant
  numbers _ hn := absurd hn List.not_mem_nil

/-- Named values are read from their names, so it does not matter how they were spelled. -/
theorem isFaithful_choice (known : List String) (named? : String → Option α) (name : α → String)
    (hname : ∀ a, named? (name a) = some a) : (choice known named? name).IsFaithful 0 where
  recovers depth _ a _ _ _ := recovers_choice known named? name hname depth a
  null _ _ _ _ _ hnull := absurd hnull nofun

/-- Null is nothing, and everything else is read by the codec of what may be absent. -/
theorem read_optional_eq_ok_iff (codec : Codec α) (depth : Nat) (node : Node) (o : Option α) :
    (optional codec).read depth node = .ok o ↔
      (node = .word (.ok .null) ∧ o = none) ∨
        (node ≠ .word (.ok .null) ∧ ∃ a, codec.read depth node = .ok a ∧ o = some a) := by
  by_cases hnull : node = .word (.ok .null)
  · subst hnull
    refine ⟨fun h => Or.inl ⟨rfl, (Except.ok.inj h).symm⟩, ?_⟩
    rintro (⟨_, rfl⟩ | ⟨hne, _⟩)
    · rfl
    · exact absurd rfl hne
  · -- Only the word for null is looked at before the codec is asked.
    have hread : (optional codec).read depth node = (codec.read depth node).map some := by
      unfold optional
      dsimp only
      split
      · exact absurd rfl hnull
      · rfl
    rw [hread, map_eq_ok_iff]
    constructor
    · rintro ⟨a, ha, rfl⟩
      exact Or.inr ⟨hnull, a, ha, rfl⟩
    · rintro (⟨heq, _⟩ | ⟨_, a, ha, rfl⟩)
      · exact absurd heq hnull
      · exact ⟨a, ha, rfl⟩

theorem recovers_none (codec : Codec α) (depth : Nat) : (optional codec).Recovers depth none where
  read := rfl
  numbers _ hn := absurd hn List.not_mem_nil

/-- What is there is not written as null, since it was not read from null. -/
theorem isFaithful_optional (codec : Codec α) (levels : Nat) (h : codec.IsFaithful levels) :
    (optional codec).IsFaithful levels where
  recovers depth node o hdepth hsound hread := by
    rcases (read_optional_eq_ok_iff codec depth node o).mp hread with
      ⟨_, rfl⟩ | ⟨hnull, a, ha, rfl⟩
    · exact recovers_none codec depth
    · have hrecovers := h.recovers depth node a hdepth hsound ha
      -- If null were written for it, it would have been read from null.
      have hwritten : (codec.write a).node ≠ .word (.ok .null) := by
        intro heq
        refine hnull (h.null depth node a hsound ha ?_)
        cases hv : codec.write a <;> rw [hv] at heq <;> first | rfl | exact absurd heq nofun
      exact ⟨(read_optional_eq_ok_iff codec depth _ _).mpr
        (Or.inr ⟨hwritten, a, hrecovers.read, rfl⟩), hrecovers.numbers⟩
  null depth node o hsound hread hnull := by
    rcases (read_optional_eq_ok_iff codec depth node o).mp hread with
      ⟨hnode, _⟩ | ⟨_, a, ha, rfl⟩
    · exact hnode
    · exact h.null depth node a hsound ha hnull

theorem readItems_cons_eq_ok_iff (codec : Codec α) (depth : Nat) (item : Node) (items : List Node)
    (values : List α) :
    codec.readItems depth (item :: items) = .ok values ↔
      ∃ a rest, codec.read depth item = .ok a ∧ codec.readItems depth items = .ok rest ∧
        values = a :: rest := by
  rw [readItems, bind_eq_ok_iff]
  constructor
  · rintro ⟨a, ha, h⟩
    rcases (bind_eq_ok_iff _ _ _).mp h with ⟨rest, hrest, h⟩
    exact ⟨a, rest, ha, hrest, (Except.ok.inj h).symm⟩
  · rintro ⟨a, rest, ha, hrest, rfl⟩
    exact ⟨a, ha, (bind_eq_ok_iff _ _ _).mpr ⟨rest, hrest, rfl⟩⟩

/-- A sequence is read item by item from an array, which has to be closed. -/
theorem read_list_eq_ok_iff (codec : Codec α) (depth : Nat) (node : Node) (values : List α) :
    (list codec).read depth node = .ok values ↔
      ∃ items inner, node = .array items none ∧ Node.enter depth = .ok inner ∧
        codec.readItems inner items = .ok values := by
  constructor
  · intro h
    cases node with
    | array items ending =>
        rcases (bind_eq_ok_iff _ _ _).mp h with ⟨inner, henter, h⟩
        rcases (bind_eq_ok_iff _ _ _).mp h with ⟨read, hread, h⟩
        rcases (bind_eq_ok_iff _ _ _).mp h with ⟨u, hclose, h⟩
        rw [(orFault_close_eq_ok_iff ending u).mp hclose, ← Except.ok.inj h]
        exact ⟨items, inner, rfl, (orFault_eq_ok_iff _ inner).mp henter, hread⟩
    | absent fault => exact absurd h (Node.wrongType_ne_ok _ _ _)
    | word read => exact absurd h (Node.wrongType_ne_ok _ _ _)
    | number read skip => exact absurd h (Node.wrongType_ne_ok _ _ _)
    | string read skip => exact absurd h (Node.wrongType_ne_ok _ _ _)
    | object members ending => exact absurd h (Node.wrongType_ne_ok _ _ _)
  · rintro ⟨items, inner, rfl, henter, hread⟩
    refine (bind_eq_ok_iff _ _ _).mpr ⟨inner, (orFault_eq_ok_iff _ inner).mpr henter, ?_⟩
    exact (bind_eq_ok_iff _ _ _).mpr ⟨values, hread, rfl⟩

/-- Every member of a sequence was read from one of the items. -/
theorem exists_of_mem_readItems (codec : Codec α) (depth : Nat) (items : List Node)
    (values : List α) (h : codec.readItems depth items = .ok values) (a : α) (ha : a ∈ values) :
    ∃ item ∈ items, codec.read depth item = .ok a := by
  induction items generalizing values with
  | nil =>
      rw [readItems, Except.ok.injEq] at h
      exact absurd (h ▸ ha) List.not_mem_nil
  | cons item items ih =>
      rcases (readItems_cons_eq_ok_iff codec depth item items values).mp h with
        ⟨b, rest, hb, hrest, rfl⟩
      rcases List.mem_cons.mp ha with rfl | ha
      · exact ⟨item, List.mem_cons_self, hb⟩
      · rcases ih rest hrest ha with ⟨other, hother, hread⟩
        exact ⟨other, List.mem_cons_of_mem item hother, hread⟩

/-- The numbers that are written for a sequence are those of its members. -/
theorem numbers_write_list (codec : Codec α) (values : List α) :
    ((list codec).write values).numbers = values.flatMap fun a => (codec.write a).numbers := by
  have hwrite : (list codec).write values = .array (values.map codec.write) := rfl
  rw [hwrite, Value.numbers, Value.itemNumbers_eq_flatMap, List.flatMap_map]

/-- A sequence whose members are recovered one level deeper is recovered. -/
theorem recovers_list (codec : Codec α) (depth inner : Nat) (values : List α)
    (henter : Node.enter depth = .ok inner) (hvalues : ∀ a ∈ values, codec.Recovers inner a) :
    (list codec).Recovers depth values where
  read := by
    refine (read_list_eq_ok_iff codec depth _ values).mpr ⟨_, inner, rfl, henter, ?_⟩
    clear henter
    induction values with
    | nil => rfl
    | cons a rest ih =>
        refine (readItems_cons_eq_ok_iff codec inner _ _ _).mpr ⟨a, rest, ?_, ?_, rfl⟩
        · exact (hvalues a List.mem_cons_self).read
        · exact ih fun b hb => hvalues b (List.mem_cons_of_mem a hb)
  numbers n hn := by
    rw [numbers_write_list, List.mem_flatMap] at hn
    rcases hn with ⟨a, ha, hn⟩
    exact (hvalues a ha).numbers n hn

theorem isFaithful_list (codec : Codec α) (levels : Nat) (h : codec.IsFaithful levels) :
    (list codec).IsFaithful (levels + 1) where
  recovers depth node values hdepth hsound hread := by
    rcases (read_list_eq_ok_iff codec depth node values).mp hread with
      ⟨items, inner, rfl, henter, hitems⟩
    -- The items of a sound array are sound.
    rcases hsound with _ | _ | _ | _ | ⟨_, _, hsound⟩ | _
    -- The array takes one level, and the others are left for its items.
    have hinner : levels < inner := by
      have := (Node.enter_eq_ok_iff depth inner).mp henter
      omega
    refine recovers_list codec depth inner values henter fun a ha => ?_
    rcases exists_of_mem_readItems codec inner items values hitems a ha with ⟨item, hitem, hread⟩
    exact h.recovers inner item a hinner (hsound item hitem) hread
  null _ _ _ _ _ hnull := absurd hnull nofun

theorem numbers_write_text (s : String) : (text.write s).numbers = [] := rfl

theorem numbers_write_flag (b : Bool) : (flag.write b).numbers = [] := rfl

theorem numbers_write_free (v : Value) : (free.write v).numbers = v.numbers := rfl

theorem numbers_write_choice (known : List String) (named? : String → Option α) (name : α → String)
    (a : α) : ((choice known named? name).write a).numbers = [] := rfl

theorem numbers_write_optional (codec : Codec α) (o : Option α) :
    ((optional codec).write o).numbers = o.toList.flatMap fun a => (codec.write a).numbers := by
  cases o with
  | none => rfl
  | some a => exact (List.append_nil _).symm

end Codec

end Json

end Typings
