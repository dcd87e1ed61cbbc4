import Mathlib.Data.List.Nodup
import Mathlib.Data.List.Pairwise
import Typings.Proofs.Json.Codecs

/-!
# Records from Objects and from Arrays

A record type is described by its fields, and a field by how its part is taken out of a record
and put into one. Reading and writing come from that description alone, so the law of a record
type needs three facts about it (`Record.IsLawful`): no two fields share a name, putting in one
part changes that part and no other, and the parts are all there is of a record.

An object tells some of the fields, in any order, between members that are not known. An array
tells the first fields in their order. Both come to the same reader of told fields
(`Field.readAll`), so an array and the object that has its items for members lead to the same
record (`Record.read_array_eq_ok_iff_object`).

What is written tells every field once. It gives the record back if every part is read again,
whether the part was told or left out, and this is where the parts of the blank record come in.

## Main definitions

* `Field.readAll`: Fields read from the nodes that tell them.
* `Field.IsFaithful`: A field that recovers its parts and its default.
* `Record.members`: The members of an object that tells fields.
* `Record.IsLawful`: Fields that are independent and make up the record.
* `Record.KeepsDefaults`: What is left out or null has its default.

## Theorems

* `Record.readMembers_cons_eq_ok_iff`: One member of an object.
* `Record.get_of_read_object`: The parts of a record that was read from an object.
* `Record.read_array_eq_ok_iff_object`: Arrays and objects.
* `Record.recovers_codec`, `Record.isFaithful_codec`: What is read is written back.
* `Record.keepsDefaults`: Fields that are left out.
-/

namespace Typings

namespace Json

/-- Read fields from the nodes that tell them, one after the other. -/
def Field.readAll {ρ : Type} (depth : Nat) (record : ρ) : List (Field ρ × Node) → Except ReadError ρ
  | [] => .ok record
  | (field, node) :: told => do
    let record ← field.read depth node record
    readAll depth record told

theorem Field.readAll_cons_eq_ok_iff {ρ : Type} (depth : Nat) (record a : ρ) (field : Field ρ)
    (node : Node) (told : List (Field ρ × Node)) :
    readAll depth record ((field, node) :: told) = .ok a ↔
      ∃ part, field.codec.read depth node = .ok part ∧
        readAll depth (field.set record part) told = .ok a := by
  rw [readAll, bind_eq_ok_iff]
  constructor
  · rintro ⟨next, hnext, h⟩
    rcases (map_eq_ok_iff _ _ _).mp hnext with ⟨part, hpart, rfl⟩
    exact ⟨part, hpart, h⟩
  · rintro ⟨part, hpart, h⟩
    exact ⟨field.set record part, (map_eq_ok_iff _ _ _).mpr ⟨part, hpart, rfl⟩, h⟩

/-- A field that recovers whatever it has read, and its default, and that is null only where it
    has its default. -/
structure Field.IsFaithful {ρ : Type} (field : Field ρ) (unset : ρ) (levels : Nat) : Prop where
  codec : field.codec.IsFaithful levels
  blank : ∀ depth, levels < depth → field.codec.Recovers depth (field.get unset)
  null : ∀ depth part, field.codec.read depth (.word (.ok .null)) = .ok part →
    part = field.get unset

namespace Field

variable {ρ α : Type} (name : String) (isRequired : Bool) (unset : ρ)

theorem IsFaithful.mono {field : Field ρ} {unset : ρ} {levels more : Nat}
    (h : field.IsFaithful unset levels) (hle : levels ≤ more) : field.IsFaithful unset more where
  codec := h.codec.mono hle
  blank depth hdepth := h.blank depth (Nat.lt_of_le_of_lt hle hdepth)
  null := h.null

theorem isFaithful_text (get : ρ → String) (set : ρ → String → ρ) :
    (Field.mk name isRequired String .text get set).IsFaithful unset 0 where
  codec := Codec.isFaithful_text
  blank depth _ := Codec.recovers_text depth _
  null _ _ hread := absurd hread (Node.wrongType_ne_ok _ _ _)

theorem isFaithful_flag (get : ρ → Bool) (set : ρ → Bool → ρ) :
    (Field.mk name isRequired Bool .flag get set).IsFaithful unset 0 where
  codec := Codec.isFaithful_flag
  blank depth _ := Codec.recovers_flag depth _
  null _ _ hread := absurd hread (Node.wrongType_ne_ok _ _ _)

theorem isFaithful_choice (known : List String) (named? : String → Option α) (nameOf : α → String)
    (hname : ∀ a, named? (nameOf a) = some a) (get : ρ → α) (set : ρ → α → ρ) :
    (Field.mk name isRequired α (.choice known named? nameOf) get set).IsFaithful unset 0 where
  codec := Codec.isFaithful_choice known named? nameOf hname
  blank depth _ := Codec.recovers_choice known named? nameOf hname depth _
  null _ _ hread := absurd hread nofun

theorem isFaithful_optional (codec : Codec α) (levels : Nat) (h : codec.IsFaithful levels)
    (get : ρ → Option α) (set : ρ → Option α → ρ) (hunset : get unset = none) :
    (Field.mk name isRequired (Option α) (.optional codec) get set).IsFaithful unset levels where
  codec := Codec.isFaithful_optional codec levels h
  blank depth _ := by
    change (Codec.optional codec).Recovers depth (get unset)
    rw [hunset]
    exact Codec.recovers_none codec depth
  null _ _ hread := (Except.ok.inj hread).symm.trans hunset.symm

theorem isFaithful_list (codec : Codec α) (levels : Nat) (h : codec.IsFaithful levels)
    (get : ρ → List α) (set : ρ → List α → ρ) (hunset : get unset = []) :
    (Field.mk name isRequired (List α) (.list codec) get set).IsFaithful unset (levels + 1) where
  codec := Codec.isFaithful_list codec levels h
  blank depth hdepth := by
    change (Codec.list codec).Recovers depth (get unset)
    rw [hunset]
    refine Codec.recovers_list codec depth (depth - 1) [] ?_ fun _ ha => absurd ha List.not_mem_nil
    exact (Node.enter_eq_ok_iff depth _).mpr (by omega)
  null _ _ hread := absurd hread (Node.wrongType_ne_ok _ _ _)

end Field

namespace Record

variable {ρ : Type} {r : Record ρ}

/-- The members of an object that tells fields. -/
def members (told : List (Field ρ × Node)) : List (Key × Node) :=
  told.map fun t => (.text (.ok t.1.name), t.2)

/-- Fields that have names of their own, are independent of each other and make up the
    record. -/
structure IsLawful (r : Record ρ) : Prop where
  names : (r.fields.map (·.name)).Nodup
  get_set : ∀ f ∈ r.fields, ∀ a part, f.get (f.set a part) = part
  frame : r.fields.Pairwise fun f g =>
    (∀ a part, g.get (f.set a part) = g.get a) ∧ ∀ a part, f.get (g.set a part) = f.get a
  ext : ∀ a b, (∀ f ∈ r.fields, f.get a = f.get b) → a = b

/-- A field that an object leaves out, or tells to be null, has its default, and so has a field
    of an array. -/
structure KeepsDefaults (r : Record ρ) : Prop where
  object : ∀ depth members ending a, r.codec.read depth (.object members ending) = .ok a →
    ∀ f ∈ r.fields,
      (∀ node, (Key.text (.ok f.name), node) ∈ members → node = .word (.ok .null)) →
        f.get a = f.get r.blank
  array : ∀ depth items ending a, r.codec.read depth (.array items ending) = .ok a →
    ∀ f ∈ r.fields, (∀ node, (f, node) ∈ r.fields.zip items → node = .word (.ok .null)) →
      f.get a = f.get r.blank

theorem IsLawful.eq_of_name (hlawful : r.IsLawful) {f g : Field ρ} (hf : f ∈ r.fields)
    (hg : g ∈ r.fields) (hname : f.name = g.name) : f = g :=
  List.inj_on_of_nodup_map hlawful.names hf hg hname

/-- Putting in one part leaves the parts of other names alone. -/
theorem IsLawful.get_set_of_ne (hlawful : r.IsLawful) {f g : Field ρ} (hf : f ∈ r.fields)
    (hg : g ∈ r.fields) (hname : f.name ≠ g.name) (a : ρ) (part : f.Part) :
    g.get (f.set a part) = g.get a := by
  have hsymm : Std.Symm fun f g : Field ρ =>
      (∀ a part, g.get (f.set a part) = g.get a) ∧ ∀ a part, f.get (g.set a part) = f.get a :=
    ⟨fun f g h => ⟨h.2, h.1⟩⟩
  exact (hlawful.frame.forall hf hg fun heq => hname (congrArg Field.name heq)).1 a part

/-- The field of a name is the one that is found. -/
theorem IsLawful.find?_name_iff (hlawful : r.IsLawful) (name : String) (f : Field ρ) :
    r.fields.find? (·.name = name) = some f ↔ f ∈ r.fields ∧ f.name = name := by
  have hfinds : ∀ g, r.fields.find? (·.name = name) = some g → g ∈ r.fields ∧ g.name = name := by
    intro g h
    have hname := List.find?_some h
    exact ⟨List.mem_of_find?_eq_some h, of_decide_eq_true hname⟩
  refine ⟨hfinds f, ?_⟩
  rintro ⟨hf, hname⟩
  rcases hfound : r.fields.find? (·.name = name) with _ | g
  · exact absurd (decide_eq_true hname) (List.find?_eq_none.mp hfound f hf)
  · rcases hfinds g hfound with ⟨hg, hgname⟩
    rw [hfound, hlawful.eq_of_name hg hf (hgname.trans hname.symm)]

/-- A member is passed over if no field has its name, and read into the field of its name if
    that has not been told before. -/
theorem readMembers_cons_eq_ok_iff (hlawful : r.IsLawful) (depth : Nat) (seen : List String)
    (record : ρ) (key : Key) (node : Node) (rest : List (Key × Node)) (result : List String × ρ) :
    r.readMembers depth seen record ((key, node) :: rest) = .ok result ↔
      ∃ name, key = .text (.ok name) ∧
        (((∀ f ∈ r.fields, f.name ≠ name) ∧ node.pass = .ok () ∧
            r.readMembers depth seen record rest = .ok result) ∨
          ∃ f ∈ r.fields, f.name = name ∧ name ∉ seen ∧ ∃ part,
            f.codec.read depth node = .ok part ∧
              r.readMembers depth (name :: seen) (f.set record part) rest = .ok result) := by
  rw [readMembers, bind_eq_ok_iff]
  refine exists_congr fun name => ?_
  rw [orFault_eq_ok_iff, Node.keyName_eq_ok_iff]
  refine and_congr_right fun _ => ?_
  -- A key that cannot be read is an error either way, so what counts is whether a field has
  -- its name.
  rcases hfound : r.fields.find? (·.name = name) with _ | f
  · have hnone : ∀ f ∈ r.fields, f.name ≠ name := fun f hf heq =>
      List.find?_eq_none.mp hfound f hf (decide_eq_true heq)
    rw [hfound]
    dsimp only
    rw [bind_eq_ok_iff]
    constructor
    · rintro ⟨u, hpass, h⟩
      exact Or.inl ⟨hnone, hpass, h⟩
    · rintro (⟨_, hpass, h⟩ | ⟨f, hf, hname, _⟩)
      · exact ⟨(), hpass, h⟩
      · exact absurd hname (hnone f hf)
  · rcases (hlawful.find?_name_iff name f).mp hfound with ⟨hf, hname⟩
    rw [hfound]
    dsimp only
    constructor
    · intro h
      -- A name that was told before is an error.
      split at h
      · exact absurd h (mismatch_ne_ok _ _)
      · next hseen =>
        rcases (bind_eq_ok_iff _ _ _).mp h with ⟨next, hnext, h⟩
        rcases (map_eq_ok_iff _ _ _).mp hnext with ⟨part, hpart, rfl⟩
        exact Or.inr ⟨f, hf, hname, hseen, part, hpart, h⟩
    · rintro (⟨hnone, _⟩ | ⟨g, hg, hgname, hseen, part, hpart, h⟩)
      · exact absurd hname (hnone f hf)
      · obtain rfl := hlawful.eq_of_name hf hg (hname.trans hgname.symm)
        rw [if_neg hseen, bind_eq_ok_iff]
        exact ⟨f.set record part, (map_eq_ok_iff _ _ _).mpr ⟨part, hpart, rfl⟩, h⟩

/-- An object is read member by member, has to be closed, and tells all fields that have to
    be told. -/
theorem read_object_eq_ok_iff (depth : Nat) (members : List (Key × Node)) (ending : Option Fault)
    (a : ρ) :
    r.codec.read depth (.object members ending) = .ok a ↔
      ∃ inner seen, Node.enter depth = .ok inner ∧
        r.readMembers inner [] r.blank members = .ok (seen, a) ∧ ending = none ∧
          ∀ f ∈ r.fields, f.isRequired = true → f.name ∈ seen := by
  -- The search for a field that is missing finds none exactly if all have been told.
  have hall : ∀ seen : List String,
      r.fields.find? (fun field => field.isRequired && field.name ∉ seen) = none ↔
        ∀ f ∈ r.fields, f.isRequired = true → f.name ∈ seen := by
    intro seen
    simp only [List.find?_eq_none, Bool.and_eq_true, decide_eq_true_eq, not_and, not_not]
  unfold codec
  dsimp only
  constructor
  · intro h
    rcases (bind_eq_ok_iff _ _ _).mp h with ⟨inner, henter, h⟩
    rcases (bind_eq_ok_iff _ _ _).mp h with ⟨⟨seen, record⟩, hmembers, h⟩
    rcases (bind_eq_ok_iff _ _ _).mp h with ⟨u, hclose, h⟩
    split at h
    · exact absurd h (mismatch_ne_ok _ _)
    · next hnone =>
      obtain rfl := Except.ok.inj h
      exact ⟨inner, seen, (orFault_eq_ok_iff _ _).mp henter, hmembers,
        (orFault_close_eq_ok_iff ending u).mp hclose, (hall seen).mp hnone⟩
  · rintro ⟨inner, seen, henter, hmembers, rfl, hrequired⟩
    refine (bind_eq_ok_iff _ _ _).mpr ⟨inner, (orFault_eq_ok_iff _ _).mpr henter, ?_⟩
    refine (bind_eq_ok_iff _ _ _).mpr ⟨(seen, a), hmembers, ?_⟩
    refine (bind_eq_ok_iff _ _ _).mpr ⟨(), rfl, ?_⟩
    rw [(hall seen).mpr hrequired]
    rfl

/-- The parts of a record that was read from members: a field that has not been seen before is
    either told by one of them, or keeps its part. -/
theorem get_of_readMembers (hlawful : r.IsLawful) (depth : Nat) (seen : List String) (record : ρ)
    (members : List (Key × Node)) (result : List String × ρ)
    (h : r.readMembers depth seen record members = .ok result) (f : Field ρ) (hf : f ∈ r.fields) :
    (f.name ∈ seen → f.get result.2 = f.get record) ∧
      (f.name ∉ seen →
        (∃ node, (Key.text (.ok f.name), node) ∈ members ∧
            f.codec.read depth node = .ok (f.get result.2)) ∨
          ((∀ node, (Key.text (.ok f.name), node) ∉ members) ∧ f.get result.2 = f.get record)) := by
  -- With every member one more name may have been seen, and one more part put in.
  induction members generalizing seen record with
  | nil =>
      rw [readMembers, Except.ok.injEq] at h
      rw [← h]
      exact ⟨fun _ => rfl, fun _ => Or.inr ⟨fun _ => List.not_mem_nil, rfl⟩⟩
  | cons m rest ih =>
      rcases m with ⟨key, node⟩
      rcases (readMembers_cons_eq_ok_iff hlawful _ _ _ _ _ _ _).mp h with
        ⟨name, rfl, ⟨hnone, _, h⟩ | ⟨g, hg, rfl, hseen, part, hpart, h⟩⟩
      · -- No field has the name of the member.
        have hother : ∀ node', (Key.text (.ok f.name), node') ≠ (Key.text (.ok name), node) := by
          intro node' heq
          exact hnone f hf (Except.ok.inj (Key.text.inj (Prod.mk.inj heq).1))
        rcases ih seen record h with ⟨hkept, htold⟩
        refine ⟨hkept, fun hnew => ?_⟩
        rcases htold hnew with ⟨node', hmem, hread⟩ | ⟨hnot, hkept⟩
        · exact Or.inl ⟨node', List.mem_cons_of_mem _ hmem, hread⟩
        · refine Or.inr ⟨fun node' hmem => ?_, hkept⟩
          exact (List.mem_cons.mp hmem).elim (hother node') (hnot node')
      · rcases ih (g.name :: seen) (g.set record part) h with ⟨hkept, htold⟩
        by_cases hname : f.name = g.name
        · -- The member tells the field, and nothing later changes it.
          obtain rfl := hlawful.eq_of_name hf hg hname
          have hget := hkept List.mem_cons_self
          rw [hlawful.get_set f hf] at hget
          exact ⟨fun hold => absurd hold hseen,
            fun _ => Or.inl ⟨node, List.mem_cons_self, hget ▸ hpart⟩⟩
        · -- The member tells another field, which leaves the part of this one alone.
          have hframe := hlawful.get_set_of_ne hg hf (Ne.symm hname) record part
          rw [hframe] at hkept htold
          refine ⟨fun hold => hkept (List.mem_cons_of_mem _ hold), fun hnew => ?_⟩
          rcases htold (fun hmem => (List.mem_cons.mp hmem).elim hname hnew) with
            ⟨node', hmem, hread⟩ | ⟨hnot, hkept⟩
          · exact Or.inl ⟨node', List.mem_cons_of_mem _ hmem, hread⟩
          · refine Or.inr ⟨fun node' hmem => ?_, hkept⟩
            rcases List.mem_cons.mp hmem with heq | hmem
            · exact hname (Except.ok.inj (Key.text.inj (Prod.mk.inj heq).1))
            · exact hnot node' hmem

/-- The parts of a record that was read from an object: what a member tells, and the default of
    what none does. -/
theorem get_of_read_object (hlawful : r.IsLawful) (depth : Nat) (members : List (Key × Node))
    (ending : Option Fault) (a : ρ) (h : r.codec.read depth (.object members ending) = .ok a) :
    ∃ inner, Node.enter depth = .ok inner ∧ ∀ f ∈ r.fields,
      (∃ node, (Key.text (.ok f.name), node) ∈ members ∧
          f.codec.read inner node = .ok (f.get a)) ∨
        ((∀ node, (Key.text (.ok f.name), node) ∉ members) ∧ f.get a = f.get r.blank) := by
  rcases (read_object_eq_ok_iff depth members ending a).mp h with
    ⟨inner, seen, henter, hmembers, _, _⟩
  exact ⟨inner, henter, fun f hf =>
    (get_of_readMembers hlawful inner [] r.blank members (seen, a) hmembers f hf).2
      List.not_mem_nil⟩

/-- Members that tell fields once each are read into them. -/
theorem readMembers_members_eq_ok_iff (hlawful : r.IsLawful) (depth : Nat) (seen : List String)
    (record : ρ) (told : List (Field ρ × Node)) (hfields : ∀ t ∈ told, t.1 ∈ r.fields)
    (hdistinct : (told.map (·.1.name)).Nodup) (hseen : ∀ t ∈ told, t.1.name ∉ seen)
    (result : List String × ρ) :
    r.readMembers depth seen record (members told) = .ok result ↔
      result.1 = (told.map (·.1.name)).reverse ++ seen ∧
        Field.readAll depth record told = .ok result.2 := by
  induction told generalizing seen record with
  | nil =>
      rw [members, List.map_nil, readMembers, Field.readAll, Except.ok.injEq, Except.ok.injEq]
      exact ⟨fun h => h ▸ ⟨rfl, rfl⟩, fun h => Prod.ext h.1.symm h.2⟩
  | cons t told ih =>
      rcases t with ⟨f, node⟩
      have hf := hfields (f, node) List.mem_cons_self
      have hnew := hseen (f, node) List.mem_cons_self
      rw [List.map_cons, List.nodup_cons] at hdistinct
      -- The rest tells other names, so it can be read with this one seen.
      have hrest := ih (f.name :: seen)
      have hstep := fun part => hrest (f.set record part)
        (fun t ht => hfields t (List.mem_cons_of_mem _ ht)) hdistinct.2
        (fun t ht hmem => (List.mem_cons.mp hmem).elim
          (fun heq => hdistinct.1 (heq ▸ List.mem_map_of_mem ht))
          (hseen t (List.mem_cons_of_mem _ ht)))
      have hcons : members ((f, node) :: told) = (.text (.ok f.name), node) :: members told := rfl
      rw [hcons, readMembers_cons_eq_ok_iff hlawful, Field.readAll_cons_eq_ok_iff, List.map_cons,
        List.reverse_cons, List.append_assoc, List.singleton_append]
      constructor
      · rintro ⟨name, hname, ⟨hnone, _⟩ | ⟨g, hg, hgname, _, part, hpart, h⟩⟩
        · exact absurd (Except.ok.inj (Key.text.inj hname)) (hnone f hf)
        · obtain rfl := hlawful.eq_of_name hf hg
            ((Except.ok.inj (Key.text.inj hname)).trans hgname.symm)
          rw [← hgname] at h
          exact ⟨((hstep part).mp h).1, part, hpart, ((hstep part).mp h).2⟩
      · rintro ⟨hnames, part, hpart, h⟩
        exact ⟨f.name, rfl, Or.inr ⟨f, hf, rfl, hnew, part, hpart, (hstep part).mpr ⟨hnames, h⟩⟩⟩

/-- An object that tells fields once each is read as they are. -/
theorem read_members_eq_ok_iff (hlawful : r.IsLawful) (depth : Nat) (told : List (Field ρ × Node))
    (hfields : ∀ t ∈ told, t.1 ∈ r.fields) (hdistinct : (told.map (·.1.name)).Nodup)
    (ending : Option Fault) (a : ρ) :
    r.codec.read depth (.object (members told) ending) = .ok a ↔
      ∃ inner, Node.enter depth = .ok inner ∧ Field.readAll inner r.blank told = .ok a ∧
        ending = none ∧ ∀ f ∈ r.fields, f.isRequired = true → f.name ∈ told.map (·.1.name) := by
  rw [read_object_eq_ok_iff]
  refine exists_congr fun inner => ?_
  have hmembers := fun result => readMembers_members_eq_ok_iff hlawful inner [] r.blank told hfields
    hdistinct (fun _ _ => List.not_mem_nil) result
  constructor
  · rintro ⟨seen, henter, hread, hending, hrequired⟩
    rcases (hmembers (seen, a)).mp hread with ⟨hseen, hread⟩
    refine ⟨henter, hread, hending, fun f hf hreq => ?_⟩
    have hmem := hrequired f hf hreq
    rw [show seen = _ from hseen, List.append_nil, List.mem_reverse] at hmem
    exact hmem
  · rintro ⟨henter, hread, hending, hrequired⟩
    refine ⟨_, henter, (hmembers (_, a)).mpr ⟨rfl, hread⟩, hending, fun f hf hreq => ?_⟩
    rw [List.append_nil, List.mem_reverse]
    exact hrequired f hf hreq

/-- The items of an array are read into the first fields, and none of the others has to be
    told. -/
theorem readItems_eq_ok_iff (depth : Nat) (ending : Option Fault) (record : ρ)
    (fields : List (Field ρ)) (items : List Node) (a : ρ) :
    r.readItems depth ending record fields items = .ok a ↔
      items.length ≤ fields.length ∧ Field.readAll depth record (fields.zip items) = .ok a ∧
        ending = none ∧ ∀ f ∈ fields.drop items.length, f.isRequired = false := by
  induction fields generalizing items record with
  | nil =>
      cases items with
      | nil =>
          rw [readItems, bind_eq_ok_iff]
          constructor
          · rintro ⟨u, hclose, h⟩
            exact ⟨Nat.le_refl _, h, (orFault_close_eq_ok_iff ending u).mp hclose,
              fun f hf => absurd hf List.not_mem_nil⟩
          · rintro ⟨_, h, rfl, _⟩
            exact ⟨(), rfl, h⟩
      -- An item without a field is an error.
      | cons item items => exact ⟨nofun, fun h => absurd h.1 (Nat.not_succ_le_zero _)⟩
  | cons f fields ih =>
      cases items with
      | nil =>
          rw [readItems, bind_eq_ok_iff]
          -- The items have ended, and what is left must not have to be told.
          have hany : (f :: fields).any (·.isRequired) = true ↔
              ¬∀ g ∈ f :: fields, g.isRequired = false := by
            simp only [List.any_eq_true, not_forall, Bool.not_eq_false, exists_prop]
          constructor
          · rintro ⟨u, hclose, h⟩
            split at h
            · exact absurd h (mismatch_ne_ok _ _)
            · next hnone =>
              refine ⟨Nat.zero_le _, h, (orFault_close_eq_ok_iff ending u).mp hclose, ?_⟩
              exact not_not.mp fun hsome => hnone (hany.mpr hsome)
          · rintro ⟨_, h, rfl, hoptional⟩
            refine ⟨(), rfl, ?_⟩
            rw [if_neg fun hsome => hany.mp hsome hoptional]
            exact h
      | cons item items =>
          rw [readItems, bind_eq_ok_iff, List.zip_cons_cons, Field.readAll, bind_eq_ok_iff]
          simp only [ih, List.length_cons, Nat.add_le_add_iff_right, List.drop_succ_cons]
          constructor
          · rintro ⟨next, hnext, hle, h, hrest⟩
            exact ⟨hle, ⟨next, hnext, h⟩, hrest⟩
          · rintro ⟨hle, ⟨next, hnext, h⟩, hrest⟩
            exact ⟨next, hnext, hle, h, hrest⟩

/-- An array tells as many fields as it has items. -/
theorem map_fst_zip (fields : List (Field ρ)) (items : List Node) :
    (fields.zip items).map Prod.fst = fields.take items.length := by
  induction fields generalizing items with
  | nil => rw [List.zip_nil_left, List.take_nil, List.map_nil]
  | cons f fields ih =>
      cases items with
      | nil => rfl
      | cons item items =>
          rw [List.zip_cons_cons, List.map_cons, ih, List.length_cons, List.take_succ_cons]

/-- An array is read as the object that has its items for members. -/
theorem read_array_eq_ok_iff_object (hlawful : r.IsLawful) (depth : Nat) (items : List Node)
    (ending : Option Fault) (a : ρ) :
    r.codec.read depth (.array items ending) = .ok a ↔
      items.length ≤ r.fields.length ∧
        r.codec.read depth (.object (members (r.fields.zip items)) ending) = .ok a := by
  have hread : r.codec.read depth (.array items ending) = (do
      let depth ← orFault (Node.enter depth)
      r.readItems depth ending r.blank r.fields items) := rfl
  have hnames : (r.fields.zip items).map (·.1.name) =
      (r.fields.take items.length).map (·.name) := by
    rw [← map_fst_zip, List.map_map]
    rfl
  have hdistinct : ((r.fields.zip items).map (·.1.name)).Nodup := by
    rw [hnames]
    exact hlawful.names.sublist ((List.take_sublist _ _).map _)
  have hrequired : (∀ f ∈ r.fields.drop items.length, f.isRequired = false) ↔
      ∀ f ∈ r.fields, f.isRequired = true → f.name ∈ (r.fields.zip items).map (·.1.name) := by
    rw [hnames]
    constructor
    · intro hoptional f hf hreq
      rw [← List.take_append_drop items.length r.fields, List.mem_append] at hf
      rcases hf with hf | hf
      · exact List.mem_map_of_mem hf
      · exact absurd ((hoptional f hf).symm.trans hreq) nofun
    · -- A field behind the last item has a name that no item is told for.
      intro hnamed f hf
      by_contra hreq
      have hmem := List.mem_of_mem_drop hf
      rcases List.mem_map.mp (hnamed f hmem (Bool.not_eq_false _ ▸ hreq)) with ⟨g, hg, hname⟩
      obtain rfl := hlawful.eq_of_name (List.mem_of_mem_take hg) hmem hname
      exact List.disjoint_take_drop hlawful.names.of_map (Nat.le_refl _) hg hf
  rw [hread, bind_eq_ok_iff, read_members_eq_ok_iff hlawful depth _
    (fun t ht => (List.of_mem_zip ht).1) hdistinct, ← exists_and_left]
  refine exists_congr fun inner => ?_
  rw [orFault_eq_ok_iff, readItems_eq_ok_iff, hrequired]
  constructor
  · rintro ⟨henter, hle, hrest⟩
    exact ⟨hle, henter, hrest⟩
  · rintro ⟨hle, henter, hrest⟩
    exact ⟨henter, hle, hrest⟩

/-- If every field is read from what is written for a record, all of them together give their
    parts to any record, and no other field is changed. -/
theorem readAll_written (hlawful : r.IsLawful) (depth : Nat) (a record : ρ)
    (fields : List (Field ρ)) (hfields : ∀ f ∈ fields, f ∈ r.fields)
    (hdistinct : (fields.map (·.name)).Nodup)
    (hread : ∀ f ∈ fields, f.codec.read depth (f.write a).node = .ok (f.get a)) :
    ∃ b, Field.readAll depth record (fields.map fun f => (f, (f.write a).node)) = .ok b ∧
      (∀ f ∈ fields, f.get b = f.get a) ∧
        ∀ g ∈ r.fields, g.name ∉ fields.map (·.name) → g.get b = g.get record := by
  induction fields generalizing record with
  | nil => exact ⟨record, rfl, fun f hf => absurd hf List.not_mem_nil, fun _ _ _ => rfl⟩
  | cons f fields ih =>
      have hf := hfields f List.mem_cons_self
      rw [List.map_cons, List.nodup_cons] at hdistinct
      rcases ih (f.set record (f.get a)) (fun g hg => hfields g (List.mem_cons_of_mem f hg))
        hdistinct.2 (fun g hg => hread g (List.mem_cons_of_mem f hg)) with ⟨b, hb, htold, hkept⟩
      refine ⟨b, ?_, fun g hg => ?_, fun g hg hname => ?_⟩
      · rw [List.map_cons, Field.readAll_cons_eq_ok_iff]
        exact ⟨f.get a, hread f List.mem_cons_self, hb⟩
      · rcases List.mem_cons.mp hg with rfl | hg
        · -- The part was put in first, and no later field has its name.
          rw [hkept g hf hdistinct.1, hlawful.get_set g hf]
        · exact htold g hg
      · rw [List.map_cons, List.mem_cons, not_or] at hname
        rw [hkept g hg hname.2, hlawful.get_set_of_ne hf hg (Ne.symm hname.1)]

/-- The numbers that are written for a record are those of its parts. -/
theorem numbers_write (r : Record ρ) (a : ρ) :
    (r.codec.write a).numbers = r.fields.flatMap fun f => (f.write a).numbers := by
  have hwrite : r.codec.write a = .object (r.fields.map fun f => (f.name, f.write a)) := rfl
  rw [hwrite, Value.numbers, Value.memberNumbers_eq_flatMap, List.flatMap_map]

/-- A record whose parts are recovered one level deeper is recovered. -/
theorem recovers_codec (hlawful : r.IsLawful) (depth inner : Nat) (a : ρ)
    (henter : Node.enter depth = .ok inner)
    (hparts : ∀ f ∈ r.fields, f.codec.Recovers inner (f.get a)) : r.codec.Recovers depth a where
  read := by
    have hnode : (r.codec.write a).node =
        .object (members (r.fields.map fun f => (f, (f.write a).node))) none := by
      have hwrite : r.codec.write a = .object (r.fields.map fun f => (f.name, f.write a)) := rfl
      rw [hwrite, Value.node, Value.memberNodes_eq_map, members, List.map_map, List.map_map]
      rfl
    have hnames : (r.fields.map fun f => (f, (f.write a).node)).map (·.1.name) =
        r.fields.map (·.name) := by
      rw [List.map_map]
      rfl
    rcases readAll_written hlawful inner a r.blank r.fields (fun f hf => hf) hlawful.names
      (fun f hf => (hparts f hf).read) with ⟨b, hb, htold, _⟩
    rw [hnode, read_members_eq_ok_iff hlawful depth _ ?_ (hnames ▸ hlawful.names)]
    · -- Every part was told, so the blank record does not show anywhere.
      refine ⟨inner, henter, ?_, rfl, fun f hf _ => hnames ▸ List.mem_map_of_mem hf⟩
      rw [hb, hlawful.ext b a htold]
    · intro t ht
      rcases List.mem_map.mp ht with ⟨f, hf, rfl⟩
      exact hf
  numbers n hn := by
    rw [numbers_write, List.mem_flatMap] at hn
    rcases hn with ⟨f, hf, hn⟩
    exact (hparts f hf).numbers n hn

/-- What a record type reads it writes back: the parts that were told are recovered by their
    codecs, and the others are the parts of the blank record. -/
theorem isFaithful_codec (hlawful : r.IsLawful) (levels : Nat)
    (hfields : ∀ f ∈ r.fields, f.IsFaithful r.blank levels) : r.codec.IsFaithful (levels + 1) := by
  have hobject : ∀ depth members ending a, levels + 1 < depth →
      (∀ m ∈ members, m.2.IsSound) → r.codec.read depth (.object members ending) = .ok a →
        r.codec.Recovers depth a := by
    intro depth members ending a hdepth hsound hread
    rcases get_of_read_object hlawful depth members ending a hread with ⟨inner, henter, hparts⟩
    have hinner : levels < inner := by
      have := (Node.enter_eq_ok_iff depth inner).mp henter
      omega
    refine recovers_codec hlawful depth inner a henter fun f hf => ?_
    -- A part that was told is recovered by its codec, and one that was not is a default.
    rcases hparts f hf with ⟨node, hmem, hpart⟩ | ⟨_, heq⟩
    · exact (hfields f hf).codec.recovers inner node (f.get a) hinner (hsound _ hmem) hpart
    · exact heq ▸ (hfields f hf).blank inner hinner
  constructor
  · intro depth node a hdepth hsound hread
    cases node with
    | object ms ending =>
        rcases hsound with _ | _ | _ | _ | _ | ⟨_, _, hsound⟩
        exact hobject depth ms ending a hdepth hsound hread
    -- An array is read as an object, whose nodes are its items.
    | array items ending =>
        rcases hsound with _ | _ | _ | _ | ⟨_, _, hsound⟩ | _
        refine hobject depth _ ending a hdepth (fun m hm => ?_)
          ((read_array_eq_ok_iff_object hlawful depth items ending a).mp hread).2
        rcases List.mem_map.mp hm with ⟨t, ht, rfl⟩
        exact hsound t.2 (List.of_mem_zip ht).2
    | absent fault => exact absurd hread (Node.wrongType_ne_ok _ _ _)
    | word read => exact absurd hread (Node.wrongType_ne_ok _ _ _)
    | number read skip => exact absurd hread (Node.wrongType_ne_ok _ _ _)
    | string read skip => exact absurd hread (Node.wrongType_ne_ok _ _ _)
  · intro _ _ _ _ _ hnull
    exact absurd hnull nofun

/-- What is left out has its default, and so has what is null. -/
theorem keepsDefaults (hlawful : r.IsLawful) (levels : Nat)
    (hfields : ∀ f ∈ r.fields, f.IsFaithful r.blank levels) : r.KeepsDefaults := by
  have hobject : ∀ depth members ending a, r.codec.read depth (.object members ending) = .ok a →
      ∀ f ∈ r.fields,
        (∀ node, (Key.text (.ok f.name), node) ∈ members → node = .word (.ok .null)) →
          f.get a = f.get r.blank := by
    intro depth members ending a hread f hf honly
    rcases get_of_read_object hlawful depth members ending a hread with ⟨inner, _, hparts⟩
    rcases hparts f hf with ⟨node, hmem, hpart⟩ | ⟨_, hblank⟩
    · rw [honly node hmem] at hpart
      exact (hfields f hf).null inner _ hpart
    · exact hblank
  refine ⟨hobject, fun depth items ending a hread f hf honly => ?_⟩
  refine hobject depth _ ending a
    ((read_array_eq_ok_iff_object hlawful depth items ending a).mp hread).2 f hf fun node hmem => ?_
  rcases List.mem_map.mp hmem with ⟨⟨g, item⟩, ht, heq⟩
  rcases Prod.mk.inj heq with ⟨hname, rfl⟩
  obtain rfl := hlawful.eq_of_name (List.of_mem_zip ht).1 hf (Except.ok.inj (Key.text.inj hname))
  exact honly item ht

end Record

end Json

end Typings
