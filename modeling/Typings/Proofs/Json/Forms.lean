import Typings.Proofs.Json.Records

/-!
# Many Forms of One Record

A text may give each of its records as an object or as an array, and the members of an object in
any order, and two texts may differ in that choice at many places and many levels. `Retold` is
that difference: it is made of the steps from an array to the object that has its items for
members, and from one order of members to another, taken anywhere inside. Which places those are
depends on what is being read, since an array that is read as a sequence, or an object that is
read as a free value, stays what it is. So the relation goes along the codec.

No reader of the codec can tell two such documents apart (`Retold.read_eq_ok_iff`). Of the two
steps the second is the longer one. Exchanging two members exchanges the names that have been
seen and the parts that have been put in; the former are asked only for membership, and the
latter are independent.

## Main definitions

* `Retold`: Documents that differ in the forms of their records.

## Theorems

* `Record.readMembers_of_perm`: Members in another order.
* `Record.readMembers_append_congr`, `Codec.readItems_append_congr`: Members and items that are
  read alike.
* `Retold.read_eq_ok_iff`: Documents that differ in form are read alike.
-/

namespace Typings

namespace Json

/-- Documents that differ, for the reader of a codec, in the forms of their records only. -/
inductive Retold : {α : Type} → Codec α → Node → Node → Prop
  | refl {α : Type} (codec : Codec α) (n : Node) : Retold codec n n
  | symm {α : Type} (codec : Codec α) (n n' : Node) (h : Retold codec n n') : Retold codec n' n
  | trans {α : Type} (codec : Codec α) (n n' n'' : Node) (h : Retold codec n n')
      (h' : Retold codec n' n'') : Retold codec n n''
  | form {ρ : Type} (r : Record ρ) (hlawful : r.IsLawful) (items : List Node)
      (ending : Option Fault) (hle : items.length ≤ r.fields.length) :
      Retold r.codec (.array items ending)
        (.object (Record.members (r.fields.zip items)) ending)
  | order {ρ : Type} (r : Record ρ) (hlawful : r.IsLawful) (ms ms' : List (Key × Node))
      (hperm : ms.Perm ms') (ending : Option Fault) :
      Retold r.codec (.object ms ending) (.object ms' ending)
  | optional {α : Type} (codec : Codec α) (n n' : Node) (h : Retold codec n n') :
      Retold (Codec.optional codec) n n'
  | item {α : Type} (codec : Codec α) (before after : List Node) (ending : Option Fault)
      (n n' : Node) (h : Retold codec n n') :
      Retold (Codec.list codec) (.array (before ++ n :: after) ending)
        (.array (before ++ n' :: after) ending)
  | member {ρ : Type} (r : Record ρ) (hlawful : r.IsLawful) (f : Field ρ) (hf : f ∈ r.fields)
      (before after : List (Key × Node)) (ending : Option Fault) (n n' : Node)
      (h : Retold f.codec n n') :
      Retold r.codec (.object (before ++ (.text (.ok f.name), n) :: after) ending)
        (.object (before ++ (.text (.ok f.name), n') :: after) ending)

/-- Null has no other form. -/
theorem Retold.eq_null_iff {α : Type} {codec : Codec α} {n n' : Node} (h : Retold codec n n') :
    n = .word (.ok .null) ↔ n' = .word (.ok .null) := by
  induction h with
  | refl codec n => exact Iff.rfl
  | symm codec n n' _ ih => exact ih.symm
  | trans codec n n' n'' _ _ ih ih' => exact ih.trans ih'
  | form r hlawful items ending hle => exact ⟨nofun, nofun⟩
  | order r hlawful ms ms' hperm ending => exact ⟨nofun, nofun⟩
  | optional codec n n' _ ih => exact ih
  | item codec before after ending n n' _ _ => exact ⟨nofun, nofun⟩
  | member r hlawful f hf before after ending n n' _ _ => exact ⟨nofun, nofun⟩

/-- A sequence does not change with the form of one of its items. -/
theorem Codec.readItems_append_congr {α : Type} (codec : Codec α) (depth : Nat)
    (before after : List Node) (n n' : Node)
    (h : ∀ a, codec.read depth n = .ok a ↔ codec.read depth n' = .ok a) (values : List α) :
    codec.readItems depth (before ++ n :: after) = .ok values ↔
      codec.readItems depth (before ++ n' :: after) = .ok values := by
  induction before generalizing values with
  | nil => simp only [List.nil_append, readItems_cons_eq_ok_iff, h]
  | cons item before ih => simp only [List.cons_append, readItems_cons_eq_ok_iff, ih]

/-- An object does not change with the form of one of its members. -/
theorem Record.readMembers_append_congr {ρ : Type} {r : Record ρ} (hlawful : r.IsLawful)
    (depth : Nat) (f : Field ρ) (hf : f ∈ r.fields) (before after : List (Key × Node)) (n n' : Node)
    (h : ∀ a, f.codec.read depth n = .ok a ↔ f.codec.read depth n' = .ok a) (seen : List String)
    (record : ρ) (result : List String × ρ) :
    r.readMembers depth seen record (before ++ (.text (.ok f.name), n) :: after) = .ok result ↔
      r.readMembers depth seen record (before ++ (.text (.ok f.name), n') :: after) =
        .ok result := by
  induction before generalizing seen record with
  | nil =>
      -- One direction is enough, since the two nodes can be exchanged.
      have hstep : ∀ m m' : Node,
          (∀ a, f.codec.read depth m = .ok a ↔ f.codec.read depth m' = .ok a) →
            r.readMembers depth seen record ((.text (.ok f.name), m) :: after) = .ok result →
              r.readMembers depth seen record ((.text (.ok f.name), m') :: after) = .ok result := by
        intro m m' hm hread
        rw [readMembers_cons_eq_ok_iff hlawful] at hread ⊢
        rcases hread with ⟨name, hname, ⟨hnone, _⟩ | ⟨g, hg, hgname, hseen, part, hpart, hrest⟩⟩
        · exact absurd (Except.ok.inj (Key.text.inj hname)) (hnone f hf)
        · obtain rfl := hlawful.eq_of_name hf hg
            ((Except.ok.inj (Key.text.inj hname)).trans hgname.symm)
          exact ⟨name, hname, Or.inr ⟨f, hg, hgname, hseen, part, (hm part).mp hpart, hrest⟩⟩
      exact ⟨hstep n n' h, hstep n' n fun a => (h a).symm⟩
  | cons m before ih =>
      simp only [List.cons_append, readMembers_cons_eq_ok_iff hlawful, ih]

/-- It does not matter in which order two parts are put in. -/
theorem Record.IsLawful.set_set {ρ : Type} {r : Record ρ} (hlawful : r.IsLawful) {f g : Field ρ}
    (hf : f ∈ r.fields) (hg : g ∈ r.fields) (hname : f.name ≠ g.name) (a : ρ) (p : f.Part)
    (q : g.Part) : g.set (f.set a p) q = f.set (g.set a q) p := by
  -- Records are told by their fields: the one, the other, and those that neither changes.
  refine hlawful.ext _ _ fun d hd => ?_
  by_cases hdf : d.name = f.name
  · obtain rfl := hlawful.eq_of_name hd hf hdf
    rw [hlawful.get_set_of_ne hg hd (Ne.symm hname), hlawful.get_set d hd, hlawful.get_set d hd]
  · rw [hlawful.get_set_of_ne hf hd (Ne.symm hdf)]
    by_cases hdg : d.name = g.name
    · obtain rfl := hlawful.eq_of_name hd hg hdg
      rw [hlawful.get_set d hd, hlawful.get_set d hd]
    · rw [hlawful.get_set_of_ne hg hd (Ne.symm hdg), hlawful.get_set_of_ne hg hd (Ne.symm hdg),
        hlawful.get_set_of_ne hf hd (Ne.symm hdf)]

/-- Of the names that have been seen only membership counts. -/
theorem Record.readMembers_of_mem_iff {ρ : Type} {r : Record ρ} (hlawful : r.IsLawful)
    (depth : Nat) (ms : List (Key × Node)) (seen seen' : List String)
    (hseen : ∀ name, name ∈ seen ↔ name ∈ seen') (record a : ρ) (told : List String)
    (h : r.readMembers depth seen record ms = .ok (told, a)) :
    ∃ told', r.readMembers depth seen' record ms = .ok (told', a) ∧
      ∀ name, name ∈ told ↔ name ∈ told' := by
  induction ms generalizing seen seen' record with
  | nil =>
      rcases Prod.mk.inj (Except.ok.inj h) with ⟨rfl, rfl⟩
      exact ⟨seen', rfl, hseen⟩
  | cons m ms ih =>
      rcases (readMembers_cons_eq_ok_iff hlawful _ _ _ _ _ _ _).mp h with
        ⟨name, hname, ⟨hnone, hpass, h⟩ | ⟨f, hf, hfname, hnew, part, hpart, h⟩⟩
      · rcases ih seen seen' hseen record h with ⟨told', hread, htold⟩
        exact ⟨told', (readMembers_cons_eq_ok_iff hlawful _ _ _ _ _ _ _).mpr
          ⟨name, hname, Or.inl ⟨hnone, hpass, hread⟩⟩, htold⟩
      · -- Both know one more name from here on.
        have hcons : ∀ other, other ∈ name :: seen ↔ other ∈ name :: seen' := fun other => by
          rw [List.mem_cons, List.mem_cons, hseen]
        rcases ih _ _ hcons _ h with ⟨told', hread, htold⟩
        exact ⟨told', (readMembers_cons_eq_ok_iff hlawful _ _ _ _ _ _ _).mpr
          ⟨name, hname, Or.inr ⟨f, hf, hfname, fun hmem => hnew ((hseen name).mpr hmem), part,
            hpart, hread⟩⟩, htold⟩

/-- Two members beside each other can be exchanged: they are read into different fields, or passed
    over. -/
theorem Record.readMembers_swap {ρ : Type} {r : Record ρ} (hlawful : r.IsLawful) (depth : Nat)
    (m m' : Key × Node) (ms : List (Key × Node)) (seen : List String) (record a : ρ)
    (told : List String) (h : r.readMembers depth seen record (m :: m' :: ms) = .ok (told, a)) :
    ∃ told', r.readMembers depth seen record (m' :: m :: ms) = .ok (told', a) ∧
      ∀ name, name ∈ told ↔ name ∈ told' := by
  rcases (readMembers_cons_eq_ok_iff hlawful _ _ _ _ _ _ _).mp h with
    ⟨name, hname, ⟨hnone, hpass, h⟩ | ⟨f, hf, rfl, hnew, part, hpart, h⟩⟩
  · -- The first is passed over, in either place.
    have hfirst : ∀ seen record told,
        r.readMembers depth seen record ms = .ok (told, a) →
          r.readMembers depth seen record (m :: ms) = .ok (told, a) := fun _ _ _ h =>
      (readMembers_cons_eq_ok_iff hlawful _ _ _ _ _ _ _).mpr
        ⟨name, hname, Or.inl ⟨hnone, hpass, h⟩⟩
    refine ⟨told, ?_, fun _ => Iff.rfl⟩
    rw [readMembers_cons_eq_ok_iff hlawful] at h ⊢
    rcases h with ⟨name', hname', ⟨hnone', hpass', h⟩ | ⟨g, hg, hgname, hnew, part, hpart, h⟩⟩
    · exact ⟨name', hname', Or.inl ⟨hnone', hpass', hfirst _ _ _ h⟩⟩
    · exact ⟨name', hname', Or.inr ⟨g, hg, hgname, hnew, part, hpart, hfirst _ _ _ h⟩⟩
  · rcases (readMembers_cons_eq_ok_iff hlawful _ _ _ _ _ _ _).mp h with
      ⟨name', hname', ⟨hnone', hpass', h⟩ | ⟨g, hg, rfl, hnew', part', hpart', h⟩⟩
    · refine ⟨told, ?_, fun _ => Iff.rfl⟩
      refine (readMembers_cons_eq_ok_iff hlawful _ _ _ _ _ _ _).mpr
        ⟨name', hname', Or.inl ⟨hnone', hpass', ?_⟩⟩
      exact (readMembers_cons_eq_ok_iff hlawful _ _ _ _ _ _ _).mpr
        ⟨f.name, hname, Or.inr ⟨f, hf, rfl, hnew, part, hpart, h⟩⟩
    · rw [List.mem_cons, not_or] at hnew'
      rw [hlawful.set_set hf hg (Ne.symm hnew'.1)] at h
      -- The names have been seen in another order, and only membership counts.
      have hseen : ∀ name, name ∈ g.name :: f.name :: seen ↔ name ∈ f.name :: g.name :: seen :=
        fun name => by simp only [List.mem_cons, or_left_comm]
      rcases readMembers_of_mem_iff hlawful depth ms _ _ hseen _ a told h with ⟨told', hread, htold⟩
      refine ⟨told', ?_, htold⟩
      refine (readMembers_cons_eq_ok_iff hlawful _ _ _ _ _ _ _).mpr
        ⟨g.name, hname', Or.inr ⟨g, hg, rfl, hnew'.2, part', hpart', ?_⟩⟩
      exact (readMembers_cons_eq_ok_iff hlawful _ _ _ _ _ _ _).mpr
        ⟨f.name, hname, Or.inr ⟨f, hf, rfl,
          fun hmem => (List.mem_cons.mp hmem).elim (Ne.symm hnew'.1) hnew, part, hpart, hread⟩⟩

/-- The members of a record may stand in any order. -/
theorem Record.readMembers_of_perm {ρ : Type} {r : Record ρ} (hlawful : r.IsLawful) (depth : Nat)
    {ms ms' : List (Key × Node)} (hperm : ms.Perm ms') (seen : List String) (record a : ρ)
    (told : List String) (h : r.readMembers depth seen record ms = .ok (told, a)) :
    ∃ told', r.readMembers depth seen record ms' = .ok (told', a) ∧
      ∀ name, name ∈ told ↔ name ∈ told' := by
  induction hperm generalizing seen record told with
  | nil => exact ⟨told, h, fun _ => Iff.rfl⟩
  | cons m _ ih =>
      rcases (readMembers_cons_eq_ok_iff hlawful _ _ _ _ _ _ _).mp h with
        ⟨name, hname, ⟨hnone, hpass, h⟩ | ⟨f, hf, hfname, hnew, part, hpart, h⟩⟩
      · rcases ih _ _ _ h with ⟨told', hread, htold⟩
        exact ⟨told', (readMembers_cons_eq_ok_iff hlawful _ _ _ _ _ _ _).mpr
          ⟨name, hname, Or.inl ⟨hnone, hpass, hread⟩⟩, htold⟩
      · rcases ih _ _ _ h with ⟨told', hread, htold⟩
        exact ⟨told', (readMembers_cons_eq_ok_iff hlawful _ _ _ _ _ _ _).mpr
          ⟨name, hname, Or.inr ⟨f, hf, hfname, hnew, part, hpart, hread⟩⟩, htold⟩
  | swap m m' ms => exact readMembers_swap hlawful depth m' m ms seen record a told h
  | trans _ _ ih ih' =>
      rcases ih _ _ _ h with ⟨middle, hmiddle, hsame⟩
      rcases ih' _ _ _ hmiddle with ⟨told', hread, hsame'⟩
      exact ⟨told', hread, fun name => (hsame name).trans (hsame' name)⟩

/-- Documents that differ in the forms of their records are read alike. The induction is on the
    steps from one to the other, and each of them is taken at every depth. -/
theorem Retold.read_eq_ok_iff {α : Type} {codec : Codec α} {n n' : Node} (h : Retold codec n n')
    (depth : Nat) (a : α) : codec.read depth n = .ok a ↔ codec.read depth n' = .ok a := by
  induction h generalizing depth with
  | refl codec n => exact Iff.rfl
  | symm codec n n' _ ih => exact (ih depth a).symm
  | trans codec n n' n'' _ _ ih ih' => exact (ih depth a).trans (ih' depth a)
  | form r hlawful items ending hle =>
      rw [Record.read_array_eq_ok_iff_object hlawful]
      exact and_iff_right hle
  | order r hlawful ms ms' hperm ending =>
      have hstep : ∀ ms ms' : List (Key × Node), ms.Perm ms' →
          r.codec.read depth (.object ms ending) = .ok a →
            r.codec.read depth (.object ms' ending) = .ok a := by
        intro ms ms' hperm hread
        rcases (Record.read_object_eq_ok_iff depth ms ending a).mp hread with
          ⟨inner, told, henter, hmembers, hending, hrequired⟩
        rcases Record.readMembers_of_perm hlawful inner hperm [] r.blank a told hmembers with
          ⟨told', hmembers', htold⟩
        exact (Record.read_object_eq_ok_iff depth ms' ending a).mpr
          ⟨inner, told', henter, hmembers', hending,
            fun f hf hreq => (htold f.name).mp (hrequired f hf hreq)⟩
      exact ⟨hstep ms ms' hperm, hstep ms' ms hperm.symm⟩
  | optional codec n n' hform ih =>
      -- Null is set apart, and has no other form.
      simp only [Codec.read_optional_eq_ok_iff, ih, hform.eq_null_iff, ne_eq]
  | item codec before after ending n n' _ ih =>
      have hstep : ∀ m m' : Node,
          (∀ depth a, codec.read depth m = .ok a ↔ codec.read depth m' = .ok a) →
            (Codec.list codec).read depth (.array (before ++ m :: after) ending) = .ok a →
              (Codec.list codec).read depth (.array (before ++ m' :: after) ending) = .ok a := by
        intro m m' hm hread
        rcases (Codec.read_list_eq_ok_iff codec depth _ a).mp hread with
          ⟨items, inner, heq, henter, hitems⟩
        rcases Node.array.inj heq with ⟨rfl, rfl⟩
        refine (Codec.read_list_eq_ok_iff codec depth _ a).mpr ⟨_, inner, rfl, henter, ?_⟩
        exact (codec.readItems_append_congr inner before after m m' (hm inner) a).mp hitems
      exact ⟨hstep n n' ih, hstep n' n fun depth a => (ih depth a).symm⟩
  | member r hlawful f hf before after ending n n' _ ih =>
      have hmembers := fun depth =>
        Record.readMembers_append_congr hlawful depth f hf before after n n' (ih depth)
      simp only [Record.read_object_eq_ok_iff, hmembers]

end Json

end Typings
