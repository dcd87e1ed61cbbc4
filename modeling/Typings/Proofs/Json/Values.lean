import Typings.Json.Node
import Typings.Proofs.Requirements

/-!
# Values in Sound Documents

A document can be broken in many ways and a value in none. The document of a value
(`Value.node`) is what a text leads to that spells the value without a fault, and reading it
gives the value again. That takes two things which every value that was read has: it is not
nested deeper than the reader goes, and no name occurs twice in an object.

A repeated name keeps its first place, so the names of an object are in the order in which
they first occur in the text.

Values and documents nest through lists. Both have an induction of their own, in which
everything inside a container is at hand at once.

## Main definitions

* `Value.node`: The sound document of a value.
* `Value.numbers`: All numbers in a value.
* `Number.InRange`: A number that a text can spell.
* `Number.isInteger`: Whether a number is exact.
* `Node.IsSound`: What a reader finds in a document can be spelled.

## Theorems

* `Value.induct`, `Node.induct`: Induction into containers.
* `Node.value_array_eq_ok_iff`, `Node.value_object_eq_ok_iff`: When a container is read.
* `Node.map_fst_memberValues`: The names of an object, in order.
* `Node.value_node`: What was read is read again from its own document.
* `Node.numbers_value`: What was read can be spelled.
-/

namespace Typings

namespace Json

/-- A step that needs another step's result succeeds if both do. -/
theorem bind_eq_ok_iff {ε α β : Type} (x : Except ε α) (f : α → Except ε β) (b : β) :
    (x >>= f) = .ok b ↔ ∃ a, x = .ok a ∧ f a = .ok b := by
  cases x with
  | error e => exact ⟨fun h => absurd h (by simp [bind, Except.bind]), fun ⟨_, h, _⟩ => nomatch h⟩
  | ok a => exact ⟨fun h => ⟨a, rfl, h⟩, fun ⟨_, h, hf⟩ => Except.ok.inj h ▸ hf⟩

theorem map_eq_ok_iff {ε α β : Type} (f : α → β) (x : Except ε α) (b : β) :
    x.map f = .ok b ↔ ∃ a, x = .ok a ∧ f a = b := by
  cases x with
  | error e => exact ⟨nofun, fun ⟨_, h, _⟩ => nomatch h⟩
  | ok a =>
      refine ⟨fun h => ⟨a, rfl, Except.ok.inj h⟩, ?_⟩
      rintro ⟨c, h, rfl⟩
      rw [Except.ok.inj h]
      rfl

/-- A number that a text can spell: an integer of sixty-four bits, or a floating point
    number. -/
def Number.InRange : Number → Prop
  | .integer i => -(Nat.pow 2 63 : Nat) ≤ i ∧ i < (Nat.pow 2 64 : Nat)
  | .float _ => True

/-- Whether a number is exact, which integers are. -/
def Number.isInteger : Number → Bool
  | .integer _ => true
  | .float _ => false

namespace Value

/-- Induction into arrays and objects. -/
theorem induct {motive : Value → Prop} (null : motive .null) (bool : ∀ b, motive (.bool b))
    (number : ∀ n, motive (.number n)) (string : ∀ s, motive (.string s))
    (array : ∀ items, (∀ v ∈ items, motive v) → motive (.array items))
    (object : ∀ members, (∀ m ∈ members, motive m.2) → motive (.object members)) :
    ∀ v, motive v
  | .null => null
  | .bool b => bool b
  | .number n => number n
  | .string s => string s
  | .array items =>
    array items fun v hv =>
      have := List.sizeOf_lt_of_mem hv
      induct null bool number string array object v
  | .object members =>
    object members fun m hm =>
      have := List.sizeOf_lt_of_mem hm
      induct null bool number string array object m.2
termination_by v => sizeOf v
decreasing_by
  · simp only [Value.array.sizeOf_spec]
    omega
  · cases m
    simp only [Value.object.sizeOf_spec, Prod.mk.sizeOf_spec] at *
    omega

mutual

/-- The sound document of a value. -/
def node : Value → Node
  | .null => .word (.ok .null)
  | .bool b => .word (.ok (.bool b))
  | .number n => .number (.ok n) none
  | .string s => .string (.ok s) none
  | .array items => .array (nodes items) none
  | .object members => .object (memberNodes members) none

/-- The documents of items. -/
def nodes : List Value → List Node
  | [] => []
  | item :: items => node item :: nodes items

/-- The documents of members. -/
def memberNodes : List (String × Value) → List (Key × Node)
  | [] => []
  | (name, value) :: members => (.text (.ok name), node value) :: memberNodes members

end

theorem memberNodes_eq_map (members : List (String × Value)) :
    memberNodes members = members.map fun m => (.text (.ok m.1), m.2.node) := by
  induction members with
  | nil => rfl
  | cons m rest ih => rw [memberNodes, ih, List.map_cons]

mutual

/-- All numbers in a value, in order. -/
def numbers : Value → List Number
  | .number n => [n]
  | .array items => itemNumbers items
  | .object members => memberNumbers members
  | _ => []

/-- All numbers in items. -/
def itemNumbers : List Value → List Number
  | [] => []
  | item :: items => numbers item ++ itemNumbers items

/-- All numbers in members. -/
def memberNumbers : List (String × Value) → List Number
  | [] => []
  | (_, value) :: members => numbers value ++ memberNumbers members

end

theorem itemNumbers_eq_flatMap (items : List Value) :
    itemNumbers items = items.flatMap numbers := by
  induction items with
  | nil => rfl
  | cons item rest ih => rw [itemNumbers, ih, List.flatMap_cons]

theorem memberNumbers_eq_flatMap (members : List (String × Value)) :
    memberNumbers members = members.flatMap fun m => m.2.numbers := by
  induction members with
  | nil => rfl
  | cons m rest ih => rw [memberNumbers, ih, List.flatMap_cons]

end Value

namespace Node

/-- Induction into arrays and objects. -/
theorem induct {motive : Node → Prop} (absent : ∀ fault, motive (.absent fault))
    (word : ∀ read, motive (.word read)) (number : ∀ read skip, motive (.number read skip))
    (string : ∀ read skip, motive (.string read skip))
    (array : ∀ items ending, (∀ n ∈ items, motive n) → motive (.array items ending))
    (object : ∀ members ending, (∀ m ∈ members, motive m.2) → motive (.object members ending)) :
    ∀ n, motive n
  | .absent fault => absent fault
  | .word read => word read
  | .number read skip => number read skip
  | .string read skip => string read skip
  | .array items ending =>
    array items ending fun n hn =>
      have := List.sizeOf_lt_of_mem hn
      induct absent word number string array object n
  | .object members ending =>
    object members ending fun m hm =>
      have := List.sizeOf_lt_of_mem hm
      induct absent word number string array object m.2
termination_by n => sizeOf n
decreasing_by
  · simp only [Node.array.sizeOf_spec]
    omega
  · cases m
    simp only [Node.object.sizeOf_spec, Prod.mk.sizeOf_spec] at *
    omega

/-- What a reader finds in a document can be spelled: words are those that there are, and
    numbers are in range. -/
inductive IsSound : Node → Prop
  | absent (fault : Fault) : IsSound (.absent fault)
  | word (read : Except Fault Found)
      (hread : ∀ found, read = .ok found → found = .null ∨ ∃ b, found = .bool b) :
      IsSound (.word read)
  | number (read : Except Fault Number) (skip : Option Fault)
      (hread : ∀ n, read = .ok n → n.InRange) : IsSound (.number read skip)
  | string (read : Except Fault String) (skip : Option Fault) : IsSound (.string read skip)
  | array (items : List Node) (ending : Option Fault) (hitems : ∀ n ∈ items, IsSound n) :
      IsSound (.array items ending)
  | object (members : List (Key × Node)) (ending : Option Fault)
      (hmembers : ∀ m ∈ members, IsSound m.2) : IsSound (.object members ending)

theorem close_eq_ok_iff (ending : Option Fault) (u : Unit) :
    close ending = .ok u ↔ ending = none := by
  cases ending with
  | none => exact ⟨fun _ => rfl, fun _ => rfl⟩
  | some fault => exact ⟨nofun, nofun⟩

theorem enter_eq_ok_iff (depth inner : Nat) :
    enter depth = .ok inner ↔ depth = inner + 1 ∧ 0 < inner := by
  unfold enter
  by_cases h : depth ≤ 1
  · rw [if_pos h]
    exact iff_of_false nofun (by omega)
  · rw [if_neg h, Except.ok.injEq]
    omega

/-- An array is read item by item, and has to be closed. -/
theorem value_array_eq_ok_iff (depth : Nat) (items : List Node) (ending : Option Fault)
    (v : Value) :
    value depth (.array items ending) = .ok v ↔
      ∃ inner values, enter depth = .ok inner ∧ itemValues inner items = .ok values ∧
        ending = none ∧ v = .array values := by
  rw [value, bind_eq_ok_iff]
  constructor
  · rintro ⟨inner, henter, h⟩
    rcases (bind_eq_ok_iff _ _ _).mp h with ⟨values, hvalues, h⟩
    rcases (bind_eq_ok_iff _ _ _).mp h with ⟨u, hclose, h⟩
    exact ⟨inner, values, henter, hvalues, (close_eq_ok_iff ending u).mp hclose,
      (Except.ok.inj h).symm⟩
  · rintro ⟨inner, values, henter, hvalues, rfl, rfl⟩
    exact ⟨inner, henter, (bind_eq_ok_iff _ _ _).mpr ⟨values, hvalues, rfl⟩⟩

/-- An object is read member by member, and has to be closed. -/
theorem value_object_eq_ok_iff (depth : Nat) (members : List (Key × Node)) (ending : Option Fault)
    (v : Value) :
    value depth (.object members ending) = .ok v ↔
      ∃ inner values, enter depth = .ok inner ∧ memberValues inner [] members = .ok values ∧
        ending = none ∧ v = .object values := by
  rw [value, bind_eq_ok_iff]
  constructor
  · rintro ⟨inner, henter, h⟩
    rcases (bind_eq_ok_iff _ _ _).mp h with ⟨values, hvalues, h⟩
    rcases (bind_eq_ok_iff _ _ _).mp h with ⟨u, hclose, h⟩
    exact ⟨inner, values, henter, hvalues, (close_eq_ok_iff ending u).mp hclose,
      (Except.ok.inj h).symm⟩
  · rintro ⟨inner, values, henter, hvalues, rfl, rfl⟩
    exact ⟨inner, henter, (bind_eq_ok_iff _ _ _).mpr ⟨values, hvalues, rfl⟩⟩

theorem itemValues_cons_eq_ok_iff (depth : Nat) (item : Node) (items : List Node)
    (values : List Value) :
    itemValues depth (item :: items) = .ok values ↔
      ∃ v rest, value depth item = .ok v ∧ itemValues depth items = .ok rest ∧
        values = v :: rest := by
  rw [itemValues, bind_eq_ok_iff]
  constructor
  · rintro ⟨v, hv, h⟩
    rcases (bind_eq_ok_iff _ _ _).mp h with ⟨rest, hrest, h⟩
    exact ⟨v, rest, hv, hrest, (Except.ok.inj h).symm⟩
  · rintro ⟨v, rest, hv, hrest, rfl⟩
    exact ⟨v, hv, (bind_eq_ok_iff _ _ _).mpr ⟨rest, hrest, rfl⟩⟩

/-- Items that are read again one by one are read again together. -/
theorem itemValues_nodes (depth : Nat) (values : List Value)
    (hvalues : ∀ v ∈ values, value depth v.node = .ok v) :
    itemValues depth (Value.nodes values) = .ok values := by
  induction values with
  | nil => rfl
  | cons v rest ih =>
      rw [Value.nodes, itemValues_cons_eq_ok_iff]
      exact ⟨v, rest, hvalues v List.mem_cons_self,
        ih fun w hw => hvalues w (List.mem_cons_of_mem v hw), rfl⟩

/-- What holds of every value read from an item holds of every value of the array. -/
theorem forall_mem_itemValues {motive : Value → Prop} (depth : Nat) (items : List Node)
    (values : List Value) (hitems : ∀ n ∈ items, ∀ v, value depth n = .ok v → motive v)
    (h : itemValues depth items = .ok values) : ∀ v ∈ values, motive v := by
  induction items generalizing values with
  | nil =>
      rw [itemValues, Except.ok.injEq] at h
      rw [← h]
      exact fun v hv => absurd hv List.not_mem_nil
  | cons item rest ih =>
      rcases (itemValues_cons_eq_ok_iff depth item rest values).mp h with ⟨w, more, hw, hmore, rfl⟩
      rw [List.forall_mem_cons]
      exact ⟨hitems item List.mem_cons_self w hw,
        ih more (fun n hn => hitems n (List.mem_cons_of_mem item hn)) hmore⟩

theorem keyName_eq_ok_iff (key : Key) (name : String) :
    keyName key = .ok name ↔ key = .text (.ok name) := by
  cases key with
  | text read =>
      rw [keyName]
      exact ⟨congrArg Key.text, Key.text.inj⟩
  | bare read => exact ⟨nofun, nofun⟩

theorem memberValues_cons_eq_ok_iff (depth : Nat) (done : List (String × Value)) (key : Key)
    (node : Node) (members : List (Key × Node)) (values : List (String × Value)) :
    memberValues depth done ((key, node) :: members) = .ok values ↔
      ∃ name v, key = .text (.ok name) ∧ value depth node = .ok v ∧
        memberValues depth (putMember done name v) members = .ok values := by
  rw [memberValues, bind_eq_ok_iff]
  constructor
  · rintro ⟨name, hname, h⟩
    rcases (bind_eq_ok_iff _ _ _).mp h with ⟨v, hv, h⟩
    exact ⟨name, v, (keyName_eq_ok_iff key name).mp hname, hv, h⟩
  · rintro ⟨name, v, hname, hv, h⟩
    exact ⟨name, (keyName_eq_ok_iff key name).mpr hname, (bind_eq_ok_iff _ _ _).mpr ⟨v, hv, h⟩⟩

/-- A name that is given a value keeps its place, or comes last. -/
theorem map_fst_putMember (members : List (String × Value)) (name : String) (v : Value) :
    (putMember members name v).map Prod.fst = addNew (members.map Prod.fst) name := by
  -- Whether a name is there is asked of the members, and here of their names.
  have hany : (members.any fun m => m.1 = name) = true ↔ name ∈ members.map Prod.fst := by
    simp only [List.any_eq_true, decide_eq_true_eq, List.mem_map]
  by_cases hmem : name ∈ members.map Prod.fst
  · rw [putMember, if_pos (hany.mpr hmem), addNew, if_pos hmem, List.map_map]
    refine List.map_congr_left fun m _ => ?_
    by_cases hm : m.1 = name
    · rw [Function.comp_apply, if_pos hm, hm]
    · rw [Function.comp_apply, if_neg hm]
  · rw [putMember, if_neg fun h => hmem (hany.mp h), addNew, if_neg hmem, List.map_append]
    rfl

/-- The names of an object are those of the members that it is read from, each where it
    comes first. -/
theorem map_fst_memberValues (depth : Nat) (members : List (Key × Node))
    (done values : List (String × Value)) (h : memberValues depth done members = .ok values) :
    ∃ names : List String, members.map Prod.fst = names.map (fun name => Key.text (.ok name)) ∧
      values.map Prod.fst = addAllNew (done.map Prod.fst) names := by
  induction members generalizing done with
  | nil =>
      rw [memberValues, Except.ok.injEq] at h
      exact ⟨[], rfl, h ▸ rfl⟩
  | cons m rest ih =>
      rcases (memberValues_cons_eq_ok_iff depth done m.1 m.2 rest values).mp h with
        ⟨name, v, hname, _, hrest⟩
      rcases ih _ hrest with ⟨names, hkeys, hnames⟩
      refine ⟨name :: names, ?_, ?_⟩
      · rw [List.map_cons, List.map_cons, hname, hkeys]
      · rw [hnames, map_fst_putMember]
        rfl

/-- Members that are given new names one after the other are put behind each other. -/
theorem memberValues_memberNodes (depth : Nat) (done members : List (String × Value))
    (hnodup : ((done ++ members).map Prod.fst).Nodup)
    (hvalues : ∀ m ∈ members, value depth m.2.node = .ok m.2) :
    memberValues depth done (Value.memberNodes members) = .ok (done ++ members) := by
  induction members generalizing done with
  | nil => rw [Value.memberNodes, memberValues, List.append_nil]
  | cons m rest ih =>
      rw [Value.memberNodes, memberValues_cons_eq_ok_iff]
      refine ⟨m.1, m.2, rfl, hvalues m List.mem_cons_self, ?_⟩
      -- The name is not among those before it, so nothing is put in the place of anything.
      have hput : putMember done m.1 m.2 = done ++ [m] := by
        rw [putMember, if_neg]
        simp only [List.any_eq_true, decide_eq_true_eq, not_exists, not_and]
        intro d hd heq
        rw [List.map_append, List.nodup_append] at hnodup
        exact hnodup.2.2 d.1 (List.mem_map_of_mem hd) m.1
          (List.mem_map_of_mem List.mem_cons_self) heq
      rw [List.append_cons] at hnodup ⊢
      rw [hput]
      exact ih (done ++ [m]) hnodup fun d hd => hvalues d (List.mem_cons_of_mem m hd)

/-- Every value that is put into an object comes from there or from one of the members. -/
theorem mem_putMember {members : List (String × Value)} {name : String} {v : Value}
    {m : String × Value} (hm : m ∈ putMember members name v) : m ∈ members ∨ m.2 = v := by
  unfold putMember at hm
  split at hm
  · rcases List.mem_map.mp hm with ⟨d, hd, rfl⟩
    by_cases hname : d.1 = name
    · rw [if_pos hname]
      exact Or.inr rfl
    · rw [if_neg hname]
      exact Or.inl hd
  · rcases List.mem_append.mp hm with hmem | hnew
    · exact Or.inl hmem
    · exact Or.inr (congrArg Prod.snd (List.mem_singleton.mp hnew))

/-- What holds of every value read from a member holds of every value of the object. -/
theorem forall_mem_memberValues {motive : Value → Prop} (depth : Nat) (members : List (Key × Node))
    (done values : List (String × Value))
    (hmembers : ∀ m ∈ members, ∀ v, value depth m.2 = .ok v → motive v)
    (hdone : ∀ m ∈ done, motive m.2) (h : memberValues depth done members = .ok values) :
    ∀ m ∈ values, motive m.2 := by
  induction members generalizing done with
  | nil =>
      rw [memberValues, Except.ok.injEq] at h
      exact h ▸ hdone
  | cons m rest ih =>
      rcases (memberValues_cons_eq_ok_iff depth done m.1 m.2 rest values).mp h with
        ⟨name, v, _, hv, hrest⟩
      refine ih _ (fun d hd => hmembers d (List.mem_cons_of_mem m hd)) (fun d hd => ?_) hrest
      -- A member that is there is an old one, or it has the value that was just read.
      rcases mem_putMember hd with hold | hnew
      · exact hdone d hold
      · exact hnew ▸ hmembers m List.mem_cons_self v hv

/-- What was read is read again from its own document, and as deep. -/
theorem value_node (n : Node) (depth : Nat) (v : Value) (h : value depth n = .ok v) :
    value depth v.node = .ok v := by
  induction n using Node.induct generalizing depth v with
  | absent fault => exact absurd h nofun
  | word read =>
      rw [value, map_eq_ok_iff] at h
      rcases h with ⟨found, _, rfl⟩
      cases found <;> rfl
  | number read skip =>
      rw [value, map_eq_ok_iff] at h
      rcases h with ⟨x, _, rfl⟩
      rfl
  | string read skip =>
      rw [value, map_eq_ok_iff] at h
      rcases h with ⟨x, _, rfl⟩
      rfl
  | array items ending ih =>
      rcases (value_array_eq_ok_iff depth items ending v).mp h with
        ⟨inner, values, henter, hvalues, _, rfl⟩
      rw [Value.node, value_array_eq_ok_iff]
      refine ⟨inner, values, henter, itemValues_nodes inner values ?_, rfl, rfl⟩
      exact forall_mem_itemValues inner items values (fun n hn w => ih n hn inner w) hvalues
  | object members ending ih =>
      rcases (value_object_eq_ok_iff depth members ending v).mp h with
        ⟨inner, values, henter, hvalues, _, rfl⟩
      rw [Value.node, value_object_eq_ok_iff]
      refine ⟨inner, values, henter, ?_, rfl, rfl⟩
      -- The names are different, since a repeated one was put in the place of the first.
      have hnodup : (([] ++ values).map Prod.fst).Nodup := by
        rcases map_fst_memberValues inner members [] values hvalues with ⟨names, _, hnames⟩
        rw [List.nil_append, hnames]
        exact nodup_addAllNew _ names List.nodup_nil
      exact memberValues_memberNodes inner [] values hnodup
        (forall_mem_memberValues inner members [] values (fun m hm w => ih m hm inner w)
          (fun m hm => absurd hm List.not_mem_nil) hvalues)

/-- What was read from a sound document can be spelled. -/
theorem numbers_value (n : Node) (hn : n.IsSound) (depth : Nat) (v : Value)
    (h : value depth n = .ok v) : ∀ x ∈ v.numbers, x.InRange := by
  induction hn generalizing depth v with
  | absent fault => exact absurd h nofun
  | word read hread =>
      rw [value, map_eq_ok_iff] at h
      rcases h with ⟨found, _, rfl⟩
      cases found <;> exact fun x hx => absurd hx List.not_mem_nil
  | number read skip hread =>
      rw [value, map_eq_ok_iff] at h
      rcases h with ⟨x, hx, rfl⟩
      exact fun y hy => List.mem_singleton.mp hy ▸ hread x hx
  | string read skip =>
      rw [value, map_eq_ok_iff] at h
      rcases h with ⟨x, _, rfl⟩
      exact fun x hx => absurd hx List.not_mem_nil
  | array items ending hitems ih =>
      rcases (value_array_eq_ok_iff depth items ending v).mp h with
        ⟨inner, values, henter, hvalues, _, rfl⟩
      -- The numbers of an array are those of its items.
      have hall := forall_mem_itemValues (motive := fun w => ∀ x ∈ w.numbers, x.InRange) inner
        items values (fun n hn w => ih n hn inner w) hvalues
      intro x hx
      rw [Value.numbers, Value.itemNumbers_eq_flatMap, List.mem_flatMap] at hx
      rcases hx with ⟨w, hw, hx⟩
      exact hall w hw x hx
  | object members ending hmembers ih =>
      rcases (value_object_eq_ok_iff depth members ending v).mp h with
        ⟨inner, values, henter, hvalues, _, rfl⟩
      have hall := forall_mem_memberValues (motive := fun w => ∀ x ∈ w.numbers, x.InRange) inner
        members [] values (fun m hm w => ih m hm inner w) (fun m hm => absurd hm List.not_mem_nil)
        hvalues
      intro x hx
      rw [Value.numbers, Value.memberNumbers_eq_flatMap, List.mem_flatMap] at hx
      rcases hx with ⟨m, hm, hx⟩
      exact hall m hm x hx

/-- Null is read from nothing but the word for it. -/
theorem eq_null_of_value (n : Node) (hn : n.IsSound) (depth : Nat)
    (h : value depth n = .ok .null) : n = .word (.ok .null) := by
  cases hn with
  | absent fault => exact absurd h nofun
  | word read hread =>
      rw [value, map_eq_ok_iff] at h
      rcases h with ⟨found, hfound, heq⟩
      -- The words are null and the two truth values, and only the first is read as null.
      rcases hread found hfound with rfl | ⟨b, rfl⟩
      · rw [hfound]
      · exact absurd heq nofun
  | number read skip hread =>
      rw [value, map_eq_ok_iff] at h
      rcases h with ⟨x, _, heq⟩
      exact absurd heq nofun
  | string read skip =>
      rw [value, map_eq_ok_iff] at h
      rcases h with ⟨x, _, heq⟩
      exact absurd heq nofun
  | array items ending hitems =>
      rcases (value_array_eq_ok_iff depth items ending .null).mp h with ⟨_, _, _, _, _, heq⟩
      exact absurd heq nofun
  | object members ending hmembers =>
      rcases (value_object_eq_ok_iff depth members ending .null).mp h with ⟨_, _, _, _, _, heq⟩
      exact absurd heq nofun

end Node

end Json

end Typings
