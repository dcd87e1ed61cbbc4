import Typings.Method.Text
import Typings.Proofs.Hierarchy.Carrying

/-!
# Base Methods That Ask for Nothing

A base method settles with a method if the method stays as it is: it covers the
base method, or it has another name, or it returns its receiver already and is
asked for nothing more. Such a meeting leaves no trace in the signature.

A signature shows nothing of a meeting but the return type. So a list of base
methods leaves a signature alone, and none of them has to be carried for its
sake, exactly if each of them settles with the method as it was built.

## Main definitions

* `Method.shownReturn`, `Method.returnPart`: The return type as a signature
  shows it, and the text that ends the signature.
* `Method.Settles`: A base method asks nothing of a method.

## Theorems

* `Method.signature_eq_iff`: Signatures differ by their return types.
* `Method.settles_all_iff`: When a method takes a list of base methods
  unchanged.
* `ClassModel.signatures_finish_iff`: When a class takes its base unchanged.
-/

namespace Typings

namespace Method

/-- The return type as a signature shows it. -/
def shownReturn (m : Method) : Option String :=
  m.returnType.map (·.type)

/-- The end of a signature. -/
def returnPart : Option ReturnType → String
  | some t => ": " ++ t.type
  | none => ""

/-- A base method asks nothing of a method. -/
def Settles (own base : Method) : Prop :=
  own.overloadDecision base ≠ .overload ∧
    (own.overloadDecision base = .adoptThis → own.returnText = thisType)

instance (own base : Method) : Decidable (own.Settles base) :=
  inferInstanceAs (Decidable (_ ∧ _))

theorem returnText_eq (m : Method) : m.returnText = m.shownReturn.getD anyType := by
  rw [returnText, shownReturn]
  cases m.returnType <;> rfl

theorem shownReturn_of_this (m : Method) (hthis : m.returnText = thisType) :
    m.shownReturn = some thisType := by
  rw [returnText] at hthis
  rw [shownReturn]
  rcases hreturn : m.returnType with _ | t
  · rw [hreturn] at hthis
    exact absurd hthis (by decide)
  · rw [hreturn] at hthis
    exact congrArg some hthis

/-- A signature ends with the return type. -/
theorem signature_eq (m : Method) (returnType : Option ReturnType)
    (overloaded : Option MethodRef) (style : SignatureStyle) :
    ({ m with returnType := returnType, overloaded := overloaded } : Method).signature style =
      ({ m with returnType := none } : Method).signature style ++ returnPart returnType := by
  simp only [signature, String.append_empty]
  rfl

theorem returnPart_eq_iff (s t : Option ReturnType) :
    returnPart s = returnPart t ↔ s.map (·.type) = t.map (·.type) := by
  -- No return type is not the same as an empty one, which has its colon.
  have hne : ∀ type : String, ": " ++ type ≠ "" := by
    intro type hempty
    exact absurd (String.append_eq_empty_iff.mp hempty).1 (by decide)
  rcases s with _ | s
  · rcases t with _ | t
    · simp only [Option.map_none]
    · simp only [returnPart, Option.map_none, Option.map_some, reduceCtorEq, iff_false]
      exact fun h => hne t.type h.symm
  · rcases t with _ | t
    · simp only [returnPart, Option.map_none, Option.map_some, reduceCtorEq, iff_false]
      exact hne s.type
    · simp only [returnPart, Option.map_some, Option.some_inj]
      exact String.append_right_inj ": "

/-- Signatures of methods that differ in their return types alone. -/
theorem signature_eq_iff (m : Method) (returnType : Option ReturnType)
    (overloaded : Option MethodRef) (style : SignatureStyle) :
    ({ m with returnType := returnType, overloaded := overloaded } : Method).signature style =
        m.signature style ↔
      returnType.map (·.type) = m.shownReturn := by
  have hown : m.signature style =
      ({ m with returnType := none } : Method).signature style ++ returnPart m.returnType :=
    signature_eq m m.returnType m.overloaded style
  rw [signature_eq, hown, String.append_right_inj]
  exact returnPart_eq_iff returnType m.returnType

theorem settles_congr (own own' base : Method) (hname : own.name = own'.name)
    (hparameters : own.parameters = own'.parameters) (hreturn : own.shownReturn = own'.shownReturn) :
    own.Settles base ↔ own'.Settles base := by
  have htext : own.returnText = own'.returnText := by
    rw [returnText_eq, returnText_eq, hreturn]
  have htypes : own.parameters.map (·.type) = own'.parameters.map (·.type) := by
    rw [hparameters]
  rw [Settles, Settles, overloadDecision_congr own own' base hname htypes htext, htext]

variable (r : Resolver)

/-- A base method that asks for nothing leaves the return type as it is. -/
theorem shownReturn_meet_of_settles (base : Method) (origin : MethodRef) (own : Method)
    (hsettles : own.Settles base) : (meet r base origin own).1.shownReturn = own.shownReturn := by
  by_cases hadopt : own.overloadDecision base = .adoptThis
  · rw [meet_of_adoptThis r base origin own hadopt,
      shownReturn_of_this own (hsettles.2 hadopt)]
    rfl
  · rw [meet_of_settled r base origin own hsettles.1 hadopt]

/-- Of two base methods, what the first leaves of a method settles with the
    second as the method itself does, if it returns the same. -/
theorem settles_meet_iff (base other : Method) (origin : MethodRef) (own : Method)
    (hreturn : (meet r base origin own).1.shownReturn = own.shownReturn) :
    (meet r base origin own).1.Settles other ↔ own.Settles other := by
  rcases meet_frame r base origin own with ⟨t, o, hmeet⟩
  exact settles_congr _ own other (by rw [hmeet]) (by rw [hmeet]) hreturn

/-- A base method settles with a method if it is covered and the return type is
    in the end what it was, since a method that was made to return its receiver
    still does so in the end. -/
theorem settles_of_shownReturn_after (baseId : Nat) (own : Method) (first : Nat × Method)
    (rest : List (Nat × Method)) (hcovered : own.overloadDecision first.2 ≠ .overload)
    (hreturn : (own.after r baseId (first :: rest)).shownReturn = own.shownReturn) :
    own.Settles first.2 := by
  refine ⟨hcovered, fun hadopt => ?_⟩
  have hthis : (meet r first.2 ⟨baseId, first.1⟩ own).1.returnText = thisType := by
    rw [meet_of_adoptThis r first.2 _ own hadopt]
    rfl
  have hend := returnText_after_of_this r baseId _ rest hthis
  rwa [← after_cons, returnText_eq, hreturn, ← returnText_eq] at hend

/-- A method takes a list of base methods unchanged, and covers each of them
    when its turn comes, exactly if each of them settles with it. -/
theorem settles_all_iff (baseId : Nat) (own : Method) (met : List (Nat × Method)) :
    (∀ b ∈ met, own.Settles b.2) ↔
      (∀ k b, met[k]? = some b →
        (own.after r baseId (met.take k)).overloadDecision b.2 ≠ .overload) ∧
      (own.after r baseId met).shownReturn = own.shownReturn := by
  -- The first turn leaves a method of the same return type, so what settles with
  -- that one is what settles with the method itself.
  induction met generalizing own with
  | nil =>
      refine ⟨fun _ => ⟨fun k b hb => ?_, rfl⟩, fun _ b hb => absurd hb List.not_mem_nil⟩
      rw [List.getElem?_nil] at hb
      contradiction
  | cons first rest ih =>
      have hnext := ih (meet r first.2 ⟨baseId, first.1⟩ own).1
      constructor
      · intro hall
        have hfirst : own.Settles first.2 := hall first List.mem_cons_self
        have hsame := shownReturn_meet_of_settles r first.2 ⟨baseId, first.1⟩ own hfirst
        have hrest := hnext.mp fun b hb =>
          (settles_meet_iff r first.2 b.2 _ own hsame).mpr (hall b (List.mem_cons_of_mem _ hb))
        refine ⟨fun k b hb => ?_, by rw [after_cons, hrest.2, hsame]⟩
        cases k with
        | zero =>
            rw [List.getElem?_cons_zero, Option.some_inj] at hb
            rw [List.take_zero, after_nil, ← hb]
            exact hfirst.1
        | succ k =>
            rw [List.getElem?_cons_succ] at hb
            rw [List.take_succ_cons, after_cons]
            exact hrest.1 k b hb
      · rintro ⟨hcovered, hreturn⟩
        have hfirst : own.Settles first.2 :=
          settles_of_shownReturn_after r baseId own first rest (hcovered 0 first rfl) hreturn
        have hsame := shownReturn_meet_of_settles r first.2 ⟨baseId, first.1⟩ own hfirst
        have hrest := hnext.mpr ⟨fun k b hb => ?_, by rw [← after_cons, hreturn, hsame]⟩
        · intro b hb
          rcases List.mem_cons.mp hb with rfl | hb
          · exact hfirst
          · exact (settles_meet_iff r first.2 b.2 _ own hsame).mp (hrest b hb)
        · have hlater := hcovered (k + 1) b (by rw [List.getElem?_cons_succ, hb])
          rwa [List.take_succ_cons, after_cons] at hlater

/-- A method takes its base's methods unchanged, as far as its signature shows,
    and is flagged by none of them, exactly if each of them settles with it. -/
theorem settles_base_iff (baseId : Nat) (base : List Method) (own : Method)
    (style : SignatureStyle) :
    (∀ b ∈ base, own.Settles b) ↔
      (∀ k b, base[k]? = some b → ¬ IsFlagged r baseId base k b own) ∧
        (own.finished r baseId base).signature style = own.signature style := by
  have hflags : (∀ k b, (numbered base)[k]? = some b →
      (own.after r baseId ((numbered base).take k)).overloadDecision b.2 ≠ .overload) ↔
      ∀ k b, base[k]? = some b → ¬ IsFlagged r baseId base k b own := by
    constructor
    · exact fun h k b hb => h k (k, b) ((getElem?_numbered_eq_some base k (k, b)).mpr ⟨rfl, hb⟩)
    · exact fun h k b hb => h k b.2 ((getElem?_numbered_eq_some base k b).mp hb).2
  have hsignature : (own.finished r baseId base).signature style = own.signature style ↔
      (own.after r baseId (numbered base)).shownReturn = own.shownReturn := by
    rcases after_frame r baseId own (numbered base) with ⟨t, ref, hafter⟩
    rw [finished, hafter]
    exact signature_eq_iff own t ref style
  rw [← forall_mem_numbered base (own.Settles ·), settles_all_iff r baseId own (numbered base),
    hflags, hsignature]

end Method

namespace ClassModel

variable (r : Resolver) (base c : ClassModel) (baseId : Nat) (style : SignatureStyle)

/-- Nothing is carried exactly if no own method is flagged at any turn. -/
theorem carried_carryFrom_eq_nil_iff :
    (carryFrom r base c baseId).carried = [] ↔
      ∀ o ∈ c.methods, ∀ k b, base.methods[k]? = some b →
        ¬ IsFlagged r baseId base.methods k b o := by
  rw [List.eq_nil_iff_forall_not_mem]
  constructor
  · intro hnone o ho k b hb hflag
    exact hnone b ((mem_carried_carryFrom r base c baseId b).mpr ⟨k, hb, o, ho, hflag⟩)
  · intro hnone b hmem
    rcases (mem_carried_carryFrom r base c baseId b).mp hmem with ⟨k, hb, o, ho, hflag⟩
    exact hnone o ho k b hb hflag

/-- A class has the signatures it was built with, exactly if all base methods
    settle with all its methods. -/
theorem signatures_finish_iff :
    (c.finish (carryFrom r base c baseId)).methods.map (·.signature style) =
        (Text.sortBy (·.name) c.methods).map (·.signature style) ↔
      ∀ o ∈ c.methods, ∀ b ∈ base.methods, o.Settles b := by
  constructor
  · intro hsame o ho
    rw [Method.settles_base_iff r baseId base.methods o style]
    -- A carried method would make the list longer.
    have hnone : (carryFrom r base c baseId).carried = [] := by
      have hlength := congrArg List.length hsame
      rw [List.length_map, List.length_map, length_methods_finish, Text.length_sortBy] at hlength
      exact List.eq_nil_of_length_eq_zero (Nat.add_eq_left.mp hlength)
    refine ⟨(carried_carryFrom_eq_nil_iff r base c baseId).mp hnone o ho, ?_⟩
    rw [methods_finish_of_carried_nil r base c baseId hnone, List.map_map, List.map_inj_left]
      at hsame
    exact hsame o ((Text.mem_sortBy _ _ o).mpr ho)
  · intro hall
    have hsettles := fun o ho =>
      (Method.settles_base_iff r baseId base.methods o style).mp (hall o ho)
    have hnone : (carryFrom r base c baseId).carried = [] :=
      (carried_carryFrom_eq_nil_iff r base c baseId).mpr fun o ho => (hsettles o ho).1
    rw [methods_finish_of_carried_nil r base c baseId hnone, List.map_map]
    exact List.map_congr_left fun o ho => (hsettles o ((Text.mem_sortBy _ _ o).mp ho)).2

end ClassModel

end Typings
