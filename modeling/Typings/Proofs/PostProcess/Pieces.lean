import Mathlib.Data.List.Infix
import Typings.PostProcess.Template
import Typings.Proofs.Text.Pieces

/-!
# Pieces of Templates

A template is read from left to right. A dollar may begin a form that is written in
several characters: another dollar, the whole match, a group by one or two digits, or a
group by a name between angle brackets. A number is one from 1 to 99, and takes its
second digit wherever there is one. Everything that begins no form stands for itself,
and so does a dollar that begins none.

The forms are told apart by what stands behind the dollar, and none is part of another.
So every template is read, and in one way only.

## Main definitions

* `Piece`, `Piece.text`: What is read, and what it stands for.
* `Begins`: The forms that begin with a dollar.
* `Reads`: The pieces of a template.
* `IsPlain`: Pieces that a reference can hold.

## Theorems

* `groupNumber?_one`, `groupNumber?_two`: Digits are a number.
* `Begins.unique`: At most one form begins somewhere.
* `exists_begins_of_digit`, `exists_begins_of_mem`: Where a form begins.
* `Reads.unique`, `exists_reads`: A template is read, and in one way.
* `isPlain_cons_iff`: Plain pieces, from the first on.
-/

namespace Typings

namespace PostProcess

/-- The value of a digit. -/
def digitValue (a : Char) : Nat :=
  a.toNat - 48

/-- A piece of a template, by what it stands for. -/
inductive Piece where
  | char (c : Char)
  | dollar
  | whole
  | group (number : Nat)
  | named (name : List Char)
  deriving DecidableEq, Repr

/-- The text of a piece where a match is replaced. -/
def Piece.text (c : Captures) : Piece → List Char
  | .char x => [x]
  | .dollar => ['$']
  | .whole => (c.byNumber 0).toList
  | .group number => (c.byNumber number).toList
  | .named name => (c.byName (String.ofList name)).toList

/-- The forms that begin with a dollar, each with what is left behind it. -/
inductive Begins : List Char → Piece → List Char → Prop
  | dollar (rest : List Char) : Begins ('$' :: '$' :: rest) .dollar rest
  | whole (rest : List Char) : Begins ('$' :: '&' :: rest) .whole rest
  | twoDigits (a b : Char) (rest : List Char) (ha : isTemplateDigit a = true)
      (hb : isTemplateDigit b = true) (hpos : 0 < digitValue a * 10 + digitValue b) :
      Begins ('$' :: a :: b :: rest) (.group (digitValue a * 10 + digitValue b)) rest
  | oneDigit (a : Char) (rest : List Char) (ha : isTemplateDigit a = true)
      (hrest : ∀ b ∈ rest.head?, isTemplateDigit b = false) (hpos : 0 < digitValue a) :
      Begins ('$' :: a :: rest) (.group (digitValue a)) rest
  | named (name rest behind : List Char) (hname : '>' ∉ name)
      (hend : behind = name ++ '>' :: rest) :
      Begins ('$' :: '<' :: behind) (.named name) rest

/-- The pieces of a template. Whatever begins no form stands for itself. -/
inductive Reads : List Char → List Piece → Prop
  | nil : Reads [] []
  | piece {text rest : List Char} {p : Piece} {pieces : List Piece} (hbegins : Begins text p rest)
      (hrest : Reads rest pieces) : Reads text (p :: pieces)
  | char {x : Char} {rest : List Char} {pieces : List Piece}
      (hnone : ∀ p behind, ¬Begins (x :: rest) p behind) (hrest : Reads rest pieces) :
      Reads (x :: rest) (.char x :: pieces)

/-- A name that a reference can hold: it does not end the reference, and it is no number. -/
def IsPlainName (name : List Char) : Prop :=
  '\x7d' ∉ name ∧ groupNumber? name = none

/-- Pieces that keep their meaning as references. -/
structure IsPlain (pieces : List Piece) : Prop where
  names : ∀ name, .named name ∈ pieces → IsPlainName name
  zeros : ¬[.char '$', .char '0'] <:+: pieces

section Digits

variable {a b : Char}

theorem digitValue_le (ha : isTemplateDigit a = true) : digitValue a ≤ 9 := by
  rw [isTemplateDigit, Bool.and_eq_true, decide_eq_true_eq, decide_eq_true_eq] at ha
  have hle : a.toNat ≤ 57 := ha.2
  rw [digitValue]
  omega

theorem eq_zero_of_digitValue (ha : isTemplateDigit a = true) (hvalue : digitValue a = 0) :
    a = '0' := by
  rw [isTemplateDigit, Bool.and_eq_true, decide_eq_true_eq, decide_eq_true_eq] at ha
  have hge : 48 ≤ a.toNat := ha.1
  rw [digitValue] at hvalue
  have heq : a.toNat = 48 := by omega
  exact Char.toNat_inj.mp heq

theorem ne_of_isTemplateDigit (ha : isTemplateDigit a = true) (hb : isTemplateDigit b = false) :
    a ≠ b := by
  rintro rfl
  exact Bool.false_ne_true (hb.symm.trans ha)

/-- A row of digits is a number. -/
theorem groupNumber?_of_digits (digits : List Char) (ha : isTemplateDigit a = true)
    (hdigits : digits.all isTemplateDigit = true)
    (hlt : (a :: digits).foldl (fun n c => n * 10 + digitValue c) 0 < Nat.pow 2 64) :
    groupNumber? (a :: digits) =
      some ((a :: digits).foldl (fun n c => n * 10 + digitValue c) 0) := by
  -- A sign could stand in front, but a digit is none.
  have hplus : a ≠ '+' := ne_of_isTemplateDigit ha (by decide)
  unfold groupNumber?
  split
  · rename_i heq
    exact absurd (List.cons.inj heq).1 hplus
  · refine if_neg ?_
    simp only [List.isEmpty_cons, List.all_cons, ha, hdigits, Bool.and_self, Bool.not_true,
      Bool.or_self, Bool.false_or, decide_eq_true_eq]
    exact Nat.not_le.mpr hlt

theorem groupNumber?_one (ha : isTemplateDigit a = true) :
    groupNumber? [a] = some (digitValue a) := by
  have hle := digitValue_le ha
  have hlimit : 99 < Nat.pow 2 64 := by decide
  have hvalue : [a].foldl (fun n c => n * 10 + digitValue c) 0 = digitValue a := by
    simp only [List.foldl_cons, List.foldl_nil, Nat.zero_mul, Nat.zero_add]
  rw [groupNumber?_of_digits [] ha rfl (by omega), hvalue]

theorem groupNumber?_two (ha : isTemplateDigit a = true) (hb : isTemplateDigit b = true) :
    groupNumber? [a, b] = some (digitValue a * 10 + digitValue b) := by
  have hfirst := digitValue_le ha
  have hsecond := digitValue_le hb
  have hlimit : 99 < Nat.pow 2 64 := by decide
  have hvalue : [a, b].foldl (fun n c => n * 10 + digitValue c) 0 =
      digitValue a * 10 + digitValue b := by
    simp only [List.foldl_cons, List.foldl_nil, Nat.zero_mul, Nat.zero_add]
  have hall : [b].all isTemplateDigit = true := by rw [List.all_cons, hb, List.all_nil]; rfl
  rw [groupNumber?_of_digits [b] ha hall (by omega), hvalue]

end Digits

section Reading

variable {text rest : List Char} {p : Piece}

theorem append_cons_inj (x : Char) {first second rest other : List Char} (hfirst : x ∉ first)
    (hsecond : x ∉ second) (heq : first ++ x :: rest = second ++ x :: other) :
    first = second ∧ rest = other := by
  -- What stands before the first such character is the same on both sides.
  have htake := congrArg (List.takeWhile (· ≠ x)) heq
  rw [Text.takeWhile_append_cons x _ _ hfirst, Text.takeWhile_append_cons x _ _ hsecond] at htake
  rw [htake, List.append_cancel_left_eq, List.cons.injEq] at heq
  exact ⟨htake, heq.2⟩

namespace Begins

theorem eq_cons (h : Begins text p rest) :
    ∃ behind, text = '$' :: behind ∧ rest.length < behind.length := by
  cases h with
  | dollar | whole => exact ⟨_, rfl, Nat.lt_succ_self _⟩
  | twoDigits => exact ⟨_, rfl, Nat.lt_succ_of_lt (Nat.lt_succ_self _)⟩
  | oneDigit => exact ⟨_, rfl, Nat.lt_succ_self _⟩
  | named name rest behind hname hend =>
      refine ⟨_, rfl, ?_⟩
      rw [hend, List.length_cons, List.length_append, List.length_cons]
      omega

theorem ne_char (h : Begins text p rest) (x : Char) : p ≠ .char x := by
  cases h <;> exact Piece.noConfusion

/-- What begins with a dollar is one piece only. -/
theorem unique {q : Piece} {other : List Char} (h : Begins text p rest)
    (h' : Begins text q other) : p = q ∧ rest = other := by
  cases h with
  | dollar rest =>
      cases h' with
      | dollar => exact ⟨rfl, rfl⟩
      | twoDigits _ _ _ ha => contradiction
      | oneDigit _ _ ha => contradiction
  | whole rest =>
      cases h' with
      | whole => exact ⟨rfl, rfl⟩
      | twoDigits _ _ _ ha => contradiction
      | oneDigit _ _ ha => contradiction
  | twoDigits a b rest ha hb =>
      cases h' with
      | dollar | whole | named => contradiction
      | twoDigits => exact ⟨rfl, rfl⟩
      | oneDigit _ _ _ hrest => exact absurd (hrest b rfl) (Bool.not_eq_false _ ▸ hb)
  | oneDigit a rest ha hrest =>
      cases h' with
      | dollar | whole | named => contradiction
      | twoDigits _ b _ _ hb => exact absurd (hrest b rfl) (Bool.not_eq_false _ ▸ hb)
      | oneDigit => exact ⟨rfl, rfl⟩
  | named name rest behind hname hend =>
      cases h' with
      | twoDigits _ _ _ ha => contradiction
      | oneDigit _ _ ha => contradiction
      | named name' rest' _ hname' hend' =>
          -- Neither name has the bracket in it that ends it.
          rcases append_cons_inj '>' hname hname' (hend.symm.trans hend') with ⟨rfl, rfl⟩
          exact ⟨rfl, rfl⟩

end Begins

/-- A form begins wherever a dollar stands in front of a digit other than zero. -/
theorem exists_begins_of_digit {a : Char} (rest : List Char) (ha : isTemplateDigit a = true)
    (hzero : a ≠ '0') : ∃ p behind, Begins ('$' :: a :: rest) p behind := by
  have hpos : 0 < digitValue a :=
    Nat.pos_of_ne_zero fun hvalue => hzero (eq_zero_of_digitValue ha hvalue)
  rcases rest with _ | ⟨b, rest⟩
  · exact ⟨_, _, .oneDigit a [] ha (fun b hb => nomatch hb) hpos⟩
  · by_cases hb : isTemplateDigit b = true
    · exact ⟨_, _, .twoDigits a b rest ha hb (by omega)⟩
    · refine ⟨_, _, .oneDigit a (b :: rest) ha (fun d hd => ?_) hpos⟩
      rw [List.head?_cons, Option.mem_some_iff] at hd
      exact hd ▸ Bool.eq_false_iff.mpr hb

/-- A form begins wherever an angle bracket behind a dollar is closed. -/
theorem exists_begins_of_mem {rest : List Char} (hclosed : '>' ∈ rest) :
    ∃ p behind, Begins ('$' :: '<' :: rest) p behind := by
  rcases List.eq_append_cons_of_mem hclosed with ⟨name, last, hrest, hname⟩
  exact ⟨_, _, .named name last rest hname hrest⟩

/-- A template is read in one way. -/
theorem Reads.unique {pieces others : List Piece} (h : Reads text pieces)
    (h' : Reads text others) : pieces = others := by
  induction h generalizing others with
  | nil =>
      cases h' with
      | nil => rfl
      | piece hbegins => rcases hbegins.eq_cons with ⟨_, hnil, _⟩; contradiction
  | piece hbegins _ ih =>
      cases h' with
      | nil => rcases hbegins.eq_cons with ⟨_, hnil, _⟩; contradiction
      | piece hbegins' hrest =>
          rcases hbegins.unique hbegins' with ⟨rfl, rfl⟩
          rw [ih hrest]
      | char hnone => exact absurd hbegins (hnone _ _)
  | char hnone _ ih =>
      cases h' with
      | piece hbegins => exact absurd hbegins (hnone _ _)
      | char _ hrest => rw [ih hrest]

/-- Every template is read. -/
theorem exists_reads (text : List Char) : ∃ pieces, Reads text pieces := by
  -- What is left behind a piece is shorter, wherever the piece ends.
  induction hlength : text.length using Nat.strong_induction_on generalizing text with
  | _ n ih =>
      by_cases hbegins : ∃ p rest, Begins text p rest
      · rcases hbegins with ⟨p, rest, hbegins⟩
        rcases hbegins.eq_cons with ⟨behind, rfl, hlt⟩
        rw [List.length_cons] at hlength
        rcases ih rest.length (by omega) rest rfl with ⟨pieces, hrest⟩
        exact ⟨_, .piece hbegins hrest⟩
      · cases text with
        | nil => exact ⟨[], .nil⟩
        | cons x rest =>
            rw [List.length_cons] at hlength
            rcases ih rest.length (by omega) rest rfl with ⟨pieces, hrest⟩
            exact ⟨_, .char (fun p rest h => hbegins ⟨p, rest, h⟩) hrest⟩

/-- What begins no form is read as it stands. -/
theorem Reads.head?_eq {x : Char} (h : Reads (x :: rest) pieces) (hx : x ≠ '$') :
    pieces.head? = some (.char x) := by
  cases h with
  | piece hbegins =>
      rcases hbegins.eq_cons with ⟨behind, heq, _⟩
      exact absurd (List.cons.inj heq).1 hx
  | char => rfl

theorem Reads.head?_text (h : Reads text pieces) (hpieces : pieces.head? = some (.char '0')) :
    text.head? = some '0' := by
  cases h with
  | nil => contradiction
  | piece hbegins => exact absurd (Option.some.inj hpieces) (hbegins.ne_char '0')
  | char => exact congrArg _ (Piece.char.inj (Option.some.inj hpieces))

end Reading

section Plain

theorem isPlain_nil : IsPlain [] :=
  ⟨fun _ hmem => absurd hmem List.not_mem_nil, fun hinside => nomatch List.infix_nil.mp hinside⟩

theorem isPlain_cons_iff (p : Piece) (pieces : List Piece) :
    IsPlain (p :: pieces) ↔ (∀ name, p = .named name → IsPlainName name) ∧
      (p = .char '$' → pieces.head? ≠ some (.char '0')) ∧ IsPlain pieces := by
  -- The two characters stand in front, or further behind.
  have hprefix : [Piece.char '$', .char '0'] <+: p :: pieces ↔
      p = .char '$' ∧ pieces.head? = some (.char '0') := by
    rw [List.cons_prefix_cons, eq_comm]
    cases pieces with
    | nil => simp only [List.prefix_nil, reduceCtorEq, List.head?_nil]
    | cons q rest =>
        rw [List.cons_prefix_cons, List.head?_cons, Option.some_inj, eq_comm (b := q)]
        simp only [List.nil_prefix, and_true]
  constructor
  · rintro ⟨hnames, hzeros⟩
    rw [List.infix_cons_iff, not_or, hprefix, not_and] at hzeros
    exact ⟨fun name hp => hnames name (hp ▸ List.mem_cons_self), hzeros.1,
      fun name hmem => hnames name (List.mem_cons_of_mem p hmem), hzeros.2⟩
  · rintro ⟨hname, hzero, hnames, hzeros⟩
    refine ⟨fun name hmem => ?_, ?_⟩
    · rcases List.mem_cons.mp hmem with heq | hmem
      · exact hname name heq.symm
      · exact hnames name hmem
    · rw [List.infix_cons_iff, not_or, hprefix, not_and]
      exact ⟨hzero, hzeros⟩

end Plain

end PostProcess

end Typings
