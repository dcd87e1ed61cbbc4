import Typings.Proofs.PostProcess.Pieces

/-!
# Replacing by Templates

A template is turned into references, and these are replaced by what they name. Both
steps have an escape for a dollar, and they have different ones: a piece of the template
has to come out of the second step as what the rules say it stands for, whatever stands
beside it.

Nearly all do. A number stays apart from what follows, since its reference has braces,
and a dollar that begins no form is doubled. But a dollar in front of a zero is taken for
the whole match, and a name is copied into braces as it stands: one that holds a closing
brace ends there, and one that is a number is the number of a group. A template without
these means what it says for all captures. One with any of these does not: captures can
be made up for it under which everything that is read differently becomes longer, and so
no two of them make up for each other.

## Main definitions

* `replaced`: What a template becomes where a match is replaced.
* `IsTelling`: Captures that show what is read differently.

## Theorems

* `replaced_of_begins`, `replaced_of_not_begins`: What a piece becomes.
* `length_replaced_of_zero`, `exists_replaced_of_named`: What is read differently.
* `exists_expandFrom_brace`: Nothing reaches beyond a closing brace.
* `replaced_of_isPlain`: Plain pieces become their texts.
* `length_flatMap_le`: What is read differently only makes a template longer.
* `isPlain_of_replaced`: Pieces that always become their texts are plain.
* `expand_references_iff`: Which templates mean what they say.
-/

namespace Typings

namespace PostProcess

section Expanding

variable (c : Captures)

/-- What a template becomes where a match is replaced. -/
def replaced (text : List Char) : List Char :=
  expandFrom c 0 (referencesFrom 0 text)

theorem referencesFrom_append (front rest : List Char) :
    referencesFrom front.length (front ++ rest) = referencesFrom 0 rest := by
  induction front with
  | nil => rfl
  | cons x front ih => exact ih

theorem expandFrom_append (front rest : List Char) :
    expandFrom c front.length (front ++ rest) = expandFrom c 0 rest := by
  induction front with
  | nil => rfl
  | cons x front ih => exact ih

theorem referencesFrom_cons_of_ne {x : Char} (hx : x ≠ '$') (rest : List Char) :
    referencesFrom 0 (x :: rest) = x :: referencesFrom 0 rest :=
  if_neg hx

theorem expandFrom_cons_of_ne {x : Char} (hx : x ≠ '$') (rest : List Char) :
    expandFrom c 0 (x :: rest) = x :: expandFrom c 0 rest :=
  if_neg hx

theorem replaced_cons_of_ne {x : Char} (hx : x ≠ '$') (rest : List Char) :
    replaced c (x :: rest) = x :: replaced c rest := by
  rw [replaced, referencesFrom_cons_of_ne hx, expandFrom_cons_of_ne c hx, replaced]

/-- A dollar, with what belongs to it. -/
theorem referencesFrom_dollar (reference front rest : List Char)
    (hdollar : dollarReference (front ++ rest) = (reference, front.length)) :
    referencesFrom 0 ('$' :: (front ++ rest)) = reference ++ referencesFrom 0 rest := by
  rw [referencesFrom, if_pos rfl, hdollar]
  exact congrArg (reference ++ ·) (referencesFrom_append front rest)

theorem expandFrom_dollar (text front rest : List Char)
    (hdollar : expandDollar c (front ++ rest) = (text, front.length)) :
    expandFrom c 0 ('$' :: (front ++ rest)) = text ++ expandFrom c 0 rest := by
  rw [expandFrom, if_pos rfl, hdollar]
  exact congrArg (text ++ ·) (expandFrom_append c front rest)

/-- Two dollars are one. -/
theorem expandFrom_two_dollars (rest : List Char) :
    expandFrom c 0 ('$' :: '$' :: rest) = '$' :: expandFrom c 0 rest :=
  expandFrom_dollar c ['$'] ['$'] rest rfl

/-- A reference ends at the first closing brace. -/
theorem expandFrom_reference (name rest : List Char) (hname : '\x7d' ∉ name) :
    expandFrom c 0 (reference name ++ rest) = (c.lookup name).toList ++ expandFrom c 0 rest := by
  have hsplit : reference name ++ rest = '$' :: (('\x7b' :: (name ++ ['\x7d'])) ++ rest) := by
    simp only [reference, List.cons_append, List.append_assoc, List.nil_append]
  have hdollar : expandDollar c (('\x7b' :: (name ++ ['\x7d'])) ++ rest) =
      ((c.lookup name).toList, ('\x7b' :: (name ++ ['\x7d'])).length) := by
    have htake := Text.takeWhile_append_cons '\x7d' name rest hname
    have hbehind : ('\x7b' :: (name ++ ['\x7d'])) ++ rest = '\x7b' :: (name ++ '\x7d' :: rest) := by
      simp only [List.cons_append, List.append_assoc, List.nil_append]
    have hlt : name.length < (name ++ '\x7d' :: rest).length := by
      rw [List.length_append, List.length_cons]
      omega
    rw [hbehind, expandDollar, htake, if_pos hlt, List.length_cons, List.length_append]
    rfl
  rw [hsplit, expandFrom_dollar c _ _ _ hdollar]

/-- A dollar in front of a digit. -/
theorem dollarReference_of_digit {a : Char} (ha : isTemplateDigit a = true) (rest : List Char) :
    dollarReference (a :: rest) =
      if rest.head?.any isTemplateDigit then (reference (a :: rest.take 1), 2)
      else (reference [a], 1) := by
  have hdollar : a ≠ '$' := ne_of_isTemplateDigit ha (by decide)
  have hwhole : a ≠ '&' := ne_of_isTemplateDigit ha (by decide)
  have hname : a ≠ '<' := ne_of_isTemplateDigit ha (by decide)
  cases rest with
  | nil => simp only [dollarReference, ha, if_true, List.head?_nil, Option.any_none,
      Bool.false_eq_true, if_false]
  | cons b rest =>
      simp only [dollarReference, ha, if_true, List.head?_cons, Option.any_some,
        List.take_succ_cons, List.take_zero]
      rfl

/-- A dollar in front of a character that begins nothing with it. -/
theorem dollarReference_of_ne {behind : List Char} (hdollar : behind.head? ≠ some '$')
    (hwhole : behind.head? ≠ some '&') (hname : behind.head? ≠ some '<')
    (hdigit : behind.head?.any isTemplateDigit = false) :
    dollarReference behind = (['$', '$'], 0) := by
  unfold dollarReference
  split
  · exact absurd rfl hdollar
  · exact absurd rfl hwhole
  · exact absurd rfl hname
  · rw [List.head?_cons, Option.any_some] at hdigit
    rw [hdigit]
    rfl
  · rw [List.head?_cons, Option.any_some] at hdigit
    rw [hdigit]
    rfl
  · rfl

/-- The form of a name between angle brackets is a reference. -/
theorem referencesFrom_of_named (name rest : List Char) (hname : '>' ∉ name) :
    referencesFrom 0 ('$' :: '<' :: (name ++ '>' :: rest)) =
      reference name ++ referencesFrom 0 rest := by
  have hsplit : '<' :: (name ++ '>' :: rest) = ('<' :: (name ++ ['>'])) ++ rest := by
    simp only [List.cons_append, List.append_assoc, List.nil_append]
  have hlt : name.length < (name ++ '>' :: rest).length := by
    rw [List.length_append, List.length_cons]
    omega
  have hdollar : dollarReference ('<' :: (name ++ '>' :: rest)) =
      (reference name, ('<' :: (name ++ ['>'])).length) := by
    rw [dollarReference, Text.takeWhile_append_cons '>' name rest hname, if_pos hlt, List.length_cons,
      List.length_append]
    rfl
  rw [hsplit] at hdollar ⊢
  exact referencesFrom_dollar _ _ rest hdollar

theorem replaced_of_reference (digits rest : List Char) (number : Nat)
    (hdigits : '\x7d' ∉ digits) (hnumber : groupNumber? digits = some number) :
    expandFrom c 0 (reference digits ++ referencesFrom 0 rest) =
      (c.byNumber number).toList ++ replaced c rest := by
  rw [expandFrom_reference c digits _ hdigits, Captures.lookup, hnumber, replaced]

theorem not_mem_of_digits {a : Char} (rest : List Char) (ha : isTemplateDigit a = true)
    (hrest : '\x7d' ∉ rest) : '\x7d' ∉ a :: rest := by
  rw [List.mem_cons, not_or]
  exact ⟨(ne_of_isTemplateDigit ha (by decide)).symm, hrest⟩

/-- Digits behind a dollar are the group of their number. -/
theorem replaced_of_digit {a : Char} (rest : List Char) (ha : isTemplateDigit a = true)
    (hrest : rest.head?.any isTemplateDigit = false) :
    replaced c ('$' :: a :: rest) = (c.byNumber (digitValue a)).toList ++ replaced c rest := by
  have hdollar : dollarReference ([a] ++ rest) = (reference [a], [a].length) := by
    rw [List.singleton_append, dollarReference_of_digit ha, hrest]
    rfl
  rw [replaced, show '$' :: a :: rest = '$' :: ([a] ++ rest) from rfl,
    referencesFrom_dollar _ [a] rest hdollar,
    replaced_of_reference c [a] rest _ (not_mem_of_digits [] ha List.not_mem_nil)
      (groupNumber?_one ha)]

theorem replaced_of_digits {a b : Char} (rest : List Char) (ha : isTemplateDigit a = true)
    (hb : isTemplateDigit b = true) :
    replaced c ('$' :: a :: b :: rest) =
      (c.byNumber (digitValue a * 10 + digitValue b)).toList ++ replaced c rest := by
  have hdollar : dollarReference ([a, b] ++ rest) = (reference [a, b], [a, b].length) := by
    rw [List.cons_append, dollarReference_of_digit ha, List.singleton_append, List.head?_cons,
      Option.any_some, hb]
    rfl
  have hmem : '\x7d' ∉ [a, b] :=
    not_mem_of_digits [b] ha (not_mem_of_digits [] hb List.not_mem_nil)
  rw [replaced, show '$' :: a :: b :: rest = '$' :: ([a, b] ++ rest) from rfl,
    referencesFrom_dollar _ [a, b] rest hdollar,
    replaced_of_reference c [a, b] rest _ hmem (groupNumber?_two ha hb)]

/-- A piece becomes its text, unless it is a name whose reference is read differently. -/
theorem replaced_of_begins {text rest : List Char} {p : Piece} (h : Begins text p rest)
    (hplain : ∀ name, p = .named name → IsPlainName name) :
    replaced c text = p.text c ++ replaced c rest := by
  cases h with
  | dollar => exact expandFrom_two_dollars c _
  | whole => exact replaced_of_reference c ['0'] rest 0 (by decide) (by decide)
  | twoDigits a b _ ha hb => exact replaced_of_digits c rest ha hb
  | oneDigit a _ ha hrest =>
      refine replaced_of_digit c rest ha ?_
      cases rest with
      | nil => rfl
      | cons b _ => exact hrest b rfl
  | named name rest behind hname hend =>
      rcases hplain name rfl with ⟨hbrace, hnumber⟩
      rw [hend, replaced, referencesFrom_of_named name rest hname,
        expandFrom_reference c name _ hbrace, Captures.lookup, hnumber, replaced]
      rfl

/-- A dollar that begins nothing stands for itself, unless a zero follows it. -/
theorem replaced_of_not_begins (behind : List Char)
    (hnone : ∀ p rest, ¬Begins ('$' :: behind) p rest) (hzero : behind.head? ≠ some '0') :
    replaced c ('$' :: behind) = '$' :: replaced c behind := by
  have hdollar : dollarReference behind = (['$', '$'], 0) := by
    rcases behind with _ | ⟨a, rest⟩
    · rfl
    · by_cases hname : a = '<'
      · -- There is no bracket that closes the name.
        subst hname
        have hopen : '>' ∉ rest := fun hmem => by
          rcases exists_begins_of_mem hmem with ⟨p, last, hbegins⟩
          exact hnone p last hbegins
        have htake : rest.takeWhile (· ≠ '>') = rest := by
          rw [List.takeWhile_eq_self_iff]
          exact fun x hx => decide_eq_true fun heq => hopen (heq ▸ hx)
        rw [dollarReference, htake, if_neg (Nat.lt_irrefl _)]
      · refine dollarReference_of_ne ?_ ?_ ?_ ?_
        · rintro ⟨⟩
          exact hnone _ _ (.dollar rest)
        · rintro ⟨⟩
          exact hnone _ _ (.whole rest)
        · rintro ⟨⟩
          exact hname rfl
        · rw [List.head?_cons, Option.any_some]
          by_contra hdigit
          rw [Bool.not_eq_false] at hdigit
          have hne : a ≠ '0' := fun heq => hzero (congrArg some heq)
          rcases exists_begins_of_digit rest hdigit hne with ⟨p, last, hbegins⟩
          exact hnone p last hbegins
  rw [replaced, referencesFrom, if_pos rfl, hdollar]
  exact expandFrom_two_dollars c _

/-- A dollar that begins nothing in front of a zero becomes the whole match, and so do
    up to two zeros with it. -/
theorem length_replaced_of_zero (more : List Char)
    (hnone : ∀ p rest, ¬Begins ('$' :: '0' :: more) p rest) :
    (c.byNumber 0).toList.length + (replaced c ('0' :: more)).length ≤
      (replaced c ('$' :: '0' :: more)).length + 2 := by
  rw [replaced_cons_of_ne c (by decide) more]
  by_cases hdigit : more.head?.any isTemplateDigit = true
  · rcases more with _ | ⟨b, rest⟩
    · contradiction
    · rw [List.head?_cons, Option.any_some] at hdigit
      have hb : b = '0' := by
        refine eq_zero_of_digitValue hdigit (Nat.eq_zero_of_not_pos fun hpos => ?_)
        exact hnone _ _ (.twoDigits '0' b rest (by decide) hdigit (by omega))
      have hwhole := replaced_of_digits c rest (a := '0') (b := b) (by decide) hdigit
      rw [hwhole, hb, replaced_cons_of_ne c (by decide) rest, List.length_append, List.length_cons,
        List.length_cons]
      have hvalue : digitValue '0' * 10 + digitValue '0' = 0 := by decide
      rw [hvalue]
      omega
  · have hwhole := replaced_of_digit c more (a := '0') (by decide) (Bool.eq_false_iff.mpr hdigit)
    have hvalue : digitValue '0' = 0 := by decide
    rw [hwhole, hvalue, List.length_append, List.length_cons]
    omega

/-- What is kept in front of a closing brace. -/
theorem length_takeWhile_le (keep : Char → Bool) (front rest : List Char)
    (hkeep : keep '\x7d' = false) :
    ((front ++ '\x7d' :: rest).takeWhile keep).length ≤ front.length := by
  induction front with
  | nil =>
      have hbrace : ¬keep '\x7d' = true := Bool.not_eq_true _ ▸ hkeep
      rw [List.nil_append, List.takeWhile_cons_of_neg hbrace]
  | cons x front ih =>
      rw [List.cons_append, List.takeWhile_cons]
      split
      · exact Nat.succ_le_succ ih
      · exact Nat.zero_le _

/-- A dollar takes nothing with it beyond the next closing brace. -/
theorem expandDollar_length_le (front rest : List Char) :
    (expandDollar c (front ++ '\x7d' :: rest)).2 ≤ front.length + 1 := by
  generalize hbehind : front ++ '\x7d' :: rest = behind
  unfold expandDollar
  split
  · exact Nat.succ_le_succ (Nat.zero_le _)
  · rename_i _ tail
    rcases front with _ | ⟨x, front⟩
    · exact absurd (List.cons.inj hbehind).1 (by decide)
    · rw [List.cons_append, List.cons.injEq] at hbehind
      have htake := length_takeWhile_le (· ≠ '\x7d') front rest (by decide)
      rw [hbehind.2] at htake
      rw [List.length_cons]
      dsimp only
      split
      · omega
      · exact Nat.zero_le _
  · have htake := length_takeWhile_le isReferenceChar front rest (by decide)
    rw [hbehind] at htake
    dsimp only
    split
    · exact Nat.zero_le _
    · omega

/-- A closing brace separates what is in front of it from what is behind it, whatever
    the first is. -/
theorem exists_expandFrom_brace (front rest : List Char) (skipped : Nat)
    (hskipped : skipped ≤ front.length + 1) :
    ∃ text, expandFrom c skipped (front ++ '\x7d' :: rest) = text ++ expandFrom c 0 rest := by
  induction front generalizing skipped with
  | nil =>
      -- The brace itself stands, or is the end of a reference.
      rcases skipped with _ | _ | skipped
      · exact ⟨['\x7d'], expandFrom_cons_of_ne c (by decide) rest⟩
      · exact ⟨[], rfl⟩
      · rw [List.length_nil] at hskipped
        omega
  | cons x front ih =>
      rw [List.length_cons] at hskipped
      rcases skipped with _ | skipped
      · by_cases hx : x = '$'
        · subst hx
          rcases ih (expandDollar c (front ++ '\x7d' :: rest)).2
            (expandDollar_length_le c front rest) with ⟨text, htext⟩
          refine ⟨(expandDollar c (front ++ '\x7d' :: rest)).1 ++ text, ?_⟩
          rw [List.cons_append, expandFrom, if_pos rfl, List.append_assoc, ← htext]
        · rcases ih 0 (Nat.zero_le _) with ⟨text, htext⟩
          refine ⟨x :: text, ?_⟩
          rw [List.cons_append, expandFrom_cons_of_ne c hx, htext, List.cons_append]
      · exact ih skipped (by omega)

/-- A name becomes at least what stands in front of its first closing brace. -/
theorem exists_replaced_of_named (name rest : List Char) (hname : '>' ∉ name) :
    ∃ first, '\x7d' ∉ first ∧ ∀ c, ∃ text,
      replaced c ('$' :: '<' :: (name ++ '>' :: rest)) =
        (c.lookup first).toList ++ text ++ replaced c rest := by
  by_cases hbrace : '\x7d' ∈ name
  · rcases List.eq_append_cons_of_mem hbrace with ⟨first, last, rfl, hfirst⟩
    have hsplit : reference (first ++ '\x7d' :: last) ++ referencesFrom 0 rest =
        reference first ++ (last ++ '\x7d' :: referencesFrom 0 rest) := by
      simp only [reference, List.append_assoc, List.cons_append, List.nil_append]
    refine ⟨first, hfirst, fun c => ?_⟩
    rcases exists_expandFrom_brace c last (referencesFrom 0 rest) 0 (Nat.zero_le _) with
      ⟨text, htext⟩
    refine ⟨text, ?_⟩
    rw [replaced, referencesFrom_of_named _ rest hname, hsplit,
      expandFrom_reference c first _ hfirst, htext, List.append_assoc, replaced]
  · refine ⟨name, hbrace, fun c => ⟨[], ?_⟩⟩
    rw [replaced, referencesFrom_of_named _ rest hname, expandFrom_reference c name _ hbrace,
      List.append_nil, replaced]

end Expanding

section Plain

variable {text rest : List Char} {p : Piece} {pieces : List Piece}

/-- Plain pieces become their texts. -/
theorem replaced_of_isPlain (c : Captures) (h : Reads text pieces) (hplain : IsPlain pieces) :
    replaced c text = pieces.flatMap (Piece.text c) := by
  induction h with
  | nil => rfl
  | piece hbegins _ ih =>
      rcases (isPlain_cons_iff _ _).mp hplain with ⟨hname, _, hpieces⟩
      rw [replaced_of_begins c hbegins hname, ih hpieces, List.flatMap_cons]
  | @char x rest pieces hnone hrest ih =>
      rcases (isPlain_cons_iff _ _).mp hplain with ⟨_, hzero, hpieces⟩
      rw [List.flatMap_cons, Piece.text, List.singleton_append, ← ih hpieces]
      by_cases hx : x = '$'
      · subst hx
        refine replaced_of_not_begins c rest hnone fun hhead => hzero rfl ?_
        rcases List.head?_eq_some_iff.mp hhead with ⟨more, rfl⟩
        exact hrest.head?_eq (by decide)
      · exact replaced_cons_of_ne c hx rest

/-- Captures under which whatever is read differently becomes longer: the whole match is
    longer than any row of characters that it can be read for, and the names that a
    reference cannot hold have no groups. -/
structure IsTelling (c : Captures) : Prop where
  whole : 3 < (c.byNumber 0).toList.length
  names : ∀ name, ¬IsPlainName name → c.byName (String.ofList name) = ""

/-- Captures in which every group up to a number has the same text. -/
def sameCaptures (number : Nat) (names : List (String × Nat)) : Captures :=
  ⟨List.replicate (number + 1) (some "text"), names⟩

theorem byNumber_sameCaptures {number : Nat} (names : List (String × Nat)) {n : Nat}
    (hn : n ≤ number) : (sameCaptures number names).byNumber n = "text" := by
  rw [Captures.byNumber, sameCaptures, List.getElem?_replicate, if_pos (Nat.lt_succ_of_le hn)]
  rfl

/-- Captures are made up for a name, whatever it is, unless it ends a reference. -/
theorem exists_isTelling (first : List Char) (hfirst : '\x7d' ∉ first) :
    ∃ c, IsTelling c ∧ (c.lookup first).toList ≠ [] := by
  have hwhole : ∀ number names,
      3 < ((sameCaptures number names).byNumber 0).toList.length := by
    intro number names
    rw [byNumber_sameCaptures names (Nat.zero_le number)]
    decide
  cases hlookup : groupNumber? first with
  | some n =>
      refine ⟨sameCaptures n [], ⟨hwhole n [], fun name _ => rfl⟩, ?_⟩
      rw [Captures.lookup, hlookup]
      dsimp only
      rw [byNumber_sameCaptures [] (Nat.le_refl n)]
      decide
  | none =>
      refine ⟨sameCaptures 0 [(String.ofList first, 0)], ⟨hwhole 0 _, fun name hname => ?_⟩, ?_⟩
      · -- The only name that has a group can be held by a reference.
        have hne : (String.ofList name == String.ofList first) = false := by
          rw [beq_eq_false_iff_ne, ne_eq, String.ofList_inj]
          rintro rfl
          exact hname ⟨hfirst, hlookup⟩
        rw [Captures.byName, sameCaptures, List.lookup_cons, hne]
        rfl
      · have htext : (sameCaptures 0 [(String.ofList first, 0)]).byName (String.ofList first) =
            "text" := by
          rw [Captures.byName, sameCaptures, List.lookup_cons, BEq.rfl]
          exact byNumber_sameCaptures _ (Nat.le_refl 0)
        rw [Captures.lookup, hlookup]
        dsimp only
        rw [htext]
        decide

/-- A name that no reference can hold has no text, and what it becomes can only be longer. -/
theorem length_replaced_of_not_plain (c : Captures) (hc : IsTelling c) {name : List Char}
    (h : Begins text (.named name) rest) (hplain : ¬IsPlainName name) :
    (Piece.text c (.named name)).length = 0 ∧
      (replaced c rest).length ≤ (replaced c text).length := by
  refine ⟨by rw [Piece.text, hc.names name hplain]; rfl, ?_⟩
  cases h with
  | named _ _ behind hname hend =>
      rcases exists_replaced_of_named name rest hname with ⟨first, _, hfirst⟩
      rcases hfirst c with ⟨extra, hreplaced⟩
      rw [hend, hreplaced, List.length_append]
      exact Nat.le_add_left _ _

/-- What is read differently only makes a template longer. -/
theorem length_flatMap_le (c : Captures) (hc : IsTelling c) (h : Reads text pieces) :
    (pieces.flatMap (Piece.text c)).length ≤ (replaced c text).length := by
  induction h with
  | nil => exact Nat.le_refl 0
  | @piece _ rest p _ hbegins _ ih =>
      rw [List.flatMap_cons, List.length_append]
      by_cases hplain : ∀ name, p = .named name → IsPlainName name
      · rw [replaced_of_begins c hbegins hplain, List.length_append]
        exact Nat.add_le_add_left ih _
      · push Not at hplain
        rcases hplain with ⟨name, rfl, hname⟩
        rcases length_replaced_of_not_plain c hc hbegins hname with ⟨hzero, hle⟩
        rw [hzero, Nat.zero_add]
        exact ih.trans hle
  | @char x rest _ hnone _ ih =>
      rw [List.flatMap_cons, Piece.text, List.singleton_append, List.length_cons]
      by_cases hx : x = '$'
      · subst hx
        by_cases hzero : rest.head? = some '0'
        · rcases List.head?_eq_some_iff.mp hzero with ⟨more, rfl⟩
          have hlength := length_replaced_of_zero c more hnone
          have hwhole := hc.whole
          omega
        · rw [replaced_of_not_begins c rest hnone hzero, List.length_cons]
          exact Nat.succ_le_succ ih
      · rw [replaced_cons_of_ne c hx, List.length_cons]
        exact Nat.succ_le_succ ih

/-- A name that no reference can hold is told by captures made up for it. -/
theorem exists_length_lt_of_not_plain {name : List Char} (h : Begins text (.named name) rest)
    (hplain : ¬IsPlainName name) (hrest : Reads rest pieces) :
    ∃ c, ((Piece.named name :: pieces).flatMap (Piece.text c)).length <
      (replaced c text).length := by
  cases h with
  | named _ _ behind hname hend =>
      rcases exists_replaced_of_named name rest hname with ⟨first, hfirst, hall⟩
      rcases exists_isTelling first hfirst with ⟨c, hc, hne⟩
      rcases hall c with ⟨extra, hreplaced⟩
      have hpos := List.length_pos_iff.mpr hne
      have hle := length_flatMap_le c hc hrest
      refine ⟨c, ?_⟩
      rw [hend, hreplaced, List.flatMap_cons, Piece.text, hc.names name hplain,
        String.toList_empty, List.nil_append, List.length_append, List.length_append]
      omega

/-- A dollar in front of a zero is told by a match that is long enough. -/
theorem exists_length_lt_of_zero (more : List Char)
    (hnone : ∀ p behind, ¬Begins ('$' :: '0' :: more) p behind)
    (hrest : Reads ('0' :: more) pieces) :
    ∃ c, ((Piece.char '$' :: pieces).flatMap (Piece.text c)).length <
      (replaced c ('$' :: '0' :: more)).length := by
  rcases exists_isTelling [] List.not_mem_nil with ⟨c, hc, _⟩
  have hmore := length_replaced_of_zero c more hnone
  have hwhole := hc.whole
  have hle := length_flatMap_le c hc hrest
  refine ⟨c, ?_⟩
  rw [List.flatMap_cons, Piece.text, List.singleton_append, List.length_cons]
  omega

/-- Pieces that always become their texts are plain. -/
theorem isPlain_of_replaced (h : Reads text pieces)
    (hall : ∀ c, replaced c text = pieces.flatMap (Piece.text c)) : IsPlain pieces := by
  -- What is read as meant can be taken off both sides, and what is not is told by some
  -- captures.
  induction h with
  | nil => exact isPlain_nil
  | @piece text rest p pieces hbegins hrest ih =>
      have hplain : ∀ name, p = .named name → IsPlainName name := by
        rintro name rfl
        by_contra hname
        rcases exists_length_lt_of_not_plain hbegins hname hrest with ⟨c, hlt⟩
        exact Nat.ne_of_gt hlt (congrArg List.length (hall c))
      refine (isPlain_cons_iff p pieces).mpr
        ⟨hplain, fun hp => absurd hp (hbegins.ne_char '$'), ih fun c => ?_⟩
      have heq := hall c
      rwa [replaced_of_begins c hbegins hplain, List.flatMap_cons,
        List.append_cancel_left_eq] at heq
  | @char x rest pieces hnone hrest ih =>
      have hzero : x = '$' → rest.head? ≠ some '0' := by
        rintro rfl hhead
        rcases List.head?_eq_some_iff.mp hhead with ⟨more, rfl⟩
        rcases exists_length_lt_of_zero more hnone hrest with ⟨c, hlt⟩
        exact Nat.ne_of_gt hlt (congrArg List.length (hall c))
      refine (isPlain_cons_iff _ pieces).mpr ⟨fun name => Piece.noConfusion, fun hx hhead => ?_,
        ih fun c => ?_⟩
      · exact hzero (Piece.char.inj hx) (hrest.head?_text hhead)
      · have heq := hall c
        rw [List.flatMap_cons, Piece.text, List.singleton_append] at heq
        by_cases hx : x = '$'
        · subst hx
          rw [replaced_of_not_begins c rest hnone (hzero rfl), List.cons.injEq] at heq
          exact heq.2
        · rw [replaced_cons_of_ne c hx, List.cons.injEq] at heq
          exact heq.2

end Plain

/-- What belongs to a dollar stands behind it. -/
theorem dollarReference_length_le (behind : List Char) :
    (dollarReference behind).2 ≤ behind.length := by
  unfold dollarReference
  split
  · exact Nat.succ_le_succ (Nat.zero_le _)
  · exact Nat.succ_le_succ (Nat.zero_le _)
  · -- A name is shorter than what stands behind its bracket, or it is not closed.
    dsimp only
    split
    · rw [List.length_cons]
      omega
    · exact Nat.zero_le _
  · split
    · split
      · exact Nat.succ_le_succ (Nat.succ_le_succ (Nat.zero_le _))
      · exact Nat.succ_le_succ (Nat.zero_le _)
    · exact Nat.zero_le _
  · split
    · exact Nat.le_refl _
    · exact Nat.zero_le _
  · exact Nat.le_refl _

/-- A template is read in one way, and for all captures it becomes the texts of its pieces
    exactly if these are plain. Where a dollar is turned into a reference, the place
    behind what belongs to it is not beyond the end of the template. -/
theorem expand_references_iff (template : String) :
    (∃ pieces, (∀ others, Reads template.toList others ↔ others = pieces) ∧
      ((∀ c, expand c (references template) =
          String.ofList (pieces.flatMap (Piece.text c))) ↔ IsPlain pieces)) ∧
      ∀ before behind, template.toList = before ++ '$' :: behind →
        before.length + 1 + (dollarReference behind).2 ≤ template.toList.length := by
  refine ⟨?_, fun before behind htemplate => ?_⟩
  · rcases exists_reads template.toList with ⟨pieces, hreads⟩
    refine ⟨pieces, fun others => ⟨fun h => h.unique hreads, fun h => h ▸ hreads⟩, ?_⟩
    have hexpand : ∀ c, expand c (references template) =
        String.ofList (replaced c template.toList) := by
      intro c
      rw [expand, references, String.toList_ofList, replaced]
    simp only [hexpand, String.ofList_inj]
    exact ⟨isPlain_of_replaced hreads, fun hplain c => replaced_of_isPlain c hreads hplain⟩
  · have hle := dollarReference_length_le behind
    rw [htemplate, List.length_append, List.length_cons]
    omega

/-- A dollar in front of a zero stands for itself, and becomes the whole match. -/
theorem not_forall_expand_references :
    ¬∀ (template : String) (c : Captures) (pieces : List Piece),
      Reads template.toList pieces →
        expand c (references template) = String.ofList (pieces.flatMap (Piece.text c)) := by
  intro hall
  have hzero : ∀ p rest, ¬Begins ['0'] p rest := by
    intro p rest h
    rcases h.eq_cons with ⟨behind, heq, _⟩
    exact absurd (List.cons.inj heq).1 (by decide)
  have hdollar : ∀ p rest, ¬Begins ['$', '0'] p rest := by
    intro p rest h
    cases h with
    | oneDigit _ _ _ _ hpos => exact absurd hpos (by decide)
  have hreads : Reads "$0".toList [.char '$', .char '0'] := .char hdollar (.char hzero .nil)
  exact absurd (hall "$0" ⟨[some "any"], []⟩ _ hreads) (by decide)

end PostProcess

end Typings
