import Typings.Run.Display

/-!
# Colors and the Text Between Them

A terminal is told a color by an escape sequence, and a report with colors is the report
without them in between such sequences. Taking every sequence out of it leaves exactly the
plain report.

Nothing has to be known about the painter but that it puts whole sequences around a text
and leaves the text as it is. Sequences are found from left to right, so what stands behind
one could only matter if it began inside of it. That is why the comparison is made with
something behind both texts (`IsColored`): it can then be made part by part. The texts that
a report is made of must have no escape character in them, or they would bring sequences
of their own.

## Main definitions

* `Text.IsSequence`: An escape sequence that sets colors.
* `Text.withoutSequences`: A text without the sequences in it.
* `Text.IsColored`: A text is another one with sequences in it.
* `Painter.Wraps`: A painter puts sequences around a text.
* `Report.HasPlainTexts`: No text of a report has an escape character in it.

## Theorems

* `Text.withoutSequences_append`: A sequence is taken out.
* `Text.IsColored.append`, `Text.IsColored.refl`: Colored texts part by part.
* `Style.wraps_paint`: The painter for terminals puts sequences around a text.
* `Report.withoutSequences_displayBy`: A report without its colors is the plain report.
-/

namespace Typings

namespace Text

/-- The character that every sequence begins with. -/
def escape : Char := '\x1b'

/-- What a sequence says is a row of numbers with semicolons between them. -/
def isParameter (c : Char) : Bool :=
  c.isDigit || c = ';'

/-- An escape sequence that sets colors. -/
def IsSequence (cs : List Char) : Prop :=
  ∃ parameters, (∀ c ∈ parameters, isParameter c = true) ∧
    cs = escape :: '[' :: parameters ++ ['m']

/-- The length of the sequence that a text begins with. -/
def sequenceLength? : List Char → Option Nat
  | c :: '[' :: rest =>
    let parameters := rest.takeWhile isParameter
    if c = escape ∧ (rest.drop parameters.length).head? = some 'm' then some (parameters.length + 3)
    else none
  | _ => none

/-- Take out every sequence, leaving out so many characters in front that belong to a
    sequence already found. -/
def withoutSequencesFrom : Nat → List Char → List Char
  | _, [] => []
  | skipped + 1, _ :: rest => withoutSequencesFrom skipped rest
  | 0, c :: rest =>
    match sequenceLength? (c :: rest) with
    | some length => withoutSequencesFrom (length - 1) rest
    | none => c :: withoutSequencesFrom 0 rest

/-- A text without the sequences in it. -/
def withoutSequences (text : String) : String :=
  String.ofList (withoutSequencesFrom 0 text.toList)

theorem sequenceLength?_of_ne (c : Char) (rest : List Char) (hc : c ≠ escape) :
    sequenceLength? (c :: rest) = none := by
  cases rest with
  | nil => rfl
  | cons d more =>
      by_cases hd : d = '['
      · rw [hd, sequenceLength?, if_neg fun h => hc h.1]
      · unfold sequenceLength?
        split
        · next heq => exact absurd (List.cons.inj (List.cons.inj heq).2).1 hd
        · rfl

theorem withoutSequencesFrom_eq (skipped : Nat) (cs : List Char) :
    withoutSequencesFrom skipped cs = withoutSequencesFrom 0 (cs.drop skipped) := by
  induction skipped generalizing cs with
  | zero => rfl
  | succ n ih =>
      cases cs with
      | nil => rfl
      | cons c rest => exact ih rest

/-- A character that begins no sequence stays. -/
theorem withoutSequencesFrom_cons (c : Char) (rest : List Char) (hc : c ≠ escape) :
    withoutSequencesFrom 0 (c :: rest) = c :: withoutSequencesFrom 0 rest := by
  rw [withoutSequencesFrom, sequenceLength?_of_ne c rest hc]

/-- A sequence is taken out, whatever stands behind it. -/
theorem withoutSequences_append (cs rest : List Char) (hcs : IsSequence cs) :
    withoutSequencesFrom 0 (cs ++ rest) = withoutSequencesFrom 0 rest := by
  rcases hcs with ⟨parameters, hparameters, rfl⟩
  -- The letter at the end is no parameter, so a sequence is as long as it seems.
  have hend : isParameter 'm' = false := by decide
  have htake : (parameters ++ 'm' :: rest).takeWhile isParameter = parameters := by
    rw [List.takeWhile_append_of_pos hparameters, List.takeWhile_cons_of_neg (by rw [hend]; decide),
      List.append_nil]
  have hlength : sequenceLength? (escape :: '[' :: (parameters ++ 'm' :: rest)) =
      some (parameters.length + 3) := by
    rw [sequenceLength?, htake, List.drop_left]
    rfl
  have hcons : escape :: '[' :: parameters ++ ['m'] ++ rest =
      escape :: '[' :: (parameters ++ 'm' :: rest) := by
    simp only [List.cons_append, List.append_assoc, List.nil_append]
  rw [hcons, withoutSequencesFrom, hlength]
  -- All of it but its first character is still to be left out.
  show withoutSequencesFrom (parameters.length + 2) ('[' :: (parameters ++ 'm' :: rest)) = _
  rw [withoutSequencesFrom_eq, List.drop_succ_cons, ← List.drop_drop, List.drop_left]
  rfl

theorem withoutSequences_flatten (sequences : List (List Char)) (rest : List Char)
    (hsequences : ∀ cs ∈ sequences, IsSequence cs) :
    withoutSequencesFrom 0 (sequences.flatten ++ rest) = withoutSequencesFrom 0 rest := by
  induction sequences with
  | nil => rfl
  | cons cs more ih =>
      rw [List.flatten_cons, List.append_assoc,
        withoutSequences_append cs _ (hsequences cs List.mem_cons_self)]
      exact ih fun d hd => hsequences d (List.mem_cons_of_mem cs hd)

/-- A text is another one with sequences in it: without them it is the other one, whatever
    stands behind it. -/
def IsColored (colored plain : String) : Prop :=
  ∀ rest, withoutSequencesFrom 0 (colored.toList ++ rest) =
    plain.toList ++ withoutSequencesFrom 0 rest

/-- A text without escape characters has no sequences in it. -/
theorem IsColored.refl (text : String) (htext : escape ∉ text.toList) : IsColored text text := by
  intro rest
  -- No character of the text begins a sequence, whatever comes behind the text.
  generalize text.toList = cs at htext ⊢
  induction cs with
  | nil => rfl
  | cons c more ih =>
      rw [List.mem_cons, not_or] at htext
      rw [List.cons_append, withoutSequencesFrom_cons _ _ (Ne.symm htext.1), ih htext.2,
        List.cons_append]

theorem IsColored.append {a b c d : String} (hfirst : IsColored a b) (hsecond : IsColored c d) :
    IsColored (a ++ c) (b ++ d) := by
  intro rest
  rw [String.toList_append, String.toList_append, List.append_assoc, List.append_assoc, hfirst,
    hsecond]

/-- Colored texts put together, each of them another one with sequences in it. -/
theorem IsColored.join_map {α : Type} (items : List α) (colored plain : α → String)
    (hitems : ∀ a ∈ items, IsColored (colored a) (plain a)) :
    IsColored (join "" (items.map colored)) (join "" (items.map plain)) := by
  have hempty : IsColored "" "" := IsColored.refl "" List.not_mem_nil
  induction items with
  | nil => exact hempty
  | cons a rest ih =>
      have hfirst := hitems a List.mem_cons_self
      have hrest := ih fun b hb => hitems b (List.mem_cons_of_mem a hb)
      cases rest with
      | nil => exact hfirst
      | cons b more => exact (hfirst.append hempty).append hrest

/-- Without its sequences a colored text is the plain one. -/
theorem IsColored.withoutSequences_eq {colored plain : String} (h : IsColored colored plain) :
    withoutSequences colored = plain := by
  have hend := h []
  rw [List.append_nil, withoutSequencesFrom, List.append_nil] at hend
  rw [withoutSequences, hend, String.ofList_toList]

/-- A number is written with digits only. -/
theorem escape_not_mem_toDigits (n : Nat) : escape ∉ Nat.toDigits 10 n := fun hmem =>
  absurd (Nat.isDigit_of_mem_toDigits (by decide) (by decide) hmem) (by decide)

theorem escape_not_mem_toString (n : Nat) : escape ∉ (toString n).toList := by
  have hdigits : (toString n).toList = Nat.toDigits 10 n := String.toList_ofList
  rw [hdigits]
  exact escape_not_mem_toDigits n

end Text

open Text (escape IsColored IsSequence withoutSequences)

/-- A painter puts sequences around a text and leaves the text as it is. -/
def Painter.Wraps (painter : Painter) : Prop :=
  ∀ style text, escape ∉ text.toList → ∃ before after : List (List Char),
    (∀ cs ∈ before, IsSequence cs) ∧ (∀ cs ∈ after, IsSequence cs) ∧
      (painter style text).toList = before.flatten ++ text.toList ++ after.flatten

/-- A painted text is the text with sequences in it. -/
theorem Painter.Wraps.isColored {painter : Painter} (h : painter.Wraps) (style : Style)
    (text : String) (htext : escape ∉ text.toList) :
    IsColored (painter.apply true style text) (painter.apply false style text) := by
  -- What is put before and behind the text consists of whole sequences.
  rcases h style text htext with ⟨before, after, hbefore, hafter, hpainted⟩
  intro rest
  have hcolored : painter.apply true style text = painter style text := rfl
  rw [hcolored, hpainted, List.append_assoc, List.append_assoc,
    Text.withoutSequences_flatten before _ hbefore, IsColored.refl text htext,
    Text.withoutSequences_flatten after _ hafter]
  rfl

namespace Style

/-- Nothing is replaced in a text that has not the first character of what is searched. -/
theorem replace_eq_self (search replacement text : String) (c : Char) (rest : List Char)
    (hsearch : search.toList = c :: rest) (htext : c ∉ text.toList) :
    Text.replace search replacement text = text := by
  have hchars : ∀ cs, c ∉ cs →
      Text.replaceFrom search.toList replacement.toList 0 cs = cs := by
    intro cs hcs
    induction cs with
    | nil => rfl
    | cons d more ih =>
        rw [List.mem_cons, not_or] at hcs
        -- The search would have to begin with a character that the text has not.
        have hnot : ¬ search.toList.isPrefixOf (d :: more) = true := by
          rw [hsearch, List.isPrefixOf, Bool.and_eq_true, beq_iff_eq]
          exact fun h => hcs.1 h.1
        rw [Text.replaceFrom, if_neg hnot, ih hcs.2]
  by_cases hempty : search.isEmpty = true
  · rw [Text.replace, if_pos hempty]
  · rw [Text.replace, if_neg hempty, hchars text.toList htext, String.ofList_toList]

/-- The painter for terminals puts one sequence before a text and one behind it. -/
theorem wraps_paint : Painter.Wraps paint := by
  intro style text htext
  -- A style is a row of numbers.
  have hstart : IsSequence style.start.toList := by
    cases style with
    | failure => exact ⟨['1', ';', '3', '1'], List.all_eq_true.mp (by decide), rfl⟩
    | warning => exact ⟨['1', ';', '3', '3'], List.all_eq_true.mp (by decide), rfl⟩
    | name => exact ⟨['3', '6'], List.all_eq_true.mp (by decide), rfl⟩
    | count => exact ⟨['1', ';', '3', '2'], List.all_eq_true.mp (by decide), rfl⟩
  have hreset : IsSequence reset.toList := ⟨['0'], List.all_eq_true.mp (by decide), rfl⟩
  refine ⟨[style.start.toList], [reset.toList], ?_, ?_, ?_⟩
  · exact fun cs hcs => List.mem_singleton.mp hcs ▸ hstart
  · exact fun cs hcs => List.mem_singleton.mp hcs ▸ hreset
  · rw [paint, replace_eq_self _ _ _ escape ['[', '0', 'm'] rfl htext, String.toList_append,
      String.toList_append, List.flatten_singleton, List.flatten_singleton]

end Style

namespace Report

/-- No text of a report has an escape character in it. -/
structure HasPlainTexts (r : Report) : Prop where
  failures : ∀ f ∈ r.renderFailures, escape ∉ f.name.toList ∧ escape ∉ f.message.toList
  bases : ∀ b ∈ r.unresolvedBaseClasses, escape ∉ b.base.toList ∧ escape ∉ b.className.toList

section Lines

theorem escape_not_mem_declaredLine (r : Report) : escape ∉ (declaredLine r).toList := by
  simp +decide [declaredLine, Text.escape_not_mem_toDigits]

theorem escape_not_mem_linkedLine (r : Report) : escape ∉ (linkedLine r).toList := by
  simp +decide [linkedLine, Text.escape_not_mem_toDigits]

variable {painter : Painter} (hpainter : painter.Wraps)

include hpainter

theorem isColored_failureLine (f : RenderFailure) (hname : escape ∉ f.name.toList)
    (hmessage : escape ∉ f.message.toList) :
    IsColored (failureLine painter true f) (failureLine painter false f) := by
  have hkind : escape ∉ f.kind.name.toList := by
    cases f.kind <;> decide
  have hlabel := hpainter.isColored .failure "error" (by decide)
  exact ((((((hlabel.append (.refl ": " (by decide))).append (.refl _ hkind)).append
    (.refl " " (by decide))).append (hpainter.isColored .name f.name hname)).append
    (.refl ": " (by decide))).append (.refl _ hmessage)).append (.refl "\n" (by decide))

theorem isColored_unresolvedLine (b : UnresolvedBase) (hbase : escape ∉ b.base.toList)
    (hclass : escape ∉ b.className.toList) :
    IsColored (unresolvedLine painter true b) (unresolvedLine painter false b) := by
  have hlabel := hpainter.isColored .warning "warning" (by decide)
  exact ((((hlabel.append (.refl ": base class " (by decide))).append
    (hpainter.isColored .name b.base hbase)).append (.refl " of " (by decide))).append
    (hpainter.isColored .name b.className hclass)).append (.refl " was not found\n" (by decide))

theorem isColored_unresolvedTypesLine (r : Report) :
    IsColored (unresolvedTypesLine painter true r) (unresolvedTypesLine painter false r) := by
  unfold unresolvedTypesLine
  by_cases hzero : r.unresolvedTypes = 0
  · rw [if_pos hzero, if_pos hzero]
    exact .refl "" (by decide)
  · rw [if_neg hzero, if_neg hzero]
    have hlabel := hpainter.isColored .warning "warning" (by decide)
    exact ((hlabel.append (.refl ": " (by decide))).append
      (.refl _ (Text.escape_not_mem_toString r.unresolvedTypes))).append
      (.refl " type reference(s) rendered as any\n" (by decide))

theorem isColored_writtenLine (outputDir : String) (r : Report) (hdir : escape ∉ outputDir.toList) :
    IsColored (writtenLine painter true outputDir r) (writtenLine painter false outputDir r) := by
  have hcount := hpainter.isColored .count _ (Text.escape_not_mem_toString r.rendered)
  exact ((((IsColored.refl "Generated " (by decide)).append hcount).append
    (.refl " declaration file(s) into " (by decide))).append (.refl _ hdir)).append
    (.refl "\n" (by decide))

theorem isColored_failureCountLine (r : Report) :
    IsColored (failureCountLine painter true r) (failureCountLine painter false r) := by
  unfold failureCountLine
  by_cases hzero : r.failureCount = 0
  · rw [if_pos hzero, if_pos hzero]
    exact .refl "" (by decide)
  · rw [if_neg hzero, if_neg hzero]
    have htext : escape ∉
        (toString r.failureCount ++ " declaration(s) failed to render").toList := by
      rw [String.toList_append, List.mem_append, not_or]
      exact ⟨Text.escape_not_mem_toString r.failureCount, by decide⟩
    exact (hpainter.isColored .failure _ htext).append (.refl "\n" (by decide))

end Lines

variable {painter : Painter}

/-- A report without its colors is the plain report. -/
theorem withoutSequences_displayBy (hpainter : painter.Wraps) (outputDir : String)
    (hdir : escape ∉ outputDir.toList) (r : Report) (hr : r.HasPlainTexts) :
    withoutSequences (r.displayBy painter true outputDir) = r.displayBy painter false outputDir := by
  -- A report is put together from lines, each of which is colored by itself.
  have hfailures := IsColored.join_map r.renderFailures (failureLine painter true)
    (failureLine painter false) fun f hf =>
      isColored_failureLine hpainter f (hr.failures f hf).1 (hr.failures f hf).2
  have hbases := IsColored.join_map r.unresolvedBaseClasses (unresolvedLine painter true)
    (unresolvedLine painter false) fun b hb =>
      isColored_unresolvedLine hpainter b (hr.bases b hb).1 (hr.bases b hb).2
  have htypes := isColored_unresolvedTypesLine hpainter r
  have hwritten := isColored_writtenLine hpainter outputDir r hdir
  have hdeclared := IsColored.refl _ (escape_not_mem_declaredLine r)
  have hlinked := IsColored.refl _ (escape_not_mem_linkedLine r)
  have hcount := isColored_failureCountLine hpainter r
  exact ((((((hfailures.append hbases).append htypes).append hwritten).append hdeclared).append
    hlinked).append hcount).withoutSequences_eq

/-- A report with everything in it that can have a color. -/
def troubledReport : Report where
  sources := 2
  classes := 3
  rendered := 12
  unresolvedTypes := 1
  unresolvedBaseClasses := [⟨"lib.Button", "lib.Control"⟩, ⟨"lib.Link", "lib.[0m"⟩]
  renderFailures := [⟨.class, "lib.Button", "permission denied"⟩]

/-- For a terminal it has colors, and without them it is the plain report. -/
theorem withoutSequences_troubledReport :
    Style.paint .count "12" = "\x1b[1;32m12\x1b[0m" ∧ troubledReport.HasPlainTexts ∧
      withoutSequences (troubledReport.display true "out") = troubledReport.display false "out" := by
  have hplain : troubledReport.HasPlainTexts := ⟨by decide, by decide⟩
  exact ⟨by decide, hplain,
    withoutSequences_displayBy Style.wraps_paint "out" (by decide) troubledReport hplain⟩

end Report

end Typings
