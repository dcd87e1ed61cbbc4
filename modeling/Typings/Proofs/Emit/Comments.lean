import Mathlib.Data.List.Infix
import Typings.Proofs.Emit.Levels

/-!
# Comments

The documentation in a file stands in comments, and a comment ends where a star stands
in front of a slash for the first time. Both can come from a text that is written into
the comment, and one of them can be there without the other: a text can begin with a
slash or end in a star, and lines have stars of their own in front.

Inside of a text the two are kept apart by a backslash, which never leaves a star at the
end that had none before, and never a slash at the beginning. Between texts there is
always something that is neither: a line ends in a line feed, and what is written in
front of a text ends in a space. Spaces taken away at the end of a line do no harm, since
nothing is put in their place but the line feed. So a comment is open up to its last
slash.

## Main definitions

* `IsOpen`: A text in which no comment ends.
* `commentBody`, `commentChars`: The characters of a comment, and those in front of its
  last slash.
* `IsComment`: A text that is one comment.

## Theorems

* `IsOpen.append_cons`: No comment ends around a character that is none of the two.
* `isOpen_guardComment`: In a guarded text no comment ends.
* `charsAt_docComment`: The characters of documentation are those of a comment.
* `output_docComment`: A comment leaves its own characters wherever it is written.
* `isOpen_commentBody`: No comment ends in front of the last slash.
* `isComment_commentChars`: A comment with lines is closed once.
-/

namespace Typings

namespace Emit

/-- A text without the characters that end a comment. -/
def IsOpen (text : List Char) : Prop :=
  ¬['*', '/'] <:+: text

instance (text : List Char) : Decidable (IsOpen text) :=
  inferInstanceAs (Decidable ¬['*', '/'] <:+: text)

namespace IsOpen

variable {first second : List Char}

theorem of_isInfix (h : IsOpen second) (hinside : first <:+: second) : IsOpen first :=
  fun hend => h (hend.trans hinside)

/-- A comment cannot end around a character that is none of the two. -/
theorem append_cons {x : Char} (hstar : x ≠ '*') (hslash : x ≠ '/') (hfirst : IsOpen first)
    (hsecond : IsOpen second) : IsOpen (first ++ x :: second) := by
  induction first with
  | nil =>
      rw [List.nil_append, IsOpen, List.infix_cons_iff, not_or, List.cons_prefix_cons]
      exact ⟨fun h => hstar h.1.symm, hsecond⟩
  | cons y rest ih =>
      have hrest := ih (hfirst.of_isInfix (List.suffix_cons y rest).isInfix)
      rw [List.cons_append, IsOpen, List.infix_cons_iff, not_or]
      refine ⟨fun h => ?_, hrest⟩
      rcases rest with _ | ⟨z, rest⟩
      · rw [List.cons_prefix_cons, List.nil_append, List.cons_prefix_cons] at h
        exact hslash h.2.1.symm
      · rw [List.cons_append, List.cons_prefix_cons, List.cons_prefix_cons] at h
        refine hfirst ⟨[], rest, ?_⟩
        rw [← h.1, ← h.2.1]
        rfl

theorem cons {x : Char} (hstar : x ≠ '*') (h : IsOpen second) : IsOpen (x :: second) := by
  rw [IsOpen, List.infix_cons_iff, not_or, List.cons_prefix_cons]
  exact ⟨fun hend => hstar hend.1.symm, h⟩

theorem indentation (level : Nat) (h : IsOpen second) :
    IsOpen (Emit.indentation level ++ second) := by
  rw [Emit.indentation]
  induction level * indentWidth with
  | zero => exact h
  | succ n ih => exact ih.cons (by decide)

end IsOpen

theorem head?_guardComment (text : List Char) : (guardComment text).head? = text.head? := by
  fun_cases guardComment text <;> rfl

/-- In a guarded text no comment ends. -/
theorem isOpen_guardComment (text : List Char) : IsOpen (guardComment text) := by
  fun_induction guardComment text with
  | case1 rest ih =>
      -- The two characters are kept apart.
      have hslash : IsOpen ('/' :: guardComment rest) := ih.cons (by decide)
      have hstar : IsOpen (['*'] ++ '\\' :: '/' :: guardComment rest) :=
        IsOpen.append_cons (by decide) (by decide) (by decide) hslash
      exact hstar
  | case2 c rest hc ih =>
      rw [IsOpen, List.infix_cons_iff, not_or]
      refine ⟨fun hprefix => ?_, ih⟩
      rw [List.cons_prefix_cons] at hprefix
      rcases hprefix with ⟨rfl, hrest⟩
      have hhead : (guardComment rest).head? = some '/' := by
        rcases hrest with ⟨more, hmore⟩
        rw [← hmore]
        rfl
      rw [head?_guardComment] at hhead
      rcases rest with _ | ⟨d, rest⟩
      · contradiction
      · exact hc rest rfl (by rw [Option.some.inj hhead])
  | case3 => decide

/-- The characters of a line inside a documentation comment. -/
def docLineChars (level : Nat) (text : String) : List Char :=
  (indentation level ++ ' ' :: '*' :: ' ' :: guardComment text.toList).rdropWhile (· = ' ') ++
    ['\n']

/-- The characters of a documentation comment in front of its last slash. -/
def commentBody (level : Nat) (lines : List String) : List Char :=
  (indentation level ++ ['/', '*', '*']) ++
    '\n' :: (lines.flatMap (docLineChars level) ++ (indentation level ++ [' ', '*']))

/-- The characters of a documentation comment; none at all if it would have no lines. -/
def commentChars (level : Nat) (lines : List String) : List Char :=
  if lines.isEmpty then [] else commentBody level lines ++ ['/', '\n']

theorem rendered_docLine (level : Nat) (text : String) :
    (Line.deeper^[level] (docLine text)).rendered = docLineChars level text := by
  rw [deeper_iterate, docLine, Line.rendered, Line.indent, String.toList_ofList, Line.flat,
    Nat.zero_add, String.toList_append, docLineChars, indentation]
  simp only [String.toList_ofList]
  rfl

theorem isSolid_commentOpen : (Line.flat "/**").IsSolid :=
  ⟨['/', '*'], '*', rfl, by decide⟩

theorem charsAt_docComment (level : Nat) (lines : List String) :
    charsAt level (docComment lines) = commentChars level lines := by
  rw [docComment, commentChars]
  split
  · rfl
  · have hclose : (Line.flat " */").IsSolid := ⟨[' ', '*'], '/', rfl, by decide⟩
    have hlines : charsAt level (lines.map docLine) = lines.flatMap (docLineChars level) := by
      rw [charsAt, List.map_map, List.flatMap_map]
      exact List.flatMap_congr fun text _ => rendered_docLine level text
    rw [← List.singleton_append, charsAt_append, charsAt_append,
      charsAt_flat level _ isSolid_commentOpen, charsAt_flat level _ hclose, hlines, commentBody]
    simp only [List.append_assoc, List.cons_append]
    rfl

theorem charsAt_describe (level : Nat) (description : String) :
    charsAt level (describe description) = commentChars level (Text.lines description) :=
  charsAt_docComment level _

/-- A comment leaves its own characters wherever it is written. -/
theorem output_docComment (w : Writer) (level : Nat) (lines : List String) :
    (((docComment lines).map Line.deeper^[level]).foldl Writer.writeLine w).output =
      w.output ++ String.ofList (commentChars level lines) := by
  rw [← charsAt_docComment, charsAt, output_foldl_writeLine]
  intro l hl
  rw [docComment] at hl
  split at hl
  · exact absurd hl (Option.not_mem_none l)
  · rw [List.cons_append, List.map_cons, List.head?_cons, Option.mem_some_iff] at hl
    exact hl ▸ isSolid_commentOpen.deeper_iterate level

/-- A comment: it is opened behind the indentation, and the characters that end a comment
    occur in it once, in front of its last line feed. -/
structure IsComment (level : Nat) (text : List Char) : Prop where
  opens : indentation level ++ ['/', '*', '*'] <+: text
  ends : ['*', '/', '\n'] <:+ text
  once : ∀ before after, text = before ++ ['*', '/'] ++ after → after = ['\n']

theorem isOpen_docLineChars (level : Nat) (text : String) (rest : List Char) (hrest : IsOpen rest) :
    IsOpen (docLineChars level text ++ rest) := by
  have hguarded := isOpen_guardComment text.toList
  have hline : IsOpen (['*'] ++ ' ' :: guardComment text.toList) :=
    IsOpen.append_cons (by decide) (by decide) (by decide) hguarded
  have hindented : IsOpen (indentation level ++ ' ' :: '*' :: ' ' :: guardComment text.toList) :=
    IsOpen.indentation level (hline.cons (by decide))
  rw [docLineChars, List.append_assoc, List.singleton_append]
  refine IsOpen.append_cons (by decide) (by decide) ?_ hrest
  exact hindented.of_isInfix (List.rdropWhile_prefix _ _).isInfix

/-- No comment ends in front of the last slash. -/
theorem isOpen_commentBody (level : Nat) (lines : List String) :
    IsOpen (commentBody level lines) := by
  have hlines :
      IsOpen (lines.flatMap (docLineChars level) ++ (indentation level ++ [' ', '*'])) := by
    induction lines with
    | nil => exact IsOpen.indentation level (by decide)
    | cons text rest ih =>
        rw [List.flatMap_cons, List.append_assoc]
        exact isOpen_docLineChars level text _ ih
  rw [commentBody]
  exact IsOpen.append_cons (by decide) (by decide) (IsOpen.indentation level (by decide)) hlines

/-- A comment that ends in a text ends at its last slash, if it does not before. -/
theorem IsOpen.eq_of_append {body : List Char} (hbody : IsOpen body) (before after : List Char)
    (hsplit : before ++ ['*', '/'] ++ after = body ++ ['/', '\n']) : after = ['\n'] := by
  have hcut : body ++ ['/', '\n'] = body ++ ['/'] ++ ['\n'] := by
    rw [List.append_assoc]
    rfl
  rw [hcut] at hsplit
  -- What stands behind the end of the comment is taken off both texts from behind.
  rcases List.eq_nil_or_concat' after with rfl | ⟨after, x, rfl⟩
  · have hlast := congrArg List.getLast? hsplit
    simp only [List.append_nil, List.getLast?_append_cons] at hlast
    exact absurd hlast (by decide)
  · rw [← List.append_assoc] at hsplit
    rcases List.append_inj' hsplit rfl with ⟨hslash, hx⟩
    rcases List.eq_nil_or_concat' after with rfl | ⟨after, y, rfl⟩
    · exact hx
    · rw [← List.append_assoc] at hslash
      exact absurd ⟨before, after, List.append_inj_left' hslash rfl⟩ hbody

/-- A comment with lines is closed once. -/
theorem isComment_commentChars (level : Nat) (lines : List String) (hne : lines ≠ []) :
    IsComment level (commentChars level lines) := by
  have hempty : ¬lines.isEmpty = true := by rwa [List.isEmpty_iff]
  rw [commentChars, if_neg hempty]
  refine ⟨?_, ?_, fun before after hsplit => ?_⟩
  · rw [commentBody, List.append_assoc]
    exact List.prefix_append _ _
  · refine ⟨(indentation level ++ ['/', '*', '*']) ++
      '\n' :: (lines.flatMap (docLineChars level) ++ (indentation level ++ [' '])), ?_⟩
    simp only [commentBody, List.append_assoc, List.cons_append, List.nil_append]
  · exact (isOpen_commentBody level lines).eq_of_append before after hsplit.symm

end Emit

end Typings
