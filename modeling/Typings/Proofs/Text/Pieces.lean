import Mathlib.Data.List.DropRight
import Mathlib.Data.List.TakeWhile
import Typings.Text.Blank
import Typings.Text.Split

/-!
# Pieces Between Separators

What cutting a text at separators leaves: pieces without separators, and
nothing to cut in such a piece. Trimming a piece takes characters away and
adds none, so a trimmed piece is still one, and trimming it again changes
nothing.

## Theorems

* `not_isSeparator_of_mem_splitChars`: A piece holds no separator.
* `mem_of_mem_splitChars`: A piece holds nothing but what the text holds.
* `splitChars_ne_nil`: There is at least one piece.
* `splitChars_eq_singleton`, `split_eq_singleton`: A text without separator is its only
  piece.
* `split_append_separator`: Texts with a separator between them have the pieces of both.
* `split_join`: Pieces put together are the pieces again.
* `mem_toList_join`: What pieces put together hold.
* `join_split`: A text is its pieces put together.
* `splitChars_map`: Exchanging characters that are no separators.
* `mem_of_mem_trimChars`: Trimming adds no characters.
* `trimChars_trimChars`: Trimming twice is trimming once.
* `trim_append`: Trimmed texts put together are trimmed.
* `mem_split`: The pieces of a text, character by character.
* `linesOfPieces_concat`: Which pieces of a text are lines.
* `takeWhile_append_cons`, `dropWhile_append_cons`: A text around the first of some character.
* `withoutEnd?_eq_some_iff`: What stands before a known ending.
-/

namespace Typings

namespace Text

theorem not_isSeparator_of_mem_splitChars (isSeparator : Char → Bool) (cs piece : List Char)
    (hpiece : piece ∈ splitChars isSeparator cs) : ∀ c ∈ piece, isSeparator c = false := by
  -- A separator opens an empty piece; any other character goes in front of the
  -- first piece of the rest.
  induction cs generalizing piece with
  | nil =>
      simp only [splitChars, List.mem_singleton] at hpiece
      rw [hpiece]
      exact fun c hc => absurd hc List.not_mem_nil
  | cons c rest ih =>
      by_cases hc : isSeparator c = true
      · simp only [splitChars, if_pos hc, List.mem_cons] at hpiece
        rcases hpiece with rfl | hrest
        · exact fun c hc => absurd hc List.not_mem_nil
        · exact ih piece hrest
      · have hc' : isSeparator c = false := Bool.eq_false_iff.mpr hc
        rcases hsplit : splitChars isSeparator rest with _ | ⟨first, more⟩
        · simp only [splitChars, if_neg hc, hsplit, List.mem_singleton] at hpiece
          rw [hpiece]
          exact fun d hd => List.mem_singleton.mp hd ▸ hc'
        · simp only [splitChars, if_neg hc, hsplit, List.mem_cons] at hpiece
          rw [hsplit] at ih
          rcases hpiece with rfl | hmore
          · intro d hd
            rcases List.mem_cons.mp hd with rfl | hd
            · exact hc'
            · exact ih first List.mem_cons_self d hd
          · exact ih piece (List.mem_cons_of_mem first hmore)

/-- A piece holds nothing but what the text holds. -/
theorem mem_of_mem_splitChars (isSeparator : Char → Bool) (cs piece : List Char)
    (hpiece : piece ∈ splitChars isSeparator cs) : ∀ c ∈ piece, c ∈ cs := by
  induction cs generalizing piece with
  | nil =>
      rw [splitChars, List.mem_singleton] at hpiece
      rw [hpiece]
      exact fun c hc => hc
  | cons d rest ih =>
      by_cases hd : isSeparator d = true
      · simp only [splitChars, if_pos hd, List.mem_cons] at hpiece
        intro c hc
        rcases hpiece with rfl | hrest
        · exact absurd hc List.not_mem_nil
        · exact List.mem_cons_of_mem d (ih piece hrest c hc)
      · -- The character goes in front of the first piece, if there is one.
        rcases hsplit : splitChars isSeparator rest with _ | ⟨first, more⟩
        · simp only [splitChars, if_neg hd, hsplit, List.mem_singleton] at hpiece
          rw [hpiece]
          exact fun c hc => List.mem_singleton.mp hc ▸ List.mem_cons_self
        · simp only [splitChars, if_neg hd, hsplit, List.mem_cons] at hpiece
          rw [hsplit] at ih
          intro c hc
          rcases hpiece with rfl | hmore
          · rcases List.mem_cons.mp hc with rfl | hc
            · exact List.mem_cons_self
            · exact List.mem_cons_of_mem d (ih first List.mem_cons_self c hc)
          · exact List.mem_cons_of_mem d (ih piece (List.mem_cons_of_mem first hmore) c hc)

theorem splitChars_ne_nil (isSeparator : Char → Bool) (cs : List Char) :
    splitChars isSeparator cs ≠ [] := by
  induction cs with
  | nil => exact List.cons_ne_nil _ _
  | cons c rest ih =>
      by_cases hc : isSeparator c = true
      · simp only [splitChars, if_pos hc, Ne, reduceCtorEq, not_false_eq_true]
      · rcases hsplit : splitChars isSeparator rest with _ | ⟨first, more⟩
        · exact absurd hsplit ih
        · simp only [splitChars, if_neg hc, hsplit, Ne, reduceCtorEq, not_false_eq_true]

/-- A text without separator is its only piece. -/
theorem splitChars_eq_singleton (isSeparator : Char → Bool) (cs : List Char)
    (hcs : ∀ c ∈ cs, isSeparator c = false) : splitChars isSeparator cs = [cs] := by
  induction cs with
  | nil => rfl
  | cons c rest ih =>
      have hc : isSeparator c = false := hcs c List.mem_cons_self
      have hrest := ih fun d hd => hcs d (List.mem_cons_of_mem c hd)
      simp only [splitChars, hc, Bool.false_eq_true, if_false, hrest]

/-- Behind a separator the next piece begins. -/
theorem splitChars_append_separator (isSeparator : Char → Bool) (cs rest : List Char) (s : Char)
    (hs : isSeparator s = true) :
    splitChars isSeparator (cs ++ s :: rest) =
      splitChars isSeparator cs ++ splitChars isSeparator rest := by
  induction cs with
  | nil => simp only [List.nil_append, splitChars, hs, if_true, List.cons_append]
  | cons c more ih =>
      rw [List.cons_append, splitChars, splitChars, ih]
      by_cases hc : isSeparator c = true
      · rw [if_pos hc, if_pos hc, List.cons_append]
      · rw [if_neg hc, if_neg hc]
        cases hmore : splitChars isSeparator more with
        | nil => exact absurd hmore (splitChars_ne_nil isSeparator more)
        | cons piece pieces => rfl

/-- Two texts with a separator between them have the pieces of both. -/
theorem split_append_separator (isSeparator : Char → Bool) (text rest : String) (s : Char)
    (hs : isSeparator s = true) :
    split isSeparator (text ++ String.singleton s ++ rest) =
      split isSeparator text ++ split isSeparator rest := by
  rw [split, String.toList_append, String.toList_append, String.toList_singleton,
    List.append_assoc, List.singleton_append, splitChars_append_separator _ _ _ _ hs,
    List.map_append]
  rfl

theorem split_eq_singleton (isSeparator : Char → Bool) (text : String)
    (htext : ∀ c ∈ text.toList, isSeparator c = false) : split isSeparator text = [text] := by
  rw [split, splitChars_eq_singleton _ _ htext, List.map_singleton, String.ofList_toList]

/-- Pieces without separators, put together with one between neighbours, are
    the pieces again. -/
theorem split_join (isSeparator : Char → Bool) (s : Char) (pieces : List String)
    (hpieces : ∀ p ∈ pieces, ∀ c ∈ p.toList, isSeparator c = false)
    (hs : isSeparator s = true) (hne : pieces ≠ []) :
    split isSeparator (join (String.singleton s) pieces) = pieces := by
  -- A last piece has no separator behind it, so it is a case of its own.
  induction pieces with
  | nil => exact absurd rfl hne
  | cons p rest ih =>
      have hp := hpieces p List.mem_cons_self
      rcases rest with _ | ⟨q, more⟩
      · exact split_eq_singleton isSeparator p hp
      · have hrest := ih (fun p hp => hpieces p (List.mem_cons_of_mem _ hp)) (List.cons_ne_nil _ _)
        have hjoin : join (String.singleton s) (p :: q :: more)
            = p ++ String.singleton s ++ join (String.singleton s) (q :: more) := rfl
        rw [hjoin, split_append_separator _ _ _ _ hs, hrest, split_eq_singleton _ _ hp]
        rfl

theorem toList_join_cons (separator piece : String) (rest : List String) :
    (join separator (piece :: rest)).toList =
      piece.toList ++ rest.flatMap fun p => separator.toList ++ p.toList := by
  induction rest generalizing piece with
  | nil => rw [join, List.flatMap_nil, List.append_nil]
  | cons next more ih =>
      have hjoin : join separator (piece :: next :: more) =
          piece ++ separator ++ join separator (next :: more) := rfl
      rw [hjoin, String.toList_append, String.toList_append, ih, List.flatMap_cons,
        List.append_assoc, List.append_assoc]

/-- Pieces put together hold nothing but what the pieces and the separator hold. -/
theorem mem_toList_join (separator : String) (pieces : List String) (c : Char)
    (hc : c ∈ (join separator pieces).toList) :
    c ∈ separator.toList ∨ ∃ p ∈ pieces, c ∈ p.toList := by
  cases pieces with
  | nil => exact absurd hc List.not_mem_nil
  | cons piece rest =>
      rw [toList_join_cons, List.mem_append, List.mem_flatMap] at hc
      rcases hc with hpiece | ⟨p, hp, hboth⟩
      · exact Or.inr ⟨piece, List.mem_cons_self, hpiece⟩
      · rcases List.mem_append.mp hboth with hseparator | hmem
        · exact Or.inl hseparator
        · exact Or.inr ⟨p, List.mem_cons_of_mem piece hp, hmem⟩

theorem append_flatMap_splitChars (isSeparator : Char → Bool) (s : Char) (cs : List Char)
    (hcs : ∀ c ∈ cs, isSeparator c = true → c = s) (first : List Char) (rest : List (List Char))
    (hsplit : splitChars isSeparator cs = first :: rest) :
    first ++ rest.flatMap (fun p => s :: p) = cs := by
  induction cs generalizing first rest with
  | nil =>
      rw [splitChars, List.cons.injEq] at hsplit
      rw [← hsplit.1, ← hsplit.2]
      rfl
  | cons c more ih =>
      have hmore := fun d hd => hcs d (List.mem_cons_of_mem c hd)
      rcases hpieces : splitChars isSeparator more with _ | ⟨piece, pieces⟩
      · exact absurd hpieces (splitChars_ne_nil isSeparator more)
      · have hjoined := ih hmore piece pieces hpieces
        by_cases hc : isSeparator c = true
        · -- The separator stands in front of the pieces behind it.
          simp only [splitChars, if_pos hc, hpieces, List.cons.injEq] at hsplit
          rw [← hsplit.1, ← hsplit.2, List.flatMap_cons, List.nil_append, List.cons_append,
            hjoined, hcs c List.mem_cons_self hc]
        · simp only [splitChars, if_neg hc, hpieces, List.cons.injEq] at hsplit
          rw [← hsplit.1, ← hsplit.2, List.cons_append, hjoined]

/-- A text that has one kind of separator is its pieces with that between them. -/
theorem join_split (isSeparator : Char → Bool) (s : Char) (text : String)
    (htext : ∀ c ∈ text.toList, isSeparator c = true → c = s) :
    join (String.singleton s) (split isSeparator text) = text := by
  rcases hpieces : splitChars isSeparator text.toList with _ | ⟨first, rest⟩
  · exact absurd hpieces (splitChars_ne_nil isSeparator text.toList)
  · apply String.toList_injective
    rw [split, hpieces, List.map_cons, toList_join_cons, String.toList_ofList, List.flatMap_map]
    simp only [String.toList_singleton, String.toList_ofList, List.singleton_append]
    exact append_flatMap_splitChars isSeparator s text.toList htext first rest hpieces

/-- Characters can be exchanged before cutting, if separators stay separators. -/
theorem splitChars_map (isSeparator : Char → Bool) (f : Char → Char)
    (hf : ∀ c, isSeparator (f c) = isSeparator c) (cs : List Char) :
    splitChars isSeparator (cs.map f) = (splitChars isSeparator cs).map (List.map f) := by
  induction cs with
  | nil => rfl
  | cons c rest ih =>
      by_cases hc : isSeparator c = true
      · simp only [List.map_cons, splitChars, hf, if_pos hc, ih, List.map_nil]
      · rcases hsplit : splitChars isSeparator rest with _ | ⟨first, more⟩
        · exact absurd hsplit (splitChars_ne_nil isSeparator rest)
        · simp only [List.map_cons, splitChars, hf, if_neg hc, ih, hsplit]

theorem trimChars_eq (cs : List Char) :
    trimChars cs = (cs.dropWhile isBlank).rdropWhile isBlank := rfl

/-- Trimming adds no characters. -/
theorem mem_of_mem_trimChars (cs : List Char) (c : Char) (hc : c ∈ trimChars cs) : c ∈ cs := by
  rw [trimChars_eq] at hc
  exact (List.dropWhile_suffix isBlank).subset ((List.rdropWhile_prefix isBlank _).subset hc)

/-- Trimming twice is trimming once: the front of a trimmed text is the front
    of the text whose end was trimmed, which no blank begins. -/
theorem trimChars_trimChars (cs : List Char) : trimChars (trimChars cs) = trimChars cs := by
  have hpre : trimChars cs <+: cs.dropWhile isBlank := List.rdropWhile_prefix isBlank _
  have hfront : (trimChars cs).dropWhile isBlank = trimChars cs := by
    rw [List.dropWhile_eq_self_iff]
    intro hlen
    -- A prefix that is not empty begins as the whole does.
    have hlen' : 0 < (cs.dropWhile isBlank).length :=
      Nat.lt_of_lt_of_le hlen hpre.length_le
    rw [hpre.getElem hlen]
    exact List.dropWhile_eq_self_iff.mp (List.dropWhile_idempotent isBlank cs) hlen'
  rw [trimChars_eq (trimChars cs), hfront, trimChars_eq, List.rdropWhile_idempotent]

/-- A text has nothing to be trimmed if neither of its ends has. -/
theorem trimChars_eq_self_iff (cs : List Char) :
    trimChars cs = cs ↔ cs.dropWhile isBlank = cs ∧ cs.rdropWhile isBlank = cs := by
  rw [trimChars_eq]
  constructor
  · intro h
    -- What is left is no longer than the text without the blanks at its front.
    have hlength : cs.length ≤ (cs.dropWhile isBlank).length := by
      have hle := (List.rdropWhile_prefix isBlank (cs.dropWhile isBlank)).length_le
      rwa [h] at hle
    have hfront : cs.dropWhile isBlank = cs :=
      (List.dropWhile_suffix isBlank).eq_of_length_le hlength
    rw [hfront] at h
    exact ⟨hfront, h⟩
  · rintro ⟨hfront, hback⟩
    rw [hfront, hback]

/-- Trimmed texts put together are trimmed: the ends of the whole are ends of the parts. -/
theorem trim_append (a b : String) (ha : trim a = a) (hb : trim b = b) (hane : a ≠ "")
    (hbne : b ≠ "") : trim (a ++ b) = a ++ b := by
  have hchars : ∀ text, trim text = text → trimChars text.toList = text.toList := by
    intro text htext
    have hlist := congrArg String.toList htext
    rwa [trim, String.toList_ofList] at hlist
  have hfront := ((trimChars_eq_self_iff _).mp (hchars a ha)).1
  have hback := ((trimChars_eq_self_iff _).mp (hchars b hb)).2
  have hwhole : trimChars (a.toList ++ b.toList) = a.toList ++ b.toList := by
    refine (trimChars_eq_self_iff _).mpr ⟨?_, ?_⟩
    · cases hlist : a.toList with
      | nil => exact absurd (String.toList_eq_nil_iff.mp hlist) hane
      | cons c rest =>
          rw [hlist, List.dropWhile_eq_self_iff] at hfront
          exact List.dropWhile_eq_self_iff.mpr fun _ => hfront (Nat.succ_pos _)
    · have hne : b.toList ≠ [] := fun hnil => hbne (String.toList_eq_nil_iff.mp hnil)
      rw [List.rdropWhile_eq_self_iff] at hback ⊢
      intro hboth
      rw [List.getLast_append_of_ne_nil hboth hne]
      exact hback hne
  rw [trim, String.toList_append, hwhole, ← String.toList_append, String.ofList_toList]

theorem mem_split (isSeparator : Char → Bool) (text piece : String) :
    piece ∈ split isSeparator text ↔ piece.toList ∈ splitChars isSeparator text.toList := by
  simp only [split, List.mem_map]
  constructor
  · rintro ⟨cs, hcs, rfl⟩
    rwa [String.toList_ofList]
  · intro hpiece
    exact ⟨piece.toList, hpiece, String.ofList_toList⟩

/-- All pieces but the last are lines, and the last is one if it holds something. -/
theorem linesOfPieces_concat (pieces : List (List Char)) (last : List Char) :
    linesOfPieces (pieces ++ [last]) =
      pieces.map dropReturn ++ if last.isEmpty then [] else [last] := by
  induction pieces with
  | nil => rfl
  | cons piece rest ih =>
      have hcons : linesOfPieces (piece :: rest ++ [last]) =
          dropReturn piece :: linesOfPieces (rest ++ [last]) := by
        cases rest <;> rfl
      rw [hcons, ih, List.map_cons, List.cons_append]

/-- What stands in front of the first of some character. -/
theorem takeWhile_append_cons (x : Char) (first rest : List Char) (hx : x ∉ first) :
    (first ++ x :: rest).takeWhile (· ≠ x) = first := by
  rw [List.takeWhile_append_of_pos, List.takeWhile_cons_of_neg, List.append_nil]
  · simp only [ne_eq, not_true_eq_false, decide_false, Bool.false_eq_true, not_false_eq_true]
  · intro y hy
    exact decide_eq_true fun heq => hx (heq ▸ hy)

/-- The rest of a text from the first of some character on. -/
theorem dropWhile_append_cons (x : Char) (first rest : List Char) (hx : x ∉ first) :
    (first ++ x :: rest).dropWhile (· ≠ x) = x :: rest := by
  rw [List.dropWhile_append_of_pos, List.dropWhile_cons_of_neg]
  · simp only [ne_eq, not_true_eq_false, decide_false, Bool.false_eq_true, not_false_eq_true]
  · intro y hy
    exact decide_eq_true fun heq => hx (heq ▸ hy)

/-- What stands before a known ending makes up the text together with the ending. -/
theorem withoutEnd?_eq_some_iff (ending text front : String) :
    withoutEnd? ending text = some front ↔ text = front ++ ending := by
  unfold withoutEnd?
  constructor
  · intro h
    by_cases hsuffix : ending.toList.isSuffixOf text.toList = true
    · rw [if_pos hsuffix, Option.some_inj] at h
      rcases List.isSuffixOf_iff_suffix.mp hsuffix with ⟨before, hbefore⟩
      apply String.toList_injective
      rw [← h, String.toList_append, String.toList_ofList, ← hbefore, List.length_append,
        Nat.add_sub_cancel, List.take_left]
    · rw [if_neg hsuffix] at h
      contradiction
  · rintro rfl
    have hsuffix : ending.toList.isSuffixOf (front ++ ending).toList = true := by
      rw [String.toList_append]
      exact List.isSuffixOf_iff_suffix.mpr (List.suffix_append ..)
    rw [if_pos hsuffix, String.toList_append, List.length_append, Nat.add_sub_cancel,
      List.take_left, String.ofList_toList]

end Text

end Typings
