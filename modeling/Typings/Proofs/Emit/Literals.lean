import Typings.Declaration.Basic
import Typings.Proofs.Text.Pieces

/-!
# Literals of Texts

The value of an enum's member is written as a literal between double quotes. A reader
finds the end of the literal without knowing the value: the quote that closes it is the
first one that is not escaped. Nothing of the value is lost on the way, since every
character can be read back from the front of what it was written as, whatever follows
it. So no two values are written alike.

None of this depends on which characters are taken to be visible by themselves. Quote,
backslash and the common control characters are escaped before that is asked, and a
character that is not visible is written by its number.

## Main definitions

* `Text.cutAtQuote`: A text around its first quote that is not escaped.
* `Text.namedEscape?`: The letter for a character that has a short escape.
* `Text.quotedShowing`: A text as a literal in which certain characters show.
* `Text.readChar?`: The character that an escaped text begins with.
* `EnumMember.renderShowing`: A member whose value shows certain characters.

## Theorems

* `Text.hexValue_hexDigits`: A number is read back from its digits.
* `Text.readChar?_quotedCharShowing`: A character is read back from its escape.
* `Text.flatMap_quotedCharShowing_inj`: Texts that are escaped alike are the same.
* `Text.cutAtQuote_flatMap`: A literal ends at its first quote that is not escaped.
* `Text.quoted_eq_quotedShowing`: The literal of a text shows what is visible.
* `EnumMember.renderShowing_literal`: Members of one name have different texts if they
  have different values, and each is a literal on one line.
-/

namespace Typings

namespace Text

/-- A text around its first quote that is not escaped. A backslash escapes the character
    behind it. -/
def cutAtQuote : List Char → Option (List Char × List Char)
  | [] => none
  | '"' :: rest => some ([], rest)
  | '\\' :: c :: rest => (cutAtQuote rest).map fun cut => ('\\' :: c :: cut.1, cut.2)
  | c :: rest => (cutAtQuote rest).map fun cut => (c :: cut.1, cut.2)

/-- The characters that have a short escape, each with the letter of its escape. -/
def shortEscapes : List (Char × Char) :=
  [('"', '"'), ('\\', '\\'), ('\n', 'n'), ('\r', 'r'), ('\t', 't'), ('\x00', '0')]

/-- The letter for a character that has a short escape. -/
def namedEscape? (c : Char) : Option Char :=
  shortEscapes.lookup c

/-- The character that a short escape stands for. -/
def ofNamedEscape? (letter : Char) : Option Char :=
  (shortEscapes.find? (·.2 = letter)).map Prod.fst

/-- How one character is written inside the quotes, where certain characters show. -/
def quotedCharShowing (isShown : Char → Bool) (c : Char) : List Char :=
  match namedEscape? c with
  | some letter => ['\\', letter]
  | none => if isShown c then [c] else numberedChar c

/-- A text as a literal between double quotes, in which certain characters show. -/
def quotedShowing (isShown : Char → Bool) (text : String) : String :=
  String.ofList ('"' :: text.toList.flatMap (quotedCharShowing isShown) ++ ['"'])

/-- A character that is visible by itself and does not join the one before it. -/
def isVisible (c : Char) : Bool :=
  !extendsGrapheme c && isPrintable c

/-- The character that an escaped text begins with, and the rest of the text. -/
def readChar? : List Char → Option (Char × List Char)
  | '\\' :: 'u' :: '\x7b' :: rest =>
    some (Char.ofNat (hexValue (rest.takeWhile (· ≠ '\x7d'))),
      (rest.dropWhile (· ≠ '\x7d')).drop 1)
  | '\\' :: letter :: rest => (ofNamedEscape? letter).map fun c => (c, rest)
  | c :: rest => some (c, rest)
  | [] => none

/-- The digits that numbers are written with. -/
def lowerHexDigits : List Char :=
  ['0', '1', '2', '3', '4', '5', '6', '7', '8', '9', 'a', 'b', 'c', 'd', 'e', 'f']

/-- The characters that escapes are written with. None of them ends a line. -/
def escapeAlphabet : List Char :=
  ['\\', '"', 'n', 'r', 't', 'u', '\x7b', '\x7d'] ++ lowerHexDigits

section Digits

theorem digitChar_mem_lowerHexDigits (n : Nat) (hn : n < 16) :
    Nat.digitChar n ∈ lowerHexDigits := by
  decide +revert

theorem hexDigit?_digitChar (n : Nat) (hn : n < 16) : hexDigit? (Nat.digitChar n) = some n := by
  decide +revert

/-- A number has its last digit behind the digits of the rest. -/
theorem hexDigits_eq (n : Nat) :
    hexDigits n =
      if n < 16 then [Nat.digitChar n]
      else hexDigits (n / 16) ++ [Nat.digitChar (n % 16)] :=
  Nat.toDigits_eq_if (by decide)

theorem mem_lowerHexDigits_of_mem_hexDigits (n : Nat) :
    ∀ c ∈ hexDigits n, c ∈ lowerHexDigits := by
  induction n using Nat.strong_induction_on with
  | _ n ih =>
      intro c hc
      rw [hexDigits_eq] at hc
      split at hc
      · next hn => exact List.mem_singleton.mp hc ▸ digitChar_mem_lowerHexDigits n hn
      · rcases List.mem_append.mp hc with hfront | hlast
        · exact ih (n / 16) (by omega) c hfront
        · exact List.mem_singleton.mp hlast ▸
            digitChar_mem_lowerHexDigits (n % 16) (Nat.mod_lt n (by decide))

/-- A number is read back from its digits. -/
theorem hexValue_hexDigits (n : Nat) : hexValue (hexDigits n) = n := by
  induction n using Nat.strong_induction_on with
  | _ n ih =>
      rw [hexDigits_eq]
      split
      · next hn => rw [hexValue, List.foldl_cons, List.foldl_nil, hexDigit?_digitChar n hn,
          Option.getD_some, Nat.zero_mul, Nat.zero_add]
      · have hfront := ih (n / 16) (by omega)
        rw [hexValue] at hfront
        rw [hexValue, List.foldl_concat, hfront,
          hexDigit?_digitChar (n % 16) (Nat.mod_lt n (by decide)), Option.getD_some]
        omega

/-- Behind the letter of its escape a number has digits between braces. -/
theorem numberedChar_eq (c : Char) :
    numberedChar c = '\\' :: 'u' :: '\x7b' :: (hexDigits c.toNat ++ ['\x7d']) := by
  simp only [numberedChar, List.cons_append, List.nil_append]

theorem mem_of_mem_braces (c x : Char) (hx : x ∈ '\x7b' :: (hexDigits c.toNat ++ ['\x7d'])) :
    x ∈ '\x7b' :: '\x7d' :: lowerHexDigits := by
  rw [List.mem_cons, List.mem_append, List.mem_singleton] at hx
  rw [List.mem_cons, List.mem_cons]
  exact hx.imp_right fun h => h.symm.imp_right (mem_lowerHexDigits_of_mem_hexDigits c.toNat x)

theorem mem_escapeAlphabet_of_mem_numberedChar (c x : Char) (hx : x ∈ numberedChar c) :
    x ∈ escapeAlphabet := by
  have hsubset : '\\' :: 'u' :: '\x7b' :: '\x7d' :: lowerHexDigits ⊆ escapeAlphabet := by
    decide
  rw [numberedChar_eq, List.mem_cons, List.mem_cons] at hx
  refine hsubset ?_
  rw [List.mem_cons, List.mem_cons]
  exact hx.imp_right fun h => h.imp_right (mem_of_mem_braces c x)

end Digits

section Reading

/-- A character that has no short escape is neither a quote nor a backslash. -/
theorem ne_of_namedEscape?_eq_none (c : Char) (hc : namedEscape? c = none) :
    c ≠ '"' ∧ c ≠ '\\' := by
  constructor <;>
  · rintro rfl
    exact absurd hc (by decide)

/-- A short escape is read back, and is not taken for a number. -/
theorem ofNamedEscape?_of_namedEscape? (c letter : Char) (hc : namedEscape? c = some letter) :
    ofNamedEscape? letter = some c ∧ letter ≠ 'u' ∧ letter ∈ escapeAlphabet := by
  have hmem : (c, letter) ∈ shortEscapes := by
    rcases List.lookup_eq_some_iff.mp hc with ⟨before, after, htable, -⟩
    exact htable ▸ List.mem_append_right before List.mem_cons_self
  have htable : ∀ e ∈ shortEscapes,
      ofNamedEscape? e.2 = some e.1 ∧ e.2 ≠ 'u' ∧ e.2 ∈ escapeAlphabet := by decide
  exact htable _ hmem

/-- A character is read back from what it was written as, whatever follows. -/
theorem readChar?_quotedCharShowing (isShown : Char → Bool) (c : Char) (rest : List Char) :
    readChar? (quotedCharShowing isShown c ++ rest) = some (c, rest) := by
  rw [quotedCharShowing]
  cases hnamed : namedEscape? c with
  | some letter =>
      rcases ofNamedEscape?_of_namedEscape? c letter hnamed with ⟨hread, hu, -⟩
      rw [List.cons_append, List.singleton_append, readChar?, hread, Option.map_some]
      exact fun _ heq _ => hu heq
  | none =>
      rcases ne_of_namedEscape?_eq_none c hnamed with ⟨-, hslash⟩
      dsimp only
      split
      · rw [List.singleton_append, readChar?]
        · exact fun _ heq _ => hslash heq
        · exact fun _ _ heq _ => hslash heq
      · -- The digits end at the brace.
        have hbrace : '\x7d' ∉ hexDigits c.toNat := fun hmem =>
          absurd (mem_lowerHexDigits_of_mem_hexDigits _ _ hmem) (by decide)
        have htext : numberedChar c ++ rest =
            '\\' :: 'u' :: '\x7b' :: (hexDigits c.toNat ++ '\x7d' :: rest) := by
          rw [numberedChar_eq]
          simp only [List.cons_append, List.nil_append, List.append_assoc]
        rw [htext, readChar?, takeWhile_append_cons _ _ _ hbrace,
          dropWhile_append_cons _ _ _ hbrace, hexValue_hexDigits, Char.ofNat_toNat]
        rfl

/-- Texts that are escaped alike are the same: whatever is read back from the front of one
    is read back from the front of the other. -/
theorem flatMap_quotedCharShowing_inj (isShown : Char → Bool) (first second : List Char)
    (h : first.flatMap (quotedCharShowing isShown) = second.flatMap (quotedCharShowing isShown)) :
    first = second := by
  have hread : ∀ c rest, readChar? ((c :: rest).flatMap (quotedCharShowing isShown)) =
      some (c, rest.flatMap (quotedCharShowing isShown)) := fun c rest => by
    rw [List.flatMap_cons, readChar?_quotedCharShowing]
  induction first generalizing second with
  | nil =>
      rcases second with _ | ⟨d, second⟩
      · rfl
      · have hnone := hread d second
        rw [← h] at hnone
        contradiction
  | cons c first ih =>
      have hfirst := hread c first
      rcases second with _ | ⟨d, second⟩
      · rw [h] at hfirst
        contradiction
      · rw [h, hread d second, Option.some_inj, Prod.mk.injEq] at hfirst
        rw [hfirst.1, ih second hfirst.2.symm]

end Reading

section Ends

/-- Characters that are neither quotes nor backslashes are passed over. -/
theorem cutAtQuote_append_plain (plain rest : List Char)
    (hplain : ∀ x ∈ plain, x ≠ '"' ∧ x ≠ '\\') :
    cutAtQuote (plain ++ rest) = (cutAtQuote rest).map fun cut => (plain ++ cut.1, cut.2) := by
  induction plain with
  | nil => exact Option.map_id'.symm
  | cons x plain ih =>
      rcases hplain x List.mem_cons_self with ⟨hquote, hslash⟩
      rw [List.cons_append, cutAtQuote, ih fun y hy => hplain y (List.mem_cons_of_mem x hy),
        Option.map_map]
      · rfl
      · exact hquote
      · exact fun _ _ heq _ => hslash heq

/-- The escape of a character is passed over. -/
theorem cutAtQuote_quotedCharShowing (isShown : Char → Bool) (c : Char) (rest : List Char) :
    cutAtQuote (quotedCharShowing isShown c ++ rest) =
      (cutAtQuote rest).map fun cut => (quotedCharShowing isShown c ++ cut.1, cut.2) := by
  rw [quotedCharShowing]
  cases hnamed : namedEscape? c with
  | some letter => rfl
  | none =>
      dsimp only
      split
      · exact cutAtQuote_append_plain [c] rest fun x hx =>
          List.mem_singleton.mp hx ▸ ne_of_namedEscape?_eq_none c hnamed
      · -- The backslash escapes the letter, and behind it there are digits between braces.
        have hplain : ∀ x ∈ '\x7b' :: (hexDigits c.toNat ++ ['\x7d']),
            x ≠ '"' ∧ x ≠ '\\' := by
          have hquote : '"' ∉ '\x7b' :: '\x7d' :: lowerHexDigits := by decide
          have hslash : '\\' ∉ '\x7b' :: '\x7d' :: lowerHexDigits := by decide
          intro x hx
          have hmem := mem_of_mem_braces c x hx
          exact ⟨fun h => hquote (h ▸ hmem), fun h => hslash (h ▸ hmem)⟩
        rw [numberedChar_eq, List.cons_append, List.cons_append, cutAtQuote,
          cutAtQuote_append_plain _ rest hplain, Option.map_map]
        rfl

/-- A literal ends at its first quote that is not escaped, whatever follows it. -/
theorem cutAtQuote_flatMap (isShown : Char → Bool) (text rest : List Char) :
    cutAtQuote (text.flatMap (quotedCharShowing isShown) ++ '"' :: rest) =
      some (text.flatMap (quotedCharShowing isShown), rest) := by
  induction text with
  | nil => rfl
  | cons c text ih =>
      rw [List.flatMap_cons, List.append_assoc, cutAtQuote_quotedCharShowing, ih, Option.map_some]

end Ends

section Alphabet

/-- A character that is written as it stands shows, and has no short escape. -/
theorem mem_quotedCharShowing (isShown : Char → Bool) (c x : Char)
    (hx : x ∈ quotedCharShowing isShown c) :
    x ∈ escapeAlphabet ∨ (isShown x = true ∧ namedEscape? x = none) := by
  rw [quotedCharShowing] at hx
  cases hnamed : namedEscape? c with
  | some letter =>
      rcases ofNamedEscape?_of_namedEscape? c letter hnamed with ⟨-, -, hletter⟩
      rw [hnamed, List.mem_cons, List.mem_singleton] at hx
      rcases hx with rfl | rfl
      · exact Or.inl List.mem_cons_self
      · exact Or.inl hletter
  | none =>
      simp only [hnamed] at hx
      split at hx
      · next hshown =>
          rw [List.mem_singleton.mp hx]
          exact Or.inr ⟨hshown, hnamed⟩
      · exact Or.inl (mem_escapeAlphabet_of_mem_numberedChar c x hx)

/-- A literal is written on one line. -/
theorem not_mem_flatMap_of_mem (isShown : Char → Bool) (text : List Char) :
    ∀ x ∈ ['\n', '\r'], x ∉ text.flatMap (quotedCharShowing isShown) := by
  intro x hx hmem
  have hbreak : x ∉ escapeAlphabet ∧ (namedEscape? x).isSome := by
    rcases List.mem_pair.mp hx with rfl | rfl <;> decide
  rcases hbreak with ⟨halphabet, hnamed⟩
  rcases List.mem_flatMap.mp hmem with ⟨c, -, hc⟩
  rcases mem_quotedCharShowing isShown c x hc with h | ⟨-, hnone⟩
  · exact halphabet h
  · rw [hnone] at hnamed
    contradiction

end Alphabet

section Visible

theorem quotedChar_eq (c : Char) : quotedChar c = quotedCharShowing isVisible c := by
  by_cases hshort : ∃ e ∈ shortEscapes, c = e.1
  · have hall : ∀ e ∈ shortEscapes, quotedChar e.1 = quotedCharShowing isVisible e.1 := by decide
    rcases hshort with ⟨e, he, rfl⟩
    exact hall e he
  · have hne : ∀ e ∈ shortEscapes, c ≠ e.1 := fun e he heq => hshort ⟨e, he, heq⟩
    have hnone : namedEscape? c = none :=
      List.lookup_eq_none_iff.mpr fun e he => bne_iff_ne.mpr (hne e he)
    simp only [shortEscapes, List.forall_mem_cons] at hne
    rcases hne with ⟨hquote, hslash, hfeed, hreturn, htab, hzero, -⟩
    rw [quotedChar, if_neg hquote, if_neg hslash, if_neg hfeed, if_neg hreturn, if_neg htab,
      if_neg hzero, quotedCharShowing, hnone, isVisible]
    cases extendsGrapheme c <;> cases isPrintable c <;> rfl

/-- The literal of a text shows what is visible. -/
theorem quoted_eq_quotedShowing (text : String) : quoted text = quotedShowing isVisible text := by
  rw [quoted, quotedShowing, funext quotedChar_eq]

end Visible

end Text

namespace EnumMember

/-- A member in whose value certain characters show. -/
def renderShowing (isShown : Char → Bool) (m : EnumMember) : String :=
  m.name ++ " = " ++ match m.value with
    | .string text => Text.quotedShowing isShown text
    | .number text => text

theorem render_eq_renderShowing : render = renderShowing Text.isVisible := by
  funext m
  rw [render, renderShowing]
  cases m.value with
  | string text => exact congrArg (m.name ++ " = " ++ ·) (Text.quoted_eq_quotedShowing text)
  | number text => rfl

theorem toList_renderShowing (isShown : Char → Bool) (name text description : String) :
    (renderShowing isShown ⟨name, .string text, description⟩).toList =
      name.toList ++ " = ".toList ++
        '"' :: text.toList.flatMap (Text.quotedCharShowing isShown) ++ ['"'] := by
  have hrender : renderShowing isShown ⟨name, .string text, description⟩ =
      name ++ " = " ++ Text.quotedShowing isShown text := rfl
  have hquoted : (Text.quotedShowing isShown text).toList =
      '"' :: text.toList.flatMap (Text.quotedCharShowing isShown) ++ ['"'] := String.toList_ofList
  rw [hrender, String.toList_append, String.toList_append, hquoted]
  exact (List.append_assoc _ ('"' :: _) _).symm

/-- A member is rendered so that its value shows what is visible, and whatever shows, a text
    is written as a literal between quotes. The quote that closes it is the first one that
    is not escaped, whatever follows; between the quotes no line ends, and what does not
    show is escaped. Members of one name are written alike only if they have the same
    text. -/
theorem renderShowing_literal :
    render = renderShowing Text.isVisible ∧ ∀ isShown : Char → Bool,
      (∀ name text description : String, ∃ literal : List Char,
        (renderShowing isShown ⟨name, .string text, description⟩).toList =
            name.toList ++ " = ".toList ++ '"' :: literal ++ ['"'] ∧
          (∀ rest, Text.cutAtQuote (literal ++ '"' :: rest) = some (literal, rest)) ∧
          (∀ c ∈ ['\n', '\r'], c ∉ literal) ∧
          ∀ c ∈ literal, c ∈ Text.escapeAlphabet ∨ isShown c = true) ∧
      ∀ name text text' description description' : String,
        renderShowing isShown ⟨name, .string text, description⟩ =
          renderShowing isShown ⟨name, .string text', description'⟩ ↔ text = text' := by
  refine ⟨render_eq_renderShowing, fun isShown => ⟨fun name text description => ?_, ?_⟩⟩
  · refine ⟨_, toList_renderShowing isShown name text description,
      Text.cutAtQuote_flatMap isShown _, Text.not_mem_flatMap_of_mem isShown _, fun c hc => ?_⟩
    rcases List.mem_flatMap.mp hc with ⟨d, -, hd⟩
    exact (Text.mem_quotedCharShowing isShown d c hd).imp_right And.left
  · intro name text text' description description'
    constructor
    · intro heq
      have hchars := congrArg String.toList heq
      -- The names are the same, and so are the quotes.
      rw [toList_renderShowing, toList_renderShowing] at hchars
      simp only [List.append_cancel_right_eq, List.append_cancel_left_eq, List.cons.injEq,
        true_and] at hchars
      exact String.toList_injective (Text.flatMap_quotedCharShowing_inj isShown _ _ hchars)
    · rintro rfl
      rfl

end EnumMember

end Typings
