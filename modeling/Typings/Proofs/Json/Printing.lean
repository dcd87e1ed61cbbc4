import Mathlib.Tactic.IntervalCases
import Typings.Json.Printer
import Typings.Proofs.Json.Scanning

/-!
# Printed Values Are Read Back

The compact text of a value leads to the sound document of that value, and to nothing else
(`Document.ofText_compact`). Of numbers this is said of integers only: the text of a floating
point number is read by floating point arithmetic and may miss the last bit.

A text is scanned from the front, and a value does not know what follows it. So every lemma
has a rest behind the text. Words, strings and containers end with a character of their own,
whatever the rest is. A number does not, and goes on for as long as digits, a point or the mark
of an exponent follow; what follows a number in a printed value is a comma, a bracket, a brace
or the end (`IsDelimited`).

The steps that a scan may take are twice the length of its text. Every lemma on containers
keeps that measure, which leaves one step to spare for each bracket and comma.

## Main definitions

* `IsDelimited`: A rest at which every number ends.
* `Value.IsScanned`: A text that is scanned as the value it was printed from.

## Theorems

* `scanStringFrom_flatMap`: The characters between quotes.
* `scanNumber_toDigits`: The digits of a number.
* `Value.scanItems_compact`, `Value.scanMembers_compact`: What containers hold.
* `Value.scanNode_compact`: A value, whatever is behind it.
* `Document.ofText_compact`: A whole text.
-/

namespace Typings

namespace Json

/-- A printed character is scanned as that character, whatever follows, and is not the quote
    that ends a string. -/
theorem scanStringChar_stringChar (c : Char) :
    ∃ d ds, stringChar c = d :: ds ∧ d ≠ '"' ∧
      ∀ rest, scanStringChar d (ds ++ rest) = ⟨.ok c, .ok rest⟩ := by
  unfold stringChar
  -- The characters that have an escape of their own come first, then all other control
  -- characters, which are few enough to be gone through, and last those that need none.
  split_ifs with hquote hslash hb hf hn hr ht hcontrol
  · exact ⟨_, _, rfl, by decide, fun rest => by rw [hquote]; rfl⟩
  · exact ⟨_, _, rfl, by decide, fun rest => by rw [hslash]; rfl⟩
  · exact ⟨_, _, rfl, by decide, fun rest => by rw [hb]; rfl⟩
  · exact ⟨_, _, rfl, by decide, fun rest => by rw [hf]; rfl⟩
  · exact ⟨_, _, rfl, by decide, fun rest => by rw [hn]; rfl⟩
  · exact ⟨_, _, rfl, by decide, fun rest => by rw [hr]; rfl⟩
  · exact ⟨_, _, rfl, by decide, fun rest => by rw [ht]; rfl⟩
  · refine ⟨_, _, rfl, by decide, fun rest => ?_⟩
    have hc : Char.ofNat c.toNat = c := Char.ofNat_toNat c
    generalize c.toNat = n at hcontrol hc
    subst hc
    interval_cases n <;> rfl
  · refine ⟨c, [], rfl, hquote, fun rest => ?_⟩
    unfold scanStringChar
    rw [if_neg hslash, if_neg hcontrol, List.nil_append]

/-- The characters between quotes are scanned as the text, behind what was read before. -/
theorem scanStringFrom_flatMap (cs : List Char) (fuel : Nat) (done rest : List Char)
    (hfuel : cs.length < fuel) :
    scanStringFrom fuel (.ok done) (cs.flatMap stringChar ++ '"' :: rest) =
      ⟨.ok (String.ofList (done.reverse ++ cs)), .ok rest⟩ := by
  -- What was read so far is kept in reverse, so the claim is about any of it.
  induction cs generalizing fuel done with
  | nil =>
      rcases fuel with _ | fuel
      · exact absurd hfuel (Nat.not_lt_zero _)
      · rw [List.append_nil]
        rfl
  | cons c cs ih =>
      rcases fuel with _ | fuel
      · exact absurd hfuel (Nat.not_lt_zero _)
      · rcases scanStringChar_stringChar c with ⟨d, ds, hchar, hd, hscan⟩
        rw [List.flatMap_cons, hchar, List.append_assoc, List.cons_append, scanStringFrom,
          if_neg hd]
        simp only [hscan]
        rw [addChar, ih fuel (c :: done) (Nat.lt_of_succ_lt_succ hfuel), List.reverse_cons,
          List.append_assoc, List.singleton_append]

theorem isDigit_of_mem_toDigits (n : Nat) (c : Char) (hc : c ∈ Nat.toDigits 10 n) :
    isDigit c = true := by
  have hdigit := Nat.isDigit_of_mem_toDigits (by decide) (by decide) hc
  simp only [Char.isDigit, Bool.and_eq_true, decide_eq_true_eq] at hdigit
  simp only [isDigit, Bool.and_eq_true, decide_eq_true_eq]
  exact hdigit

theorem toList_natText (n : Nat) : (Decimal.natText n).toList = Nat.toDigits 10 n :=
  String.toList_ofList

/-- A number begins with a digit. -/
theorem toDigits_eq_cons (n : Nat) :
    ∃ d ds, Nat.toDigits 10 n = d :: ds ∧ isDigit d = true := by
  have hdigits := isDigit_of_mem_toDigits n
  rcases hcons : Nat.toDigits 10 n with _ | ⟨d, ds⟩
  · exact absurd hcons Nat.toDigits_ne_nil
  · rw [hcons] at hdigits
    exact ⟨d, ds, rfl, hdigits d List.mem_cons_self⟩

/-- No number but zero is written with a zero in front. -/
theorem toDigits_of_pos (n : Nat) (hn : 0 < n) :
    ∃ d ds, Nat.toDigits 10 n = d :: ds ∧ d ≠ '0' := by
  induction n using Nat.strongRecOn with
  | ind n ih =>
      rw [Nat.toDigits_eq_if (by decide)]
      split
      · next hlt =>
        refine ⟨_, _, rfl, ?_⟩
        interval_cases n <;> decide
      · -- The first digit is that of the number without its last one.
        rcases ih (n / 10) (by omega) (by omega) with ⟨d, ds, hdigits, hd⟩
        exact ⟨d, _, by rw [hdigits, List.cons_append], hd⟩

/-- Digits that fit are all gathered. -/
theorem gather_of_lt (sum : Nat) (digits : List Char)
    (h : digits.foldl (fun n c => n * 10 + digitValue c) sum < Nat.pow 2 64) :
    gather sum digits = (digits.foldl (fun n c => n * 10 + digitValue c) sum, []) := by
  -- A sum never shrinks, so if the last one fits, all before it do.
  have hgrows : ∀ (ds : List Char) (m : Nat),
      m ≤ ds.foldl (fun n c => n * 10 + digitValue c) m := by
    intro ds
    induction ds with
    | nil => exact fun m => le_refl m
    | cons d ds ih => exact fun m => le_trans (by omega) (ih (m * 10 + digitValue d))
  induction digits generalizing sum with
  | nil => rfl
  | cons c rest ih =>
      rw [gather, if_pos (lt_of_le_of_lt (hgrows rest _) h), ih _ h, List.foldl_cons]

theorem foldl_toDigits (n : Nat) :
    (Nat.toDigits 10 n).foldl (fun n c => n * 10 + digitValue c) 0 = n := by
  have h := Nat.ofDigitChars_ten_toDigits (n := n)
  simp only [Nat.ofDigitChars_eq_foldl, Nat.mul_comm 10] at h
  exact h

/-- A rest at which every number ends. -/
def IsDelimited (rest : List Char) : Prop :=
  ∀ c cs, rest = c :: cs → c ∈ [',', ']', '\x7d']

theorem isDelimited_cons (c : Char) (rest : List Char) (hc : c ∈ [',', ']', '\x7d']) :
    IsDelimited (c :: rest) := by
  rintro d ds heq
  exact (List.cons.inj heq).1 ▸ hc

/-- The digits of a number are scanned to their end. -/
theorem scanParts_toDigits (isNegative : Bool) (n : Nat) (rest : List Char)
    (hrest : IsDelimited rest) :
    scanParts isNegative (Nat.toDigits 10 n ++ rest) =
      .ok (⟨isNegative, Nat.toDigits 10 n, none, none⟩, rest) := by
  have hdigits : ∀ c ∈ Nat.toDigits 10 n, isDigit c = true := isDigit_of_mem_toDigits n
  -- What delimits a number is neither a digit nor the beginning of a fraction or an exponent.
  have hstop : rest.takeWhile isDigit = [] ∧ rest.dropWhile isDigit = rest ∧
      ∀ parts, scanFraction parts rest = .ok (parts, rest) := by
    rcases rest with _ | ⟨c, cs⟩
    · exact ⟨rfl, rfl, fun parts => rfl⟩
    · have hc := hrest c cs rfl
      simp only [List.mem_cons, List.not_mem_nil, or_false] at hc
      rcases hc with rfl | rfl | rfl <;> exact ⟨rfl, rfl, fun parts => rfl⟩
  rw [scanParts, List.takeWhile_append_of_pos hdigits, List.dropWhile_append_of_pos hdigits,
    hstop.1, hstop.2.1, List.append_nil]
  rcases Nat.eq_zero_or_pos n with rfl | hpos
  · exact hstop.2.2 _
  · rcases toDigits_of_pos n hpos with ⟨d, ds, hcons, hd⟩
    rw [hcons]
    -- A zero in front would have to stand alone, but there is none.
    split
    · next h => exact absurd h nofun
    · next h => exact absurd (List.cons.inj h).1 hd
    · exact hstop.2.2 _

/-- The digits of a number that fits are scanned as that number. -/
theorem scanNumber_toDigits (isNegative : Bool) (n : Nat) (hn : n < Nat.pow 2 64)
    (rest : List Char) (hrest : IsDelimited rest) :
    scanNumber isNegative (Nat.toDigits 10 n ++ rest) =
      ⟨.ok (wholeNumber isNegative n), .ok rest⟩ := by
  have hgather : gather 0 (Nat.toDigits 10 n) = (n, []) := by
    rw [gather_of_lt 0 _ (by rwa [foldl_toDigits]), foldl_toDigits]
  rw [scanNumber, scanParts_toDigits isNegative n rest hrest]
  simp only [NumberParts.value, hgather]
  rfl

theorem dropSpace_cons (c : Char) (cs : List Char) (hc : isSpace c = false) :
    dropSpace (c :: cs) = c :: cs :=
  List.dropWhile_cons_of_neg fun h => absurd (hc.symm.trans h) nofun

theorem ne_of_isDigit {c d : Char} (hc : isDigit c = true) (hd : isDigit d = false) : c ≠ d := by
  rintro rfl
  exact absurd (hd.symm.trans hc) nofun

theorem isSpace_of_isDigit (c : Char) (hc : isDigit c = true) : isSpace c = false := by
  rw [isSpace, decide_eq_false (ne_of_isDigit hc (by decide)),
    decide_eq_false (ne_of_isDigit hc (by decide)), decide_eq_false (ne_of_isDigit hc (by decide)),
    decide_eq_false (ne_of_isDigit hc (by decide))]
  rfl

theorem scanNode_digit (c : Char) (hc : isDigit c = true) (fuel : Nat) (cs : List Char) :
    scanNode (fuel + 1) (c :: cs) = numberNode (scanNumber false (c :: cs)) := by
  rw [scanNode, dropSpace_cons c cs (isSpace_of_isDigit c hc)]
  dsimp only
  rw [if_neg (ne_of_isDigit hc (by decide)), if_neg (ne_of_isDigit hc (by decide)),
    if_neg (ne_of_isDigit hc (by decide)), if_neg (ne_of_isDigit hc (by decide)),
    if_neg (ne_of_isDigit hc (by decide)), if_pos hc]

/-- The text of an integer is scanned as that integer, up to what delimits it. -/
theorem scanNode_integer (i : Int) (hi : (Number.integer i).InRange) (fuel : Nat)
    (rest : List Char) (hrest : IsDelimited rest) :
    scanNode (fuel + 1) ((Number.integer i).text.toList ++ rest) =
      (.number (.ok (.integer i)) none, .ok rest) := by
  have hlow : -(Nat.pow 2 63 : Nat) ≤ i := hi.1
  have hhigh : i < (Nat.pow 2 64 : Nat) := hi.2
  have hn : i.natAbs < Nat.pow 2 64 := by
    simp only [Nat.pow_eq] at *
    omega
  rw [Number.text, Decimal.intText]
  split
  · next hneg =>
    have hvalue : wholeNumber true i.natAbs = .integer i := by
      rw [wholeNumber, if_neg (by decide), if_neg]
      · congr 1
        omega
      · simp only [Nat.pow_eq, Bool.or_eq_true, decide_eq_true_eq] at *
        omega
    -- The sign decides what is scanned, and the digits are those of the absolute value.
    have hnode : scanNode (fuel + 1) ('-' :: (Nat.toDigits 10 i.natAbs ++ rest)) =
        numberNode (scanNumber true (Nat.toDigits 10 i.natAbs ++ rest)) := rfl
    rw [String.toList_append, toList_natText, List.append_assoc]
    refine hnode.trans ?_
    rw [scanNumber_toDigits true _ hn rest hrest, hvalue]
    rfl
  · next hpos =>
    have hvalue : wholeNumber false i.natAbs = .integer i := by
      rw [wholeNumber, if_pos (by decide)]
      congr 1
      omega
    have hnode : scanNode (fuel + 1) (Nat.toDigits 10 i.natAbs ++ rest) =
        numberNode (scanNumber false (Nat.toDigits 10 i.natAbs ++ rest)) := by
      rcases toDigits_eq_cons i.natAbs with ⟨c, cs, hcons, hc⟩
      rw [hcons]
      exact scanNode_digit c hc fuel (cs ++ rest)
    rw [toList_natText, hnode, scanNumber_toDigits false _ hn rest hrest, hvalue]
    rfl

/-- The text of a string is scanned as that string, whatever follows. -/
theorem scanString_stringText (s : String) :
    ∃ cs, (stringText s).toList = '"' :: cs ∧
      ∀ fuel rest, (stringText s).toList.length ≤ fuel →
        scanString fuel (cs ++ rest) = ⟨.ok s, .ok rest⟩ := by
  have htext : (stringText s).toList = '"' :: (s.toList.flatMap stringChar ++ ['"']) :=
    String.toList_ofList
  have hlength : s.toList.length ≤ (s.toList.flatMap stringChar).length := by
    -- Every character is printed as at least one, so there are steps enough.
    generalize s.toList = cs
    induction cs with
    | nil => exact Nat.zero_le _
    | cons c cs ih =>
        rcases scanStringChar_stringChar c with ⟨d, ds, hchar, _, _⟩
        rw [List.flatMap_cons, hchar, List.length_append, List.length_cons, List.length_cons]
        omega
  refine ⟨_, htext, fun fuel rest hfuel => ?_⟩
  rw [htext, List.length_cons, List.length_append] at hfuel
  rw [List.append_assoc, scanString, List.singleton_append,
    scanStringFrom_flatMap _ _ _ _ (by omega), List.reverse_nil, List.nil_append,
    String.ofList_toList]

/-- What stands in an array, unless it is the end, is scanned as its items. -/
theorem scanNode_items (fuel : Nat) (c : Char) (cs : List Char) (hspace : isSpace c = false)
    (hend : c ≠ ']') :
    scanNode (fuel + 1) ('[' :: c :: cs) =
      (.array (scanItems fuel (c :: cs)).1 (faultOf (scanItems fuel (c :: cs)).2),
        (scanItems fuel (c :: cs)).2) := by
  rw [scanNode, dropSpace_cons '[' _ (by decide)]
  dsimp only
  rw [if_neg (by decide), if_neg (by decide), if_neg (by decide), if_neg (by decide),
    if_neg (by decide), if_neg (by decide), if_pos rfl, dropSpace_cons c cs hspace]
  split
  · next heq => exact absurd heq (List.cons_ne_nil c cs)
  · next heq => exact absurd (List.cons.inj heq).1 hend
  · rfl

/-- What stands in an object behind a quote is scanned as its members. -/
theorem scanNode_members (fuel : Nat) (cs : List Char) :
    scanNode (fuel + 1) ('\x7b' :: '"' :: cs) =
      (.object (scanMembers fuel ('"' :: cs)).1 (faultOf (scanMembers fuel ('"' :: cs)).2),
        (scanMembers fuel ('"' :: cs)).2) :=
  rfl

/-- Behind the name of a member and the colon its value is scanned. -/
theorem scanMembers_stringText (name : String) (fuel : Nat) (cs : List Char)
    (hfuel : (stringText name).toList.length ≤ fuel) :
    scanMembers (fuel + 1) ((stringText name).toList ++ ':' :: cs) =
      match scanNode fuel cs with
      | (node, .error fault) => ([(.text (.ok name), node)], .error fault)
      | (node, .ok rest) => match dropSpace rest with
        | ',' :: rest =>
          ((.text (.ok name), node) :: (scanMembers fuel rest).1, (scanMembers fuel rest).2)
        | '\x7d' :: rest => ([(.text (.ok name), node)], .ok rest)
        | rest => ([(.text (.ok name), node)], .error (faultAt rest)) := by
  -- A quote, the name, a colon: everything else that the scanner looks for is ruled out.
  rcases scanString_stringText name with ⟨ds, hds, hname⟩
  rw [hds, List.cons_append, scanMembers, dropSpace_cons _ _ (by decide)]
  split
  · next heq => exact absurd heq (List.cons_ne_nil _ _)
  · next rest heq =>
    rw [← (List.cons.inj heq).2, hname fuel _ hfuel]
    dsimp only
    rw [dropSpace_cons _ _ (by decide)]
    split
    · next rest heq =>
      rw [← (List.cons.inj heq).2]
      rcases scanNode fuel cs with ⟨node, fault | rest⟩ <;> rfl
    · next heq => exact absurd rfl (heq cs)
  · next heq => exact absurd rfl (heq _)

namespace Value

/-- A text that is scanned as the value it was printed from, whatever delimits it. -/
def IsScanned (v : Value) : Prop :=
  ∀ fuel rest, 2 * v.compact.toList.length ≤ fuel → IsDelimited rest →
    scanNode fuel (v.compact.toList ++ rest) = (v.node, .ok rest)

/-- A value begins with a character that is neither blank nor the end of an array. -/
theorem compact_eq_cons (v : Value) (hv : ∀ n ∈ v.numbers, n.isInteger = true) :
    ∃ c cs, v.compact.toList = c :: cs ∧ isSpace c = false ∧ c ≠ ']' := by
  cases v with
  | null => exact ⟨_, _, rfl, by decide, by decide⟩
  | bool b => cases b <;> exact ⟨_, _, rfl, by decide, by decide⟩
  | number n =>
      cases n with
      | float bits => exact absurd (hv (.float bits) List.mem_cons_self) nofun
      | integer i =>
          rw [compact, Number.text, Decimal.intText]
          split
          · rw [String.toList_append]
            exact ⟨_, _, rfl, by decide, by decide⟩
          · rcases toDigits_eq_cons i.natAbs with ⟨c, cs, hcons, hc⟩
            rw [toList_natText, hcons]
            exact ⟨c, cs, rfl, isSpace_of_isDigit c hc, ne_of_isDigit hc (by decide)⟩
  | string s =>
      rcases scanString_stringText s with ⟨cs, hcs, _⟩
      exact ⟨_, cs, hcs, by decide, by decide⟩
  | array items =>
      cases items with
      | nil => exact ⟨_, _, rfl, by decide, by decide⟩
      | cons item items =>
          rw [compact, String.toList_append, String.toList_append, String.toList_append]
          exact ⟨_, _, rfl, by decide, by decide⟩
  | object members =>
      cases members with
      | nil => exact ⟨_, _, rfl, by decide, by decide⟩
      | cons m members =>
          rw [compact, String.toList_append, String.toList_append, String.toList_append,
            String.toList_append, String.toList_append]
          exact ⟨_, _, rfl, by decide, by decide⟩

theorem toList_compact_array (item : Value) (items : List Value) :
    (compact (.array (item :: items))).toList =
      '[' :: (item.compact.toList ++ ((compactItems items).toList ++ [']'])) := by
  rw [compact, String.toList_append, String.toList_append, String.toList_append,
    List.append_assoc, List.append_assoc]
  rfl

theorem toList_compactItems_cons (item : Value) (items : List Value) :
    (compactItems (item :: items)).toList =
      ',' :: (item.compact.toList ++ (compactItems items).toList) := by
  rw [compactItems, String.toList_append, String.toList_append, List.append_assoc]
  rfl

theorem toList_compact_object (m : String × Value) (members : List (String × Value)) :
    (compact (.object (m :: members))).toList =
      '\x7b' :: ((stringText m.1).toList ++
        ':' :: (m.2.compact.toList ++ ((compactMembers members).toList ++ ['\x7d']))) := by
  rw [compact, String.toList_append, String.toList_append, String.toList_append,
    String.toList_append, String.toList_append]
  simp only [List.append_assoc]
  rfl

theorem toList_compactMembers_cons (m : String × Value) (members : List (String × Value)) :
    (compactMembers (m :: members)).toList =
      ',' :: ((stringText m.1).toList ++
        ':' :: (m.2.compact.toList ++ (compactMembers members).toList)) := by
  rw [compactMembers, String.toList_append, String.toList_append, String.toList_append,
    String.toList_append]
  simp only [List.append_assoc]
  rfl

/-- Items behind each other are scanned up to the bracket that ends them. -/
theorem scanItems_compact (item : Value) (items : List Value)
    (hscanned : ∀ v ∈ item :: items, v.IsScanned) (fuel : Nat) (rest : List Char)
    (hfuel : 2 * (item.compact.toList.length + (compactItems items).toList.length) < fuel) :
    scanItems fuel (item.compact.toList ++ ((compactItems items).toList ++ ']' :: rest)) =
      (nodes (item :: items), .ok rest) := by
  -- Whether a comma or the bracket follows is decided by the items behind the first, so the
  -- induction is on these, for any first item.
  induction items generalizing item fuel with
  | nil =>
      rcases fuel with _ | fuel
      · exact absurd hfuel (Nat.not_lt_zero _)
      · have hitem := hscanned item List.mem_cons_self fuel (']' :: rest) (by omega)
          (isDelimited_cons _ _ (by decide))
        rw [compactItems, String.toList_empty, List.nil_append, scanItems, hitem]
        rfl
  | cons next items ih =>
      rcases fuel with _ | fuel
      · exact absurd hfuel (Nat.not_lt_zero _)
      · rw [toList_compactItems_cons, List.length_cons, List.length_append] at hfuel
        have hrest := ih next (fun v hv => hscanned v (List.mem_cons_of_mem item hv)) fuel
          (by omega)
        have hitem := fun more => hscanned item List.mem_cons_self fuel (',' :: more) (by omega)
          (isDelimited_cons _ _ (by decide))
        rw [toList_compactItems_cons, List.cons_append, List.append_assoc, scanItems, hitem]
        show (item.node :: (scanItems fuel _).1, (scanItems fuel _).2) = _
        rw [hrest]
        rfl

/-- Members behind each other are scanned up to the brace that ends them. -/
theorem scanMembers_compact (m : String × Value) (members : List (String × Value))
    (hscanned : ∀ d ∈ m :: members, d.2.IsScanned) (fuel : Nat) (rest : List Char)
    (hfuel : 2 * ((stringText m.1).toList.length + m.2.compact.toList.length +
      (compactMembers members).toList.length) < fuel) :
    scanMembers fuel ((stringText m.1).toList ++
      ':' :: (m.2.compact.toList ++ ((compactMembers members).toList ++ '\x7d' :: rest))) =
        (memberNodes (m :: members), .ok rest) := by
  induction members generalizing m fuel with
  | nil =>
      rcases fuel with _ | fuel
      · exact absurd hfuel (Nat.not_lt_zero _)
      · have hvalue := hscanned m List.mem_cons_self fuel ('\x7d' :: rest) (by omega)
          (isDelimited_cons _ _ (by decide))
        rw [compactMembers, String.toList_empty, List.nil_append,
          scanMembers_stringText m.1 fuel _ (by omega), hvalue]
        rfl
  | cons next members ih =>
      rcases fuel with _ | fuel
      · exact absurd hfuel (Nat.not_lt_zero _)
      · rw [toList_compactMembers_cons, List.length_cons, List.length_append, List.length_cons,
          List.length_append] at hfuel
        have hrest := ih next (fun d hd => hscanned d (List.mem_cons_of_mem m hd)) fuel (by omega)
        have hvalue := fun more => hscanned m List.mem_cons_self fuel (',' :: more) (by omega)
          (isDelimited_cons _ _ (by decide))
        rw [toList_compactMembers_cons]
        simp only [List.cons_append, List.append_assoc]
        rw [scanMembers_stringText m.1 fuel _ (by omega), hvalue]
        -- Behind the value stands a comma, so the members behind it are scanned with one step less.
        show ((Key.text (.ok m.1), m.2.node) :: (scanMembers fuel _).1, (scanMembers fuel _).2) = _
        rw [hrest]
        rfl

theorem isScanned_null : IsScanned .null := by
  intro fuel rest hfuel _
  rcases fuel with _ | fuel
  · exact absurd hfuel (by decide)
  · rfl

theorem isScanned_bool (b : Bool) : IsScanned (.bool b) := by
  intro fuel rest hfuel _
  rcases fuel with _ | fuel
  · cases b <;> exact absurd hfuel (by decide)
  · cases b <;> rfl

theorem isScanned_integer (i : Int) (hi : (Number.integer i).InRange) :
    IsScanned (.number (.integer i)) := by
  intro fuel rest hfuel hrest
  rcases compact_eq_cons (.number (.integer i)) (fun n hn => List.mem_singleton.mp hn ▸ rfl) with
    ⟨c, cs, hcs, _, _⟩
  rcases fuel with _ | fuel
  · rw [hcs, List.length_cons] at hfuel
    exact absurd hfuel (by omega)
  · exact scanNode_integer i hi fuel rest hrest

theorem isScanned_string (s : String) : IsScanned (.string s) := by
  intro fuel rest hfuel _
  rw [compact] at hfuel ⊢
  rcases scanString_stringText s with ⟨cs, hcs, hscan⟩
  rcases fuel with _ | fuel
  · rw [hcs, List.length_cons] at hfuel
    exact absurd hfuel (by omega)
  · have hnode : scanNode (fuel + 1) ('"' :: (cs ++ rest)) =
        stringNode (scanString fuel (cs ++ rest)) := rfl
    rw [hcs, List.cons_append, hnode, hscan fuel rest]
    · rfl
    · rw [hcs, List.length_cons] at hfuel ⊢
      omega

/-- An array is scanned if everything inside is, and begins as values do. -/
theorem isScanned_array (items : List Value) (hscanned : ∀ v ∈ items, v.IsScanned)
    (hnumbers : ∀ v ∈ items, ∀ n ∈ v.numbers, n.isInteger = true) : IsScanned (.array items) := by
  intro fuel rest hfuel _
  rcases fuel with _ | fuel
  · exact absurd hfuel (by rw [compact.eq_def]; cases items <;> simp)
  · cases items with
    | nil => rfl
    | cons item items =>
        rw [toList_compact_array, List.length_cons, List.length_append, List.length_append] at hfuel
        have hitems := scanItems_compact item items hscanned fuel rest (by omega)
        -- The first item keeps the array from looking empty.
        rcases compact_eq_cons item (hnumbers item List.mem_cons_self) with
          ⟨c, cs, hcs, hspace, hend⟩
        rw [hcs, List.cons_append] at hitems
        rw [toList_compact_array, hcs]
        simp only [List.cons_append, List.append_assoc, List.nil_append]
        rw [scanNode_items fuel c _ hspace hend, hitems]
        rfl

/-- An object is scanned if everything inside is. -/
theorem isScanned_object (members : List (String × Value))
    (hscanned : ∀ m ∈ members, m.2.IsScanned) : IsScanned (.object members) := by
  intro fuel rest hfuel _
  rcases fuel with _ | fuel
  · exact absurd hfuel (by rw [compact.eq_def]; cases members <;> simp)
  · cases members with
    | nil => rfl
    | cons m members =>
        rw [toList_compact_object, List.length_cons, List.length_append, List.length_cons,
          List.length_append, List.length_append] at hfuel
        have hmembers := scanMembers_compact m members hscanned fuel rest (by omega)
        rcases scanString_stringText m.1 with ⟨cs, hcs, _⟩
        rw [hcs, List.cons_append] at hmembers
        rw [toList_compact_object, hcs]
        simp only [List.cons_append, List.append_assoc, List.nil_append]
        rw [scanNode_members fuel, hmembers]
        rfl

/-- The compact text of a value is scanned as that value. -/
theorem scanNode_compact (v : Value)
    (hv : ∀ n ∈ v.numbers, n.isInteger = true ∧ n.InRange) : v.IsScanned := by
  induction v using Value.induct with
  | null => exact isScanned_null
  | bool b => exact isScanned_bool b
  | number n =>
      have hn := hv n List.mem_cons_self
      cases n with
      | integer i => exact isScanned_integer i hn.2
      | float bits => exact absurd hn.1 nofun
  | string s => exact isScanned_string s
  | array items ih =>
      have hitem : ∀ v ∈ items, ∀ n ∈ v.numbers, n.isInteger = true ∧ n.InRange := by
        intro v hmem n hn
        refine hv n ?_
        rw [numbers, itemNumbers_eq_flatMap]
        exact List.mem_flatMap.mpr ⟨v, hmem, hn⟩
      exact isScanned_array items (fun v hmem => ih v hmem (hitem v hmem))
        fun v hmem n hn => (hitem v hmem n hn).1
  | object members ih =>
      refine isScanned_object members fun m hmem => ih m hmem fun n hn => hv n ?_
      rw [numbers, memberNumbers_eq_flatMap]
      exact List.mem_flatMap.mpr ⟨m, hmem, hn⟩

end Value

/-- The compact text of a value is the text of its sound document, if its numbers are integers
    of sixty-four bits. -/
theorem Document.ofText_compact (v : Value)
    (hv : ∀ n ∈ v.numbers, n.isInteger = true ∧ n.InRange) :
    Document.ofText v.compact = ⟨v.node, none⟩ := by
  have hscan := v.scanNode_compact hv (2 * v.compact.toList.length + 2) [] (by omega)
    fun c cs heq => absurd heq nofun
  rw [List.append_nil] at hscan
  rw [Document.ofText, hscan]
  rfl

end Json

end Typings
