import Typings.Proofs.Emit.Comments
import Typings.Proofs.Method.Generics
import Typings.Proofs.ResolvedNames

/-!
# Lines of Method Documentation

The documentation of a method is a list of texts, and whoever writes it takes each of
them for a line: it gets the indentation and the star once, in front. The description of
the method is cut into its lines, so nothing in it can break one. The descriptions of
parameters and of the return value are put behind their types as they are. If one of
them has several lines, so has the text that it is put into, and all but the first of
these stand in the file without a star.

This is the only way in which a line can break. Names and types are one line if the
record, the substitutions and the payloads have no line feed in theirs: what a token
resolves to is made of pieces of the token, of what is substituted for it, and of `any`.
A return value counts only where it is documented. Constructors have none, and neither
has the variant of a subscription that takes a callback, but one that leaves the
callback out has.

## Main definitions

* `Text.IsLine`: A text without line feed.
* `Resolver.SubstitutesLines`: All substitutes are lines.
* `Method.documentsValue`: Whether a variant documents the return value of the record.
* `Emit.IsStarred`: A comment in which every line but the first begins with a star.

## Theorems

* `Text.isLine_of_mem_lines`: The lines of a text are lines.
* `Resolver.isLine_resolve`: Resolved types are lines.
* `Method.isLine_docLines_iff`: What has to be a line for the documentation to be one.
* `Method.isLine_type_builtParameter`, `Method.isLine_returnType_build_iff`: The parameters
  and the return value of a method.
* `Method.isLine_docLines_build_iff`: The documentation of one variant.
* `Emit.isStarred_docComment`: Lines make a comment with a star in front of each.
* `Method.isLine_variants_iff`: When the documentation of a method consists of lines.
-/

namespace Typings

namespace Text

/-- A text without line feed. -/
def IsLine (text : String) : Prop :=
  '\n' ∉ text.toList

instance (text : String) : Decidable (IsLine text) :=
  inferInstanceAs (Decidable ('\n' ∉ text.toList))

theorem isLine_append_iff (a b : String) : IsLine (a ++ b) ↔ IsLine a ∧ IsLine b := by
  rw [IsLine, String.toList_append, List.mem_append, not_or, IsLine, IsLine]

/-- Texts put together on one line are on one line each. -/
theorem isLine_join_iff (separator : String) (pieces : List String)
    (hseparator : IsLine separator) :
    IsLine (join separator pieces) ↔ ∀ p ∈ pieces, IsLine p := by
  cases pieces with
  | nil => exact iff_of_true List.not_mem_nil (fun _ hp => absurd hp List.not_mem_nil)
  | cons piece rest =>
      rw [IsLine, toList_join_cons, List.mem_append, not_or, List.mem_flatMap,
        List.forall_mem_cons]
      refine and_congr_right fun _ => ⟨fun h p hp hmem => h ⟨p, hp, ?_⟩, ?_⟩
      · exact List.mem_append_right _ hmem
      · rintro h ⟨p, hp, hmem⟩
        exact (List.mem_append.mp hmem).elim hseparator (h p hp)

theorem mem_of_mem_dropReturn (line : List Char) : ∀ c ∈ dropReturn line, c ∈ line := by
  intro c hc
  rw [dropReturn] at hc
  split at hc
  · next rest hline =>
      rw [← List.mem_reverse, hline]
      exact List.mem_cons_of_mem _ (List.mem_reverse.mp hc)
  · exact hc

/-- A line is a piece, or what is left of one. -/
theorem exists_piece_of_mem_linesOfPieces (pieces : List (List Char)) :
    ∀ line ∈ linesOfPieces pieces, ∃ piece ∈ pieces, ∀ c ∈ line, c ∈ piece := by
  -- The last piece is treated differently: it may be empty, and loses no carriage return.
  rcases List.eq_nil_or_concat' pieces with rfl | ⟨pieces, last, rfl⟩
  · exact fun _ hline => absurd hline List.not_mem_nil
  · rw [linesOfPieces_concat]
    intro line hline
    rcases List.mem_append.mp hline with hpiece | hlast
    · rcases List.mem_map.mp hpiece with ⟨piece, hmem, rfl⟩
      exact ⟨piece, List.mem_append_left _ hmem, mem_of_mem_dropReturn piece⟩
    · split at hlast
      · exact absurd hlast List.not_mem_nil
      · rw [List.mem_singleton.mp hlast]
        exact ⟨last, List.mem_append_right _ List.mem_cons_self, fun c hc => hc⟩

/-- The lines of a text are lines. -/
theorem isLine_of_mem_lines (text : String) : ∀ line ∈ lines text, IsLine line := by
  intro line hline hmem
  rcases List.mem_map.mp hline with ⟨cs, hcs, rfl⟩
  rw [String.toList_ofList] at hmem
  rcases exists_piece_of_mem_linesOfPieces _ cs hcs with ⟨piece, hpiece, hchars⟩
  -- Pieces have been cut at every line feed.
  have hfeed := not_isSeparator_of_mem_splitChars _ _ piece hpiece '\n' (hchars '\n' hmem)
  exact absurd hfeed (by decide)

/-- The pieces of a line are lines. -/
theorem isLine_of_mem_split (isSeparator : Char → Bool) (text piece : String) (htext : IsLine text)
    (hpiece : piece ∈ split isSeparator text) : IsLine piece := fun hmem =>
  htext (mem_of_mem_splitChars isSeparator _ _ ((mem_split ..).mp hpiece) '\n' hmem)

theorem isLine_trim (text : String) (htext : IsLine text) : IsLine (trim text) := by
  rw [IsLine, trim, String.toList_ofList]
  exact fun hmem => htext (mem_of_mem_trimChars _ '\n' hmem)

end Text

open Text (IsLine)

namespace Resolver

variable (r : Resolver)

/-- The text of a name is a piece of the name, or it is `any`. -/
theorem isLine_resolveName (name : String) (hname : IsLine name) :
    IsLine (r.resolveName name).1 := by
  have hany : IsLine anyType := by decide
  -- Only a path that is declared is cut, and the piece that is kept is its last segment.
  cases hqualified : TypePath.isQualified name with
  | false =>
      rw [resolveName_of_plain r name hqualified]
      dsimp only
      split
      · exact hany
      · exact hname
  | true =>
      cases hlookup : r.registry.lookup name with
      | some entry =>
          rw [resolveName_of_declared r name hqualified entry hlookup, TypePath.lastSegment_eq]
          exact Text.isLine_of_mem_split _ name _ hname (List.getLast_mem _)
      | none =>
          rw [resolveName_of_undeclared r name hqualified hlookup]
          exact hany

/-- All substitutes are lines. -/
def SubstitutesLines : Prop :=
  ∀ entry ∈ r.substitutions.entries, IsLine entry.2

instance : Decidable r.SubstitutesLines :=
  inferInstanceAs (Decidable (∀ entry ∈ r.substitutions.entries, IsLine entry.2))

theorem isLine_standsFor (a : String) (ha : IsLine a) (hsubstitutes : r.SubstitutesLines) :
    IsLine (r.standsFor a) := by
  -- What is looked up among the substitutes is the alternative without its suffix.
  have helement : IsLine ((Text.withoutEnd? arraySuffix a).getD a) := by
    cases hsuffix : Text.withoutEnd? arraySuffix a with
    | none => exact ha
    | some element =>
        rw [(Text.withoutEnd?_eq_some_iff ..).mp hsuffix] at ha
        exact ((Text.isLine_append_iff ..).mp ha).1
  rw [standsFor, substitute]
  cases hget : r.substitutions.get? ((Text.withoutEnd? arraySuffix a).getD a) with
  | none => exact helement
  | some value =>
      rcases List.lookup_eq_some_iff.mp hget with ⟨before, after, hentries, -⟩
      exact hsubstitutes (_, value) (hentries ▸ List.mem_append_right before List.mem_cons_self)

/-- What a token resolves to is a line, if the token and all substitutes are. -/
theorem isLine_resolve (token : String) (htoken : IsLine token)
    (hsubstitutes : r.SubstitutesLines) : IsLine (r.resolve token).rendered := by
  cases hblank : Text.isBlankText token with
  | true =>
      rw [resolve_of_blank r token hblank]
      show IsLine anyType
      decide
  | false =>
      rw [resolve_of_not_blank r token hblank]
      refine (Text.isLine_join_iff "|" _ (by decide)).mpr fun member hmember => ?_
      rcases List.mem_map.mp hmember with ⟨a, ha, rfl⟩
      rcases List.mem_map.mp ha with ⟨piece, hpiece, rfl⟩
      -- An alternative is a trimmed piece of the token between bars.
      have hline := Text.isLine_trim piece (Text.isLine_of_mem_split _ token piece htoken hpiece)
      have hsuffix : IsLine (suffixOf (Text.trim piece)) := by
        rw [suffixOf]
        split <;> decide
      rw [resolveAlternative_eq, Text.isLine_append_iff]
      exact ⟨r.isLine_resolveName _ (r.isLine_standsFor _ hline hsubstitutes), hsuffix⟩

end Resolver

namespace Method

section Documentation

theorem isLine_docTag_iff (tag type : String) (words : List String) :
    IsLine (docTag tag type words) ↔ IsLine tag ∧ IsLine type ∧ ∀ w ∈ words, IsLine w := by
  have hat : IsLine "@" := by decide
  have hopen : IsLine "\x7b" := by decide
  have hclose : IsLine "\x7d" := by decide
  rw [docTag, Text.isLine_join_iff _ _ (by decide)]
  simp only [List.cons_append, List.nil_append, List.forall_mem_cons, Text.isLine_append_iff, hat,
    hopen, hclose, true_and, and_true]

theorem isLine_described_iff (description : String) :
    (∀ w ∈ described description, IsLine w) ↔ IsLine description := by
  rw [described]
  split
  · next hempty =>
      rw [String.isEmpty_iff.mp hempty]
      exact iff_of_true (fun _ hw => absurd hw List.not_mem_nil) (by decide)
  · rw [List.forall_mem_singleton]

/-- The documentation of a parameter is a line if all that it says is. -/
theorem isLine_parameterDoc_iff (p : Parameter) :
    IsLine (parameterDoc p) ↔ IsLine p.type ∧ IsLine p.name ∧ IsLine p.description := by
  have htag : IsLine "param" := by decide
  have hname : IsLine (if p.isOptional then "[" ++ p.name ++ "]" else p.name) ↔ IsLine p.name := by
    have hopen : IsLine "[" := by decide
    have hclose : IsLine "]" := by decide
    split
    · simp only [Text.isLine_append_iff, hopen, hclose, true_and, and_true]
    · rfl
  rw [parameterDoc, isLine_docTag_iff, List.forall_mem_cons, hname, isLine_described_iff,
    and_iff_right htag]

theorem isLine_returnDoc_iff (t : Option ReturnType) :
    (∀ line ∈ returnDoc t, IsLine line) ↔
      ∀ r ∈ t, r.isUnknown = false → IsLine r.type ∧ IsLine r.description := by
  have htag : IsLine "returns" := by decide
  rcases t with _ | r
  · exact iff_of_true (fun _ h => absurd h List.not_mem_nil)
      fun _ h => absurd h (Option.not_mem_none _)
  · rw [returnDoc]
    cases hunknown : r.isUnknown with
    -- An unknown return type is not documented, whatever its description.
    | true =>
        refine iff_of_true (fun _ h => absurd h List.not_mem_nil) fun r' hr' h => ?_
        rw [← Option.some_inj.mp hr', hunknown] at h
        contradiction
    | false =>
        rw [if_neg Bool.false_ne_true, List.forall_mem_singleton, isLine_docTag_iff,
          isLine_described_iff, and_iff_right htag]
        simp only [Option.mem_def, Option.some.injEq, forall_eq', hunknown, true_implies]

/-- The documentation of a method consists of lines if everything that is put into it is a
    line. The description of the method itself is cut into lines. -/
theorem isLine_docLines_iff (m : Method) :
    (∀ line ∈ m.docLines, IsLine line) ↔
      (∀ p ∈ m.parameters, IsLine p.type ∧ IsLine p.name ∧ IsLine p.description) ∧
        ∀ r ∈ m.returnType, r.isUnknown = false → IsLine r.type ∧ IsLine r.description := by
  rw [docLines, ← isLine_returnDoc_iff]
  simp only [List.forall_mem_append, List.forall_mem_map, isLine_parameterDoc_iff]
  exact and_congr_left fun _ => and_iff_right (Text.isLine_of_mem_lines m.description)

end Documentation

section Built

theorem isLine_callbackType (e : Event) (hasListener hasCustomData : Bool)
    (he : IsLine e.payloadType) : IsLine (callbackType e hasListener hasCustomData) := by
  have hcontext : IsLine (if hasListener then contextGeneric else "this") := by
    cases hasListener <;> decide
  have hdata : IsLine (if hasCustomData then ", oCustomData?: " ++ customDataGeneric else "") := by
    cases hasCustomData <;> decide
  simp only [callbackType, Text.isLine_append_iff, hcontext, hdata, he, and_true]
  decide

variable (owner : Owner) (raw : Api.Method) (options : BuildOptions)

/-- The types that the parameters of a method are given are lines, if those of its record
    are and nothing else brings in a line feed. -/
theorem isLine_type_builtParameter (p : Api.Parameter) (hp : IsLine p.type)
    (hsubstitutes : owner.resolver.SubstitutesLines)
    (hpayloads : ∀ e ∈ owner.events, IsLine e.payloadType) :
    IsLine (builtParameter owner raw p).type := by
  have hresolved := owner.resolver.isLine_resolve p.type hp hsubstitutes
  rw [builtParameter]
  cases hevent : subscribedEvent? raw.name owner.events with
  | none => exact hresolved
  | some event =>
      have hpayload := hpayloads event (mem_of_subscribedEvent? raw.name owner.events event hevent)
      dsimp only
      rw [Subscription.type_parameter]
      -- The roles in turn: custom data, callback, listener, and none.
      split
      · decide
      · exact isLine_callbackType event _ _ hpayload
      · split
        · decide
        · exact hresolved
      · exact hresolved

/-- Whether a variant with certain parameters documents the return value of the record. A
    constructor does not, and neither does a subscription that takes a callback, since it
    returns its receiver instead. -/
def documentsValue (parameters : List Api.Parameter) : Bool :=
  match subscribedEvent? raw.name owner.events with
  | some event => !Subscription.has ⟨event, parameters⟩ .callback
  | none => !options.hasNoReturn

theorem isLine_resolve_returnType_iff (r : Resolver) (value : Option Api.ReturnValue)
    (htype : ∀ v ∈ value, IsLine (r.resolve v.type).rendered) :
    (∀ t ∈ some (ReturnType.resolve r value).1, t.isUnknown = false →
        IsLine t.type ∧ IsLine t.description) ↔
      ∀ v ∈ value, IsLine v.description := by
  simp only [Option.mem_def, Option.some.injEq, forall_eq']
  cases value with
  | none =>
      exact iff_of_true (fun h => absurd h.symm Bool.false_ne_true)
        fun _ h => absurd h (Option.not_mem_none _)
  | some v =>
      have hline := htype v rfl
      simp only [ReturnType.resolve, hline, true_and, true_implies, Option.some.injEq, forall_eq']

/-- The documentation of a return value is a line, if its description is one or there is no
    such documentation. -/
theorem isLine_returnType_build_iff
    (htype : ∀ v ∈ raw.returnValue, IsLine (owner.resolver.resolve v.type).rendered) :
    (∀ t ∈ (build owner raw options).returnType, t.isUnknown = false →
        IsLine t.type ∧ IsLine t.description) ↔
      (documentsValue owner raw options raw.parameters = true →
        ∀ v ∈ raw.returnValue, IsLine v.description) := by
  have hresolved := isLine_resolve_returnType_iff owner.resolver raw.returnValue htype
  rw [build, documentsValue]
  rcases subscribedEvent? raw.name owner.events with _ | event
  · -- Without an event it is the constructor that has no return value, and with one it is the
    -- subscription that takes a callback.
    cases hreturn : options.hasNoReturn with
    | true =>
        simp only [buildPlain, hreturn, if_true]
        exact iff_of_true (fun _ h => absurd h (Option.not_mem_none _))
          fun h => absurd h Bool.false_ne_true
    | false =>
        simp only [buildPlain, hreturn, Bool.false_eq_true, if_false, Bool.not_false, true_implies]
        exact hresolved
  · cases hcallback : Subscription.has ⟨event, raw.parameters⟩ .callback with
    | true =>
        simp only [buildSubscription, hcallback, if_true]
        refine iff_of_true (fun t ht _ => ?_) fun h => absurd h Bool.false_ne_true
        rw [← Option.some_inj.mp ht]
        decide
    | false =>
        simp only [buildSubscription, hcallback, Bool.false_eq_true, if_false, Bool.not_false,
          true_implies]
        exact hresolved

/-- The documentation of one variant. -/
theorem isLine_docLines_build_iff
    (hnames : ∀ p ∈ raw.parameters, IsLine p.name ∧ IsLine p.type)
    (hvalue : ∀ v ∈ raw.returnValue, IsLine v.type)
    (hsubstitutes : owner.resolver.SubstitutesLines)
    (hpayloads : ∀ e ∈ owner.events, IsLine e.payloadType) :
    (∀ line ∈ (build owner raw options).docLines, IsLine line) ↔
      (∀ p ∈ raw.parameters, IsLine p.description) ∧
        (documentsValue owner raw options raw.parameters = true →
          ∀ v ∈ raw.returnValue, IsLine v.description) := by
  have hparameter : ∀ p ∈ raw.parameters,
      (IsLine (builtParameter owner raw p).type ∧ IsLine (builtParameter owner raw p).name ∧
        IsLine (builtParameter owner raw p).description) ↔ IsLine p.description := by
    intro p hp
    have htype := isLine_type_builtParameter owner raw p (hnames p hp).2 hsubstitutes hpayloads
    rcases exists_builtParameter_eq owner raw p with ⟨type, rawType, hbuilt⟩
    rw [and_iff_right htype, hbuilt]
    exact and_iff_right (hnames p hp).1
  -- Names and types are lines anyway, so the descriptions are all that is left to ask for.
  have hreturn := isLine_returnType_build_iff owner raw options fun v hv =>
    owner.resolver.isLine_resolve v.type (hvalue v hv) hsubstitutes
  rw [isLine_docLines_iff, hreturn, parameters_build, List.forall_mem_map]
  exact and_congr_left fun _ => forall₂_congr hparameter

end Built

/-- What does not depend on whether a parameter is optional holds for the parameters of all
    variants if it holds for those of the record. -/
theorem forall_mem_parameterLists_iff (f : Api.Parameter → Prop)
    (hf : ∀ p, f (mandatory p) = f p) (all : List Api.Parameter) :
    (∀ parameters ∈ parameterLists all, ∀ p ∈ parameters, f p) ↔ ∀ p ∈ all, f p := by
  have hmap : ∀ l : List Api.Parameter, (∀ q ∈ l.map f, q) ↔ ∀ p ∈ l, f p := fun l =>
    List.forall_mem_map
  constructor
  · intro h
    -- One of the variants leaves nothing out.
    have hlast : mandatoryUpToLast all ∈ parameterLists all := by
      rw [parameterLists_eq]
      exact List.mem_append_right _ (List.mem_singleton.mpr rfl)
    rw [← hmap, ← map_mandatoryUpToLast f hf, hmap]
    exact h _ hlast
  · intro h parameters hparameters p hp
    have hsublist := (sublist_of_mem_parameterLists all parameters hparameters).subset
    rcases List.mem_map.mp (hsublist (List.mem_map_of_mem hp)) with ⟨q, hq, hsame⟩
    rw [← hf p, ← hsame, hf q]
    exact h q hq

end Method

namespace Emit

/-- A comment with a number of lines between its first and its last, each with a star behind
    the indentation. Without lines there is no comment. -/
def IsStarred (level count : Nat) (text : List Char) : Prop :=
  if count = 0 then text = []
  else ∃ rests : List (List Char), rests.length = count ∧ (∀ rest ∈ rests, '\n' ∉ rest) ∧
    text = indentation level ++ "/**\n".toList ++
      rests.flatMap (fun rest => indentation level ++ " *".toList ++ rest ++ ['\n']) ++
      indentation level ++ " */\n".toList

theorem mem_guardComment (text : List Char) (c : Char) (hc : c ∈ guardComment text) :
    c ∈ text ∨ c = '\\' := by
  fun_induction guardComment text with
  | case1 rest ih => grind
  | case2 d rest _ ih => grind
  | case3 => exact Or.inl hc

/-- What is dropped from the end stands behind the last character that is kept. -/
theorem rdropWhile_append_cons (p : Char → Bool) (front tail : List Char) (x : Char)
    (hx : ¬p x = true) :
    (front ++ x :: tail).rdropWhile p = front ++ x :: tail.rdropWhile p := by
  -- Characters are dropped from the end, so the induction takes the last one away.
  induction tail using List.reverseRecOn with
  | nil => exact List.rdropWhile_concat_neg p front x hx
  | append_singleton tail y ih =>
      rw [← List.cons_append, ← List.append_assoc]
      by_cases hy : p y = true
      · rw [List.rdropWhile_concat_pos p _ y hy, List.rdropWhile_concat_pos p _ y hy, ih]
      · rw [List.rdropWhile_concat_neg p _ y hy, List.rdropWhile_concat_neg p _ y hy,
          List.append_assoc]
        rfl

/-- The text of a line stands behind its star. -/
def behindStar (line : String) : List Char :=
  (' ' :: guardComment line.toList).rdropWhile (· = ' ')

theorem docLineChars_eq (level : Nat) (line : String) :
    docLineChars level line = indentation level ++ " *".toList ++ behindStar line ++ ['\n'] := by
  have hstar := rdropWhile_append_cons (· = ' ') (indentation level ++ [' '])
    (' ' :: guardComment line.toList) '*' (by decide)
  rw [List.append_assoc, List.append_assoc] at hstar
  rw [docLineChars, behindStar]
  refine congrArg (· ++ ['\n']) (hstar.trans ?_)
  rw [List.append_assoc]
  rfl

theorem not_mem_behindStar (line : String) (hline : IsLine line) : '\n' ∉ behindStar line := by
  intro hmem
  rcases List.mem_cons.mp ((List.rdropWhile_prefix _ _).subset hmem) with hspace | hguarded
  · exact absurd hspace (by decide)
  · exact (mem_guardComment _ _ hguarded).elim hline (by decide)

/-- Lines make a comment with a star in front of each. -/
theorem isStarred_docComment (level : Nat) (lines : List String)
    (hlines : ∀ line ∈ lines, IsLine line) :
    IsStarred level lines.length (charsAt level (docComment lines)) := by
  rw [charsAt_docComment, commentChars, IsStarred]
  rcases lines with _ | ⟨first, rest⟩
  · rfl
  · have hempty : ¬(first :: rest).isEmpty = true := Bool.false_ne_true
    have hcount : ¬(first :: rest).length = 0 := Nat.succ_ne_zero _
    rw [if_neg hcount, if_neg hempty]
    refine ⟨(first :: rest).map behindStar, List.length_map _, ?_, ?_⟩
    · rw [List.forall_mem_map]
      exact fun line hline => not_mem_behindStar line (hlines line hline)
    · rw [commentBody, List.flatMap_map,
        List.flatMap_congr fun line _ => docLineChars_eq level line]
      simp only [List.append_assoc, List.cons_append, List.nil_append]
      rfl

end Emit

namespace Method

/-- The documentation of a method consists of lines, in all of its variants, exactly when
    the descriptions of its parameters are lines, and that of its return value is one if any
    variant documents it. Names and types bring in no line feed. Documentation that consists
    of lines is written line by line, at whatever level: between the first and the last line
    of the comment there is one for each, with a star behind the indentation. -/
theorem isLine_variants_iff (owner : Owner) (raw : Api.Method) (options : BuildOptions)
    (hnames : ∀ p ∈ raw.parameters, IsLine p.name ∧ IsLine p.type)
    (hvalue : ∀ v ∈ raw.returnValue, IsLine v.type)
    (hsubstitutes : owner.resolver.SubstitutesLines)
    (hpayloads : ∀ e ∈ owner.events, IsLine e.payloadType) :
    ((∀ m ∈ variants owner raw options, ∀ line ∈ m.docLines, IsLine line) ↔
      (∀ p ∈ raw.parameters, IsLine p.description) ∧
        ((∃ parameters ∈ parameterLists raw.parameters,
            documentsValue owner raw options parameters = true) →
          ∀ v ∈ raw.returnValue, IsLine v.description)) ∧
      ∀ m ∈ variants owner raw options, (∀ line ∈ m.docLines, IsLine line) → ∀ level,
        Emit.IsStarred level m.docLines.length
          (Emit.charsAt level (Emit.docComment m.docLines)) := by
  refine ⟨?_, fun m _ hlines level => Emit.isStarred_docComment level _ hlines⟩
  -- A variant has some parameters of the record, with names and types as they are there.
  have hnamesOf := (forall_mem_parameterLists_iff (fun p => IsLine p.name ∧ IsLine p.type)
    (fun _ => rfl) raw.parameters).mpr hnames
  have hvariant : ∀ parameters ∈ parameterLists raw.parameters,
      (∀ line ∈ (build owner { raw with parameters := parameters } options).docLines,
          IsLine line) ↔
        (∀ p ∈ parameters, IsLine p.description) ∧
          (documentsValue owner raw options parameters = true →
            ∀ v ∈ raw.returnValue, IsLine v.description) := fun parameters hparameters =>
    isLine_docLines_build_iff owner { raw with parameters := parameters } options
      (hnamesOf parameters hparameters) hvalue hsubstitutes hpayloads
  rw [variants, List.forall_mem_map, forall₂_congr hvariant, forall₂_and,
    forall_mem_parameterLists_iff (fun p => IsLine p.description) fun _ => rfl]
  refine and_congr_right fun _ => ⟨?_, fun h parameters hparameters hdocuments =>
    h ⟨parameters, hparameters, hdocuments⟩⟩
  rintro h ⟨parameters, hparameters, hdocuments⟩
  exact h parameters hparameters hdocuments

section Example

/-- An owner that fires one event, and substitutes one type. -/
def scrollOwner : Owner where
  resolver := { substitutions := Table.ofList [("int", "number")] }
  events := [{ name := "scroll", payloadType := "ScrollEventArgs" }]

/-- A subscription with a description of several lines, which need not be given a
    callback. -/
def optionalAttach : Api.Method where
  name := "attachScroll"
  description := "Calls back when scrolled.\nOnce per frame."
  parameters :=
    [{ name := "fnFunction", type := "function", isOptional := true, description := "called back" },
      { name := "iDelay", type := "int", description := "in milliseconds" }]
  returnValue := some { type := "int", description := "the number of callbacks" }

/-- The return value has a place in the variant that leaves the callback out. -/
theorem isLine_scrollVariants :
    (variants scrollOwner optionalAttach {}).map docLines =
        [["Calls back when scrolled.", "Once per frame.",
            "@param \x7bnumber\x7d iDelay in milliseconds",
            "@returns \x7bnumber\x7d the number of callbacks"],
          ["Calls back when scrolled.", "Once per frame.",
            "@param \x7b(this: this, oEvent: ScrollEventArgs) => void\x7d fnFunction called back",
            "@param \x7bnumber\x7d iDelay in milliseconds",
            "@returns \x7bthis\x7d"]] ∧
      ∀ m ∈ variants scrollOwner optionalAttach {}, ∀ line ∈ m.docLines, IsLine line := by
  refine ⟨by decide +kernel, ?_⟩
  have hiff := (isLine_variants_iff scrollOwner optionalAttach {} (by decide) (by decide)
    (by decide) (by decide)).1
  exact hiff.mpr ⟨by decide, fun _ => by decide⟩

/-- A method whose only parameter is described in two lines. -/
def twoLineMethod : Api.Method where
  name := "resize"
  parameters := [{ name := "iWidth", type := "int", description := "in pixels\nor in columns" }]

/-- A method can have documentation that does not consist of lines, though its names and
    types have no line feed. -/
theorem not_forall_isLine_docLines :
    ¬∀ (owner : Owner) (raw : Api.Method) (options : BuildOptions),
      (∀ p ∈ raw.parameters, IsLine p.name ∧ IsLine p.type) →
      (∀ v ∈ raw.returnValue, IsLine v.type) → owner.resolver.SubstitutesLines →
      (∀ e ∈ owner.events, IsLine e.payloadType) →
        ∀ m ∈ variants owner raw options, ∀ line ∈ m.docLines, IsLine line := by
  intro h
  have hlines := h { resolver := {} } twoLineMethod {} (by decide) (by decide) (by decide)
    (by decide)
  exact absurd hlines (by decide +kernel)

end Example

end Method

end Typings
