import Typings.Proofs.Emit.EnumFiles
import Typings.Proofs.Emit.ImportBlocks
import Typings.Proofs.Text.Pieces

/-!
# Braces

The blocks of a file are told by its braces, and most of a file is text that comes from
somewhere else: names, types, signatures, documentation. If each of these is balanced by
itself, so is the file, since the braces that are written around them belong to blocks, and
these are closed where they should be.

Only the braces of a text count. Spaces and line feeds have none, so they can be taken away
or put in anywhere, and neither does what keeps a comment open. A description is a text of
its own even though it is written line by line: a line of it need not be balanced, but
all its lines together have the braces of the description, in the same order.

## Main definitions

* `Text.IsBalanced`: A text in which every brace is closed, and none before it is opened.
* `Text.braces`: The braces of a text.
* `linesBraces`, `AreBalanced`: The braces of lines, and lines that are balanced as a whole.
* `Opens`, `Closes`: The first and the last line of a block.
* `Item.embedded`, `AllBalanced`: The texts that an item brings along, and texts that are
  balanced.

## Theorems

* `Text.isBalanced_braces_iff`: A text is as balanced as its braces.
* `Text.IsBalanced.append`, `Text.IsBalanced.enclose`: Balanced texts next to each other
  and inside of braces.
* `Text.flatMap_braces_lines`: The lines of a text have the braces of the text.
* `braces_renderLines`: A file has the braces of its lines.
* `AreBalanced.block`, `AreBalanced.flatMap`, `AreBalanced.separated`: Balanced parts make
  up a balanced whole.
* `isBalanced_text`: The file for an item is balanced if the texts embedded in it are.
-/

namespace Typings

namespace Text

/-- A text in which every brace is closed, and no brace is closed before it is opened. -/
structure IsBalanced (text : List Char) : Prop where
  before : ∀ start, start <+: text → start.count '\x7d' ≤ start.count '\x7b'
  total : text.count '\x7d' = text.count '\x7b'

/-- Every start of a text is looked at, so this can be computed. -/
instance (text : List Char) : Decidable (IsBalanced text) :=
  decidable_of_iff ((∀ start ∈ text.inits, start.count '\x7d' ≤ start.count '\x7b') ∧
      text.count '\x7d' = text.count '\x7b')
    ⟨fun h => ⟨fun start hstart => h.1 start ((List.mem_inits start text).mpr hstart), h.2⟩,
      fun h => ⟨fun start hstart => h.before start ((List.mem_inits start text).mp hstart),
        h.total⟩⟩

/-- The two braces. -/
def isBrace (c : Char) : Bool :=
  c = '\x7b' || c = '\x7d'

/-- The braces of a text. -/
def braces (text : List Char) : List Char :=
  text.filter isBrace

theorem braces_append (first second : List Char) :
    braces (first ++ second) = braces first ++ braces second :=
  List.filter_append ..

theorem braces_flatMap {α : Type} (f : α → List Char) (items : List α) :
    braces (items.flatMap f) = items.flatMap fun a => braces (f a) :=
  List.filter_flatMap

theorem braces_eq_nil {text : List Char} (h : ∀ c ∈ text, isBrace c = false) :
    braces text = [] :=
  List.filter_eq_nil_iff.mpr fun c hc => Bool.eq_false_iff.mp (h c hc)

/-- What is dropped from the end has no part in the braces, if it is none itself. -/
theorem braces_rdropWhile (p : Char → Bool) (hp : ∀ c, p c = true → isBrace c = false)
    (text : List Char) : braces (text.rdropWhile p) = braces text := by
  induction text using List.reverseRecOn with
  | nil => rfl
  | append_singleton text c ih =>
      by_cases hc : p c = true
      · have hnone : braces [c] = [] :=
          braces_eq_nil fun d hd => hp d (List.mem_singleton.mp hd ▸ hc)
        rw [List.rdropWhile_concat_pos p text c hc, ih, braces_append, hnone, List.append_nil]
      · rw [List.rdropWhile_concat_neg p text c hc]

/-- A text is as balanced as its braces. -/
theorem isBalanced_braces_iff (text : List Char) : IsBalanced (braces text) ↔ IsBalanced text := by
  -- Counting braces does not see what is left out.
  have hopen : ∀ part, (braces part).count '\x7b' = part.count '\x7b' := fun _ =>
    List.count_filter rfl
  have hclose : ∀ part, (braces part).count '\x7d' = part.count '\x7d' := fun _ =>
    List.count_filter rfl
  constructor
  · refine fun h => ⟨fun start hstart => ?_, ?_⟩
    · have hle := h.before (braces start) (hstart.filter isBrace)
      rwa [hopen, hclose] at hle
    · rw [← hopen, ← hclose]
      exact h.total
  · refine fun h => ⟨fun start hstart => ?_, ?_⟩
    · -- A start of the braces comes from a start of the text.
      rcases List.prefix_filter_iff.mp hstart with ⟨part, hpart, rfl⟩
      exact (hclose part).trans_le ((h.before part hpart).trans_eq (hopen part).symm)
    · rw [hopen, hclose]
      exact h.total

namespace IsBalanced

theorem nil : IsBalanced [] := by
  decide

variable {first second : List Char}

/-- Balanced texts next to each other are balanced: the second starts with no brace left
    open. -/
theorem append (hfirst : IsBalanced first) (hsecond : IsBalanced second) :
    IsBalanced (first ++ second) := by
  refine ⟨fun start hstart => ?_, ?_⟩
  · rcases List.prefix_or_prefix_of_prefix hstart (List.prefix_append first second) with
      hinside | ⟨rest, rfl⟩
    · exact hfirst.before start hinside
    · -- What is added of the second text closes no brace that it has not opened.
      have hrest := hsecond.before rest ((List.prefix_append_right_inj first).mp hstart)
      rw [List.count_append, List.count_append, hfirst.total]
      exact Nat.add_le_add_left hrest _
  · rw [List.count_append, List.count_append, hfirst.total, hsecond.total]

/-- A balanced text inside of braces is balanced. -/
theorem enclose (h : IsBalanced first) : IsBalanced ('\x7b' :: first ++ ['\x7d']) := by
  have hopen : ∀ part : List Char, ('\x7b' :: part).count '\x7b' = part.count '\x7b' + 1 :=
    fun part => List.count_cons_self
  have hclose : ∀ part : List Char, ('\x7b' :: part).count '\x7d' = part.count '\x7d' :=
    fun part => List.count_cons_of_ne (by decide)
  have htotal : ('\x7b' :: first ++ ['\x7d']).count '\x7d' =
      ('\x7b' :: first ++ ['\x7d']).count '\x7b' := by
    rw [List.count_append, List.count_append, hopen, hclose, h.total]
    rfl
  refine ⟨fun start hstart => ?_, htotal⟩
  -- A start is everything, or nothing, or the brace that is opened and a start of the text.
  rcases List.prefix_concat_iff.mp hstart with rfl | hstart
  · exact htotal.le
  · rcases List.prefix_cons_iff.mp hstart with rfl | ⟨rest, rfl, hrest⟩
    · exact Nat.le_refl _
    · have hle := h.before rest hrest
      rw [hopen, hclose]
      exact Nat.le_succ_of_le hle

theorem flatMap {α : Type} {f : α → List Char} {items : List α}
    (h : ∀ a ∈ items, IsBalanced (f a)) : IsBalanced (items.flatMap f) := by
  induction items with
  | nil => exact nil
  | cons a rest ih =>
      exact (h a List.mem_cons_self).append (ih fun b hb => h b (List.mem_cons_of_mem a hb))

end IsBalanced

theorem isBalanced_append (a b : String) (ha : IsBalanced a.toList) (hb : IsBalanced b.toList) :
    IsBalanced (a ++ b).toList := by
  rw [String.toList_append]
  exact ha.append hb

theorem isBalanced_join (separator : String) (pieces : List String)
    (hseparator : IsBalanced separator.toList) (hpieces : ∀ p ∈ pieces, IsBalanced p.toList) :
    IsBalanced (join separator pieces).toList := by
  rcases pieces with _ | ⟨piece, rest⟩
  · exact IsBalanced.nil
  · rw [List.forall_mem_cons] at hpieces
    rw [toList_join_cons]
    exact hpieces.1.append (.flatMap fun p hp => hseparator.append (hpieces.2 p hp))

theorem flatMap_braces_splitChars (isSeparator : Char → Bool)
    (hseparator : ∀ c, isSeparator c = true → isBrace c = false) (cs : List Char) :
    (splitChars isSeparator cs).flatMap braces = braces cs := by
  induction cs with
  | nil => rfl
  | cons c rest ih =>
      by_cases hc : isSeparator c = true
      · have hnone : braces (c :: rest) = braces rest :=
          List.filter_cons_of_neg (Bool.eq_false_iff.mp (hseparator c hc))
        rw [splitChars, if_pos hc, List.flatMap_cons, ih, hnone]
        rfl
      · -- Any other character is put in front of the first piece.
        rcases hpieces : splitChars isSeparator rest with _ | ⟨piece, pieces⟩
        · exact absurd hpieces (splitChars_ne_nil isSeparator rest)
        · rw [hpieces, List.flatMap_cons] at ih
          have hcons : ∀ part, braces (c :: part) = braces [c] ++ braces part :=
            braces_append [c]
          simp only [splitChars, if_neg hc, hpieces, List.flatMap_cons]
          rw [hcons, hcons rest, List.append_assoc, ih]

theorem braces_dropReturn (line : List Char) : braces (dropReturn line) = braces line := by
  rw [dropReturn]
  split
  · next rest hline =>
      rw [← List.reverse_reverse line, hline, List.reverse_cons, braces_append]
      exact (List.append_nil _).symm
  · rfl

theorem flatMap_braces_linesOfPieces (pieces : List (List Char)) :
    (linesOfPieces pieces).flatMap braces = pieces.flatMap braces := by
  rcases List.eq_nil_or_concat' pieces with rfl | ⟨pieces, last, rfl⟩
  · rfl
  · -- An empty last line is no line, and has no braces either.
    have hlast : (if last.isEmpty then [] else [last]).flatMap braces = [last].flatMap braces := by
      split
      · next hempty =>
          rw [List.isEmpty_iff.mp hempty]
          rfl
      · rfl
    rw [linesOfPieces_concat, List.flatMap_append, List.flatMap_append, hlast, List.flatMap_map]
    simp only [braces_dropReturn]

/-- The lines of a text have the braces of the text. -/
theorem flatMap_braces_lines (text : String) :
    ((lines text).flatMap fun line => braces line.toList) = braces text.toList := by
  have hfeed : ∀ c, decide (c = '\n') = true → isBrace c = false := by
    intro c hc
    rw [of_decide_eq_true hc]
    rfl
  rw [lines, List.flatMap_map]
  simp only [String.toList_ofList]
  rw [flatMap_braces_linesOfPieces, flatMap_braces_splitChars _ hfeed]

end Text

open Text (IsBalanced braces braces_append isBalanced_append)

namespace Emit

theorem braces_guardComment (text : List Char) : braces (guardComment text) = braces text := by
  -- A backslash is put between two characters, neither of which is a brace.
  have hcons : ∀ c part, braces (c :: part) = braces [c] ++ braces part := fun c =>
    braces_append [c]
  fun_induction guardComment text with
  | case1 rest ih => exact ih
  | case2 c rest _ ih => rw [hcons, ih, ← hcons]
  | case3 => rfl

section Lines

/-- The braces of lines. -/
def linesBraces (lines : List Line) : List Char :=
  lines.flatMap fun l => braces l.text.toList

theorem linesBraces_append (first second : List Line) :
    linesBraces (first ++ second) = linesBraces first ++ linesBraces second :=
  List.flatMap_append

theorem linesBraces_deeper (lines : List Line) :
    linesBraces (lines.map Line.deeper) = linesBraces lines := by
  rw [linesBraces, List.flatMap_map]
  rfl

theorem linesBraces_flat (text : String) : linesBraces [Line.flat text] = braces text.toList :=
  List.flatMap_singleton ..

/-- Neither its indentation nor its end add braces to a line. -/
theorem braces_rendered (l : Line) : braces l.rendered = braces l.text.toList := by
  have hspace : ∀ c, decide (c = ' ') = true → Text.isBrace c = false := by
    intro c hc
    rw [of_decide_eq_true hc]
    rfl
  have hindent : braces l.indent.toList = [] := by
    rw [Line.indent, String.toList_ofList]
    exact Text.braces_eq_nil fun c hc => hspace c (decide_eq_true (List.eq_of_mem_replicate hc))
  rw [Line.rendered, braces_append, Text.braces_rdropWhile _ hspace, braces_append, hindent]
  exact List.append_nil _

/-- A file has the braces of its lines. -/
theorem braces_renderLines (lines : List Line) :
    braces (renderLines lines).toList = linesBraces lines := by
  rw [toList_renderLines, Text.braces_flatMap]
  exact List.flatMap_congr fun l _ => braces_rendered l

/-- Lines that are balanced as a whole. -/
def AreBalanced (lines : List Line) : Prop :=
  IsBalanced (linesBraces lines)

/-- The first line of a block: at its end a brace is left open. -/
def Opens (text : String) : Prop :=
  ∃ front, IsBalanced front ∧ braces text.toList = front ++ ['\x7b']

/-- The last line of a block: a brace is closed at its beginning. -/
def Closes (text : String) : Prop :=
  ∃ rest, IsBalanced rest ∧ braces text.toList = '\x7d' :: rest

theorem opens_append (text last : String) (htext : IsBalanced text.toList) (hlast : Opens last) :
    Opens (text ++ last) := by
  rcases hlast with ⟨front, hfront, hbraces⟩
  refine ⟨braces text.toList ++ front, ?_, ?_⟩
  · exact ((Text.isBalanced_braces_iff _).mpr htext).append hfront
  · rw [String.toList_append, braces_append, hbraces, List.append_assoc]

theorem opens_brace : Opens " \x7b" :=
  ⟨[], IsBalanced.nil, rfl⟩

theorem closes_brace : Closes "\x7d" :=
  ⟨[], IsBalanced.nil, rfl⟩

namespace AreBalanced

theorem nil : AreBalanced [] :=
  IsBalanced.nil

theorem flat {text : String} (h : IsBalanced text.toList) : AreBalanced [Line.flat text] := by
  rw [AreBalanced, linesBraces_flat, Text.isBalanced_braces_iff]
  exact h

theorem blank : AreBalanced [Line.blank] :=
  flat IsBalanced.nil

variable {lines more : List Line}

theorem append (h : AreBalanced lines) (h' : AreBalanced more) : AreBalanced (lines ++ more) := by
  rw [AreBalanced, linesBraces_append]
  exact IsBalanced.append h h'

theorem block {head tail : String} (hhead : Opens head) (htail : Closes tail)
    (h : AreBalanced lines) : AreBalanced (block head lines tail) := by
  rcases hhead with ⟨front, hfront, hhead⟩
  rcases htail with ⟨rest, hrest, htail⟩
  -- The braces at the ends of the two lines enclose those of the body.
  have hbraces : linesBraces (Emit.block head lines tail) =
      front ++ ('\x7b' :: linesBraces lines ++ ['\x7d']) ++ rest := by
    rw [Emit.block, ← List.singleton_append, linesBraces_append, linesBraces_append,
      linesBraces_flat, linesBraces_flat, linesBraces_deeper, hhead, htail]
    simp only [List.append_assoc, List.cons_append, List.nil_append]
  rw [AreBalanced, hbraces]
  exact (hfront.append (IsBalanced.enclose h)).append hrest

theorem flatMap {α : Type} {f : α → List Line} {items : List α}
    (h : ∀ a ∈ items, AreBalanced (f a)) : AreBalanced (items.flatMap f) := by
  rw [AreBalanced, linesBraces, List.flatMap_assoc]
  exact IsBalanced.flatMap h

theorem map {α : Type} {f : α → Line} {items : List α} (h : ∀ a ∈ items, AreBalanced [f a]) :
    AreBalanced (items.map f) := by
  rw [← List.flatMap_singleton' (items.map f), List.flatMap_map]
  exact flatMap h

theorem separated {groups : List (List Line)} (h : ∀ group ∈ groups, AreBalanced group) :
    AreBalanced (separated groups) := by
  induction groups with
  | nil => exact nil
  | cons first rest ih =>
      rw [List.forall_mem_cons] at h
      rcases rest with _ | ⟨second, rest⟩
      · exact h.1
      · exact h.1.append (blank.append (ih h.2))

end AreBalanced

/-- A comment is balanced if its lines are as a whole. -/
theorem areBalanced_docComment {lines : List String}
    (h : IsBalanced (lines.flatMap fun line => braces line.toList)) :
    AreBalanced (docComment lines) := by
  -- The star in front of a line and what guards the comment are no braces.
  have hline : ∀ line, braces (docLine line).text.toList = braces line.toList := by
    intro line
    rw [docLine, Line.flat, String.toList_append, braces_append]
    simp only [String.toList_ofList]
    exact braces_guardComment line.toList
  have hlines : AreBalanced (lines.map docLine) := by
    rw [AreBalanced, linesBraces, List.flatMap_map]
    simp only [hline]
    exact h
  rw [docComment]
  split
  · exact .nil
  · exact (AreBalanced.append (.flat (by decide)) hlines).append (.flat (by decide))

theorem areBalanced_docComment_of_forall {lines : List String}
    (h : ∀ line ∈ lines, IsBalanced line.toList) : AreBalanced (docComment lines) :=
  areBalanced_docComment (.flatMap fun line hline =>
    (Text.isBalanced_braces_iff _).mpr (h line hline))

theorem areBalanced_describe {description : String} (h : IsBalanced description.toList) :
    AreBalanced (describe description) := by
  refine areBalanced_docComment ?_
  rw [Text.flatMap_braces_lines, Text.isBalanced_braces_iff]
  exact h

end Lines

end Emit

section Embedded

/-- The texts that a method brings along. -/
def MethodDeclaration.embedded (m : MethodDeclaration) : List String :=
  m.signature :: m.doc

/-- The texts that a parameter of an event brings along. -/
def Parameter.embedded (p : Parameter) : List String :=
  [p.name, p.type, p.description]

/-- The texts that the payload of an event brings along. -/
def EventDeclaration.embedded (e : EventDeclaration) : List String :=
  e.payloadType :: e.description :: e.parameters.flatMap Parameter.embedded

/-- The texts that a setting brings along. -/
def Setting.embedded (s : Setting) : List String :=
  [s.name, s.type, s.description] ++ s.defaultValue.toList

/-- The texts that the settings of a class bring along. -/
def SettingsInterface.embedded (s : SettingsInterface) : List String :=
  s.name :: s.base.toList ++ s.properties.flatMap Setting.embedded

/-- The texts that an import brings along. -/
def TypeImport.embedded (i : TypeImport) : List String :=
  [i.name, i.module]

/-- The texts that a class or an interface brings along. -/
def ClassDeclaration.embedded (d : ClassDeclaration) : List String :=
  [Emit.moduleOrName d.module d.qualifiedName, d.name, d.description] ++ d.baseClass.toList ++
    (Emit.outsideImports (Emit.moduleOrName d.module d.qualifiedName) d.imports).flatMap
      TypeImport.embedded ++
    d.events.flatMap EventDeclaration.embedded ++
    d.settings.toList.flatMap SettingsInterface.embedded ++
    (d.constructors ++ d.methods).flatMap MethodDeclaration.embedded

/-- The texts that a field of a namespace brings along. -/
def NamespaceProperty.embedded (p : NamespaceProperty) : List String :=
  [p.name, p.type, p.description]

/-- The texts that a namespace brings along. -/
def NamespaceDeclaration.embedded (d : NamespaceDeclaration) : List String :=
  [Emit.moduleOrName d.module d.qualifiedName, d.name, d.description] ++
    (Emit.outsideImports (Emit.moduleOrName d.module d.qualifiedName) d.imports).flatMap
      TypeImport.embedded ++
    d.properties.flatMap NamespaceProperty.embedded ++
    d.functions.flatMap MethodDeclaration.embedded

/-- The texts that a member of an enum brings along. -/
def EnumMember.embedded (m : EnumMember) : List String :=
  [m.render, m.description]

/-- The texts that an enum brings along. -/
def EnumDeclaration.embedded (d : EnumDeclaration) : List String :=
  [d.emittedModule, d.name, d.description] ++ d.members.flatMap EnumMember.embedded

/-- The texts that an item brings along. -/
def Emit.Item.embedded : Emit.Item → List String
  | .enums _ declarations => declarations.flatMap EnumDeclaration.embedded
  | .interface d => d.embedded
  | .class d => d.embedded
  | .namespace d => d.embedded

end Embedded

namespace Emit

/-- Texts that are balanced, each by itself. -/
def AllBalanced (texts : List String) : Prop :=
  ∀ text ∈ texts, IsBalanced text.toList

instance (texts : List String) : Decidable (AllBalanced texts) :=
  inferInstanceAs (Decidable (∀ text ∈ texts, IsBalanced text.toList))

namespace AllBalanced

theorem cons_iff (text : String) (rest : List String) :
    AllBalanced (text :: rest) ↔ IsBalanced text.toList ∧ AllBalanced rest :=
  List.forall_mem_cons

theorem append_iff (first second : List String) :
    AllBalanced (first ++ second) ↔ AllBalanced first ∧ AllBalanced second :=
  List.forall_mem_append

theorem flatMap_iff {α : Type} (f : α → List String) (items : List α) :
    AllBalanced (items.flatMap f) ↔ ∀ a ∈ items, AllBalanced (f a) := by
  simp only [AllBalanced, List.mem_flatMap]
  exact ⟨fun h a ha text htext => h text ⟨a, ha, htext⟩,
    fun h text ⟨a, ha, htext⟩ => h a ha text htext⟩

end AllBalanced

section Parts

theorem areBalanced_enumMember (m : EnumMember) (h : AllBalanced m.embedded) :
    AreBalanced (enumMember m) := by
  simp only [EnumMember.embedded, AllBalanced.cons_iff] at h
  rcases h with ⟨hrender, hdescription, -⟩
  exact (areBalanced_describe hdescription).append
    (.flat (isBalanced_append _ _ hrender (by decide)))

theorem areBalanced_enumBlock (d : EnumDeclaration) (h : AllBalanced d.embedded) :
    AreBalanced (enumBlock d) := by
  simp only [EnumDeclaration.embedded, AllBalanced.append_iff, AllBalanced.cons_iff,
    AllBalanced.flatMap_iff] at h
  rcases h with ⟨⟨-, hname, hdescription, -⟩, hmembers⟩
  have hhead := opens_append _ _ (isBalanced_append "export enum " _ (by decide) hname) opens_brace
  exact (areBalanced_describe hdescription).append
    (.block hhead closes_brace (.flatMap fun m hm => areBalanced_enumMember m (hmembers m hm)))

theorem areBalanced_member (m : MethodDeclaration) (h : AllBalanced m.embedded) :
    AreBalanced (member m) := by
  simp only [MethodDeclaration.embedded, AllBalanced.cons_iff] at h
  exact (areBalanced_docComment_of_forall h.2).append
    (.flat (isBalanced_append _ _ h.1 (by decide)))

theorem areBalanced_payloadParameters (e : EventDeclaration)
    (h : ∀ p ∈ e.parameters, AllBalanced p.embedded) : AreBalanced (payloadParameters e) := by
  have hhead : Opens "getParameters(): \x7b" := ⟨[], .nil, rfl⟩
  have htail : Closes "\x7d;" := ⟨[], .nil, rfl⟩
  rw [payloadParameters]
  split
  · exact .flat (by decide)
  · refine .block hhead htail (.map fun p hp => .flat ?_)
    have hp := h p hp
    simp only [Parameter.embedded, AllBalanced.cons_iff] at hp
    have hfield := isBalanced_append _ ": " hp.1 (by decide)
    exact isBalanced_append _ _ (isBalanced_append _ _ hfield hp.2.1) (by decide)

theorem areBalanced_payloadParameter (p : Parameter) (h : AllBalanced p.embedded) :
    AreBalanced (payloadParameter p) := by
  simp only [Parameter.embedded, AllBalanced.cons_iff] at h
  rcases h with ⟨hname, htype, hdescription, -⟩
  have hkey := isBalanced_append _ "\"): "
    (isBalanced_append "getParameter(sName: \"" _ (by decide) hname) (by decide)
  exact (areBalanced_describe hdescription).append
    (.flat (isBalanced_append _ _ (isBalanced_append _ _ hkey htype) (by decide)))

theorem areBalanced_payloadBlock (sourceType : String) (e : EventDeclaration)
    (hsource : IsBalanced sourceType.toList) (h : AllBalanced e.embedded) :
    AreBalanced (payloadBlock sourceType e) := by
  simp only [EventDeclaration.embedded, AllBalanced.cons_iff, AllBalanced.flatMap_iff] at h
  rcases h with ⟨htype, hdescription, hparameters⟩
  have hhead := opens_append _ _ (isBalanced_append "export interface " _ (by decide) htype)
    opens_brace
  have hgetter : AreBalanced [Line.flat ("getSource(): " ++ sourceType ++ ";")] :=
    .flat (isBalanced_append _ _ (isBalanced_append _ _ (by decide) hsource) (by decide))
  have hfields : AreBalanced (e.parameters.flatMap payloadParameter) :=
    .flatMap fun p hp => areBalanced_payloadParameter p (hparameters p hp)
  exact (areBalanced_describe hdescription).append (.block hhead closes_brace
    ((hgetter.append (areBalanced_payloadParameters e hparameters)).append hfields))

theorem isBalanced_extendsClause (base : Option String) (h : AllBalanced base.toList) :
    IsBalanced (extendsClause base).toList := by
  cases base with
  | none => exact .nil
  | some base =>
      rw [Option.toList_some, AllBalanced.cons_iff] at h
      exact isBalanced_append _ _ (by decide) h.1

theorem areBalanced_settingLines (s : Setting) (h : AllBalanced s.embedded) :
    AreBalanced (settingLines s) := by
  simp only [Setting.embedded, AllBalanced.append_iff, AllBalanced.cons_iff] at h
  rcases h with ⟨⟨hname, htype, hdescription, -⟩, hdefault⟩
  have hdoc : AreBalanced (docComment (Text.lines s.description ++
      s.defaultValue.toList.map fun value => "@default " ++ value)) := by
    refine areBalanced_docComment ?_
    rw [List.flatMap_append, Text.flatMap_braces_lines, List.flatMap_map]
    -- The description is balanced as a whole, and each default by itself.
    refine ((Text.isBalanced_braces_iff _).mpr hdescription).append ?_
    refine .flatMap fun value hvalue => ?_
    rw [Text.isBalanced_braces_iff]
    exact isBalanced_append _ _ (by decide) (hdefault value hvalue)
  have hfield := isBalanced_append _ "?: " hname (by decide)
  exact hdoc.append
    (.flat (isBalanced_append _ _ (isBalanced_append _ _ hfield htype) (by decide)))

theorem areBalanced_settingsBlock (s : SettingsInterface) (h : AllBalanced s.embedded) :
    AreBalanced (settingsBlock s) := by
  simp only [SettingsInterface.embedded, AllBalanced.append_iff, AllBalanced.cons_iff,
    List.cons_append, AllBalanced.flatMap_iff] at h
  rcases h with ⟨hname, hbase, hproperties⟩
  have hhead := isBalanced_append _ _ (isBalanced_append "export interface " _ (by decide) hname)
    (isBalanced_extendsClause s.base hbase)
  exact .block (opens_append _ _ hhead opens_brace) closes_brace
    (.flatMap fun p hp => areBalanced_settingLines p (hproperties p hp))

theorem areBalanced_importLines (module : String) (imports : List TypeImport)
    (h : ∀ i ∈ outsideImports module imports, AllBalanced i.embedded) :
    AreBalanced (importLines module imports) := by
  have hname : ∀ i ∈ outsideImports module imports, IsBalanced i.name.toList := fun i hi =>
    h i hi i.name List.mem_cons_self
  have hmodule : ∀ i ∈ outsideImports module imports, IsBalanced i.module.toList := fun i hi =>
    h i hi i.module (List.mem_cons_of_mem _ List.mem_cons_self)
  have hline : ∀ source ∈ importedModules (outsideImports module imports),
      AreBalanced [importLine (source, importedNames (outsideImports module imports) source)] := by
    intro source hsource
    rw [importedModules, Text.mem_sort, addAllNew_nil, List.mem_eraseDups, List.mem_map] at hsource
    rcases hsource with ⟨i, hi, rfl⟩
    have hnames : IsBalanced (Text.join ", "
        (importedNames (outsideImports module imports) i.module)).toList := by
      refine Text.isBalanced_join _ _ (by decide) fun name hmem => ?_
      rw [importedNames, Text.mem_sort, addAllNew_nil, List.mem_eraseDups, List.mem_map] at hmem
      rcases hmem with ⟨j, hj, rfl⟩
      exact hname j (List.mem_of_mem_filter hj)
    -- The braces around the names are those of the line itself.
    have hopen : braces "import \x7b ".toList = ['\x7b'] := rfl
    have hclose : braces " \x7d from \"".toList = ['\x7d'] := rfl
    have hend : braces "\";".toList = [] := rfl
    rw [AreBalanced, importLine, linesBraces_flat]
    simp only [String.toList_append, braces_append, hopen, hclose, hend, List.append_nil]
    exact (IsBalanced.enclose ((Text.isBalanced_braces_iff _).mpr hnames)).append
      ((Text.isBalanced_braces_iff _).mpr (hmodule i hi))
  rw [importLines]
  split
  · exact .nil
  · exact (AreBalanced.map hline).append .blank

theorem areBalanced_classBlock (kind : ClassKind) (d : ClassDeclaration)
    (h : AllBalanced d.embedded) : AreBalanced (classBlock kind d) := by
  simp only [ClassDeclaration.embedded, AllBalanced.append_iff, AllBalanced.cons_iff,
    AllBalanced.flatMap_iff] at h
  rcases h with ⟨⟨⟨⟨⟨⟨-, hname, hdescription, -⟩, hbase⟩, -⟩, -⟩, -⟩, hmembers⟩
  have hkeyword : IsBalanced ("export " ++ kind.name ++ " ").toList := by
    cases kind <;> decide
  have hhead := isBalanced_append _ _ (isBalanced_append _ _ hkeyword hname)
    (isBalanced_extendsClause d.baseClass hbase)
  exact (areBalanced_describe hdescription).append (.block (opens_append _ _ hhead opens_brace)
    closes_brace (.flatMap fun m hm => areBalanced_member m (hmembers m hm)))

theorem areBalanced_namespaceProperty (p : NamespaceProperty) (h : AllBalanced p.embedded) :
    AreBalanced (namespaceProperty p) := by
  simp only [NamespaceProperty.embedded, AllBalanced.cons_iff] at h
  rcases h with ⟨hname, htype, hdescription, -⟩
  have hfield := isBalanced_append _ ": "
    (isBalanced_append "export const " _ (by decide) hname) (by decide)
  exact (areBalanced_describe hdescription).append
    (.flat (isBalanced_append _ _ (isBalanced_append _ _ hfield htype) (by decide)))

theorem areBalanced_namespaceFunction (f : MethodDeclaration) (h : AllBalanced f.embedded) :
    AreBalanced (namespaceFunction f) := by
  simp only [MethodDeclaration.embedded, AllBalanced.cons_iff] at h
  have hhead := isBalanced_append "export function " _ (by decide) h.1
  exact (areBalanced_docComment_of_forall h.2).append
    (.flat (isBalanced_append _ _ hhead (by decide)))

end Parts

section Files

theorem isBalanced_renderLines {lines : List Line} (h : AreBalanced lines) :
    IsBalanced (renderLines lines).toList := by
  rw [← Text.isBalanced_braces_iff, braces_renderLines]
  exact h

theorem areBalanced_moduleBlock (module : String) {body : List Line}
    (hmodule : IsBalanced module.toList) (hbody : AreBalanced body) :
    AreBalanced (moduleBlock module body) := by
  have hhead : Opens ("declare module \"" ++ module ++ "\" \x7b") :=
    opens_append _ _ (isBalanced_append _ _ (by decide) hmodule) ⟨[], .nil, rfl⟩
  exact .block hhead closes_brace hbody

theorem isBalanced_enumsText (ds : List EnumDeclaration)
    (h : ∀ d ∈ ds, AllBalanced d.embedded) : IsBalanced (enumsText ds).toList := by
  rw [enumsText_eq_renderLines]
  refine isBalanced_renderLines (.separated fun lines hlines => ?_)
  rcases List.mem_map.mp hlines with ⟨module, hmodule, rfl⟩
  -- A module is there because of one of its enums, and that brings its name along.
  rw [List.mem_eraseDups, List.mem_map] at hmodule
  rcases hmodule with ⟨d, hd, rfl⟩
  refine areBalanced_moduleBlock _ (h d hd _ List.mem_cons_self) (.separated fun lines hlines => ?_)
  rcases List.mem_map.mp hlines with ⟨member, hmember, rfl⟩
  exact areBalanced_enumBlock member (h member (List.mem_of_mem_filter hmember))

theorem isBalanced_classText (kind : ClassKind) (d : ClassDeclaration)
    (h : AllBalanced d.embedded) : IsBalanced (classText kind d).toList := by
  have hblock := areBalanced_classBlock kind d h
  simp only [ClassDeclaration.embedded, AllBalanced.append_iff, AllBalanced.cons_iff,
    AllBalanced.flatMap_iff] at h
  rcases h with ⟨⟨⟨⟨⟨⟨hmodule, hname, -, -⟩, -⟩, himports⟩, hevents⟩, hsettings⟩, -⟩
  have hpayloads : AreBalanced (d.events.flatMap fun e => payloadBlock d.name e ++ [Line.blank]) :=
    .flatMap fun e he => (areBalanced_payloadBlock d.name e hname (hevents e he)).append .blank
  have hinterface : AreBalanced
      (d.settings.toList.flatMap fun s => settingsBlock s ++ [Line.blank]) :=
    .flatMap fun s hs => (areBalanced_settingsBlock s (hsettings s hs)).append .blank
  exact isBalanced_renderLines (areBalanced_moduleBlock _ hmodule
    ((((areBalanced_importLines _ _ himports).append hpayloads).append hinterface).append hblock))

theorem isBalanced_namespaceText (d : NamespaceDeclaration) (h : AllBalanced d.embedded) :
    IsBalanced (namespaceText d).toList := by
  simp only [NamespaceDeclaration.embedded, AllBalanced.append_iff, AllBalanced.cons_iff,
    AllBalanced.flatMap_iff] at h
  rcases h with ⟨⟨⟨⟨hmodule, hname, hdescription, -⟩, himports⟩, hproperties⟩, hfunctions⟩
  have hhead := opens_append _ _ (isBalanced_append "export namespace " _ (by decide) hname)
    opens_brace
  have hfields : AreBalanced (d.properties.flatMap namespaceProperty) :=
    .flatMap fun p hp => areBalanced_namespaceProperty p (hproperties p hp)
  have hmethods : AreBalanced (d.functions.flatMap namespaceFunction) :=
    .flatMap fun f hf => areBalanced_namespaceFunction f (hfunctions f hf)
  exact isBalanced_renderLines (areBalanced_moduleBlock _ hmodule
    (((areBalanced_importLines _ _ himports).append (areBalanced_describe hdescription)).append
      (.block hhead closes_brace (hfields.append hmethods))))

/-- The file for an item is balanced, if the texts embedded in it are. -/
theorem isBalanced_text (item : Item) (h : AllBalanced item.embedded) :
    IsBalanced item.text.toList := by
  cases item with
  | enums library ds => exact isBalanced_enumsText ds ((AllBalanced.flatMap_iff _ ds).mp h)
  | interface d => exact isBalanced_classText .interface d h
  | «class» d => exact isBalanced_classText .class d h
  | «namespace» d => exact isBalanced_namespaceText d h

end Files

end Emit

end Typings
