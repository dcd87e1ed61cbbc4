import Mathlib.Data.List.DropRight
import Mathlib.Data.List.Infix
import Typings.Emit.Item
import Typings.Proofs.Table

/-!
# What Files Export

A file is read by those that import from it. Of its text they see which modules it
declares, and which names these modules export. Everything else about a file is
either inside a declaration or a comment.

Lines are written one after the other, and each leaves the same characters
whatever was written before it: a line end takes the spaces of its own line away
and stops at the end of the one before. So the text of a list of lines is the
lines' own texts, and a line of the list can be found in it.

An item exports the declarations it is rendered from, each from its module, and
from a module named after it if it has none. The enums of a library are grouped by
module first, and no grouping loses one of them.

## Main definitions

* `Emit.Line.rendered`: The characters that a line leaves.
* `Emit.Publishes`: A text declares a module that exports a name.
* `Emit.Export`, `Emit.Item.exports`: What an item exports.

## Theorems

* `Emit.toList_renderLines`: A text is what its lines leave.
* `Emit.Publishes.infix_export`, `Emit.Publishes.infix_module`: What can be found in
  a text that exports a name.
* `Emit.get?_enumsByModule`: Every enum is in the group of its module.
* `Emit.publishes_of_mem_exports`: An item exports its declarations.
-/

namespace Typings

namespace Emit

section Lines

/-- The characters that a line leaves: itself without the spaces at its end, and a
    line feed. -/
def Line.rendered (l : Line) : List Char :=
  (l.indent.toList ++ l.text.toList).rdropWhile (· = ' ') ++ ['\n']

/-- A line that is written to the end of another leaves its own characters. -/
theorem reversed_writeLine (w : Writer) (l : Line)
    (hw : w.reversed.dropWhile (· = ' ') = w.reversed) :
    (w.writeLine l).reversed = l.rendered.reverse ++ w.reversed := by
  -- Either some of the line remains, or its end stops at that of the line before.
  have hline : ((l.indent.toList ++ l.text.toList).reverse ++ w.reversed).dropWhile (· = ' ') =
      ((l.indent.toList ++ l.text.toList).reverse.dropWhile (· = ' ')) ++ w.reversed := by
    rw [List.dropWhile_append]
    by_cases hblank : ((l.indent.toList ++ l.text.toList).reverse.dropWhile (· = ' ')).isEmpty = true
    · rw [if_pos hblank, hw, List.isEmpty_iff.mp hblank, List.nil_append]
    · rw [if_neg hblank]
  rw [Line.rendered, List.rdropWhile, List.reverse_append, List.reverse_reverse,
    List.reverse_singleton, List.singleton_append, List.cons_append, ← hline, Writer.writeLine,
    Writer.endLine, Writer.write, Writer.write, List.reverse_append, List.append_assoc]

theorem reversed_foldl_writeLine (lines : List Line) (w : Writer)
    (hw : w.reversed.dropWhile (· = ' ') = w.reversed) :
    (lines.foldl Writer.writeLine w).reversed =
      (lines.flatMap Line.rendered).reverse ++ w.reversed := by
  -- Behind a line there is its line feed, so the next one starts at a line end again.
  induction lines generalizing w with
  | nil => rfl
  | cons l rest ih =>
      have hline : (w.writeLine l).reversed.dropWhile (· = ' ') = (w.writeLine l).reversed := by
        rw [Writer.writeLine, Writer.endLine, List.dropWhile_cons_of_neg]
        decide
      rw [List.foldl_cons, ih _ hline, reversed_writeLine w l hw, List.flatMap_cons,
        List.reverse_append, List.append_assoc]

/-- A text is what its lines leave. -/
theorem toList_renderLines (lines : List Line) :
    (renderLines lines).toList = lines.flatMap Line.rendered := by
  rw [renderLines, Writer.output, String.toList_ofList, reversed_foldl_writeLine lines {} rfl,
    List.append_nil, List.reverse_reverse]

/-- A line that opens a block is found in the text of its list. -/
theorem infix_renderLines (lines : List Line) (l : Line) (hl : l ∈ lines) (start : List Char)
    (htext : l.text.toList = start ++ ['\x7b']) : l.text.toList <:+: (renderLines lines).toList := by
  rcases List.append_of_mem hl with ⟨before, after, rfl⟩
  have hrendered : l.rendered = l.indent.toList ++ l.text.toList ++ ['\n'] := by
    rw [Line.rendered, htext, ← List.append_assoc, List.rdropWhile_concat_neg]
    decide
  rw [toList_renderLines, List.flatMap_append, List.flatMap_cons, hrendered]
  refine ⟨before.flatMap Line.rendered ++ l.indent.toList,
    ['\n'] ++ after.flatMap Line.rendered, ?_⟩
  simp only [List.append_assoc]

end Lines

/-- The line that opens an exported declaration, which may say that it extends
    another. -/
def exportLine (keyword name : String) (base : Option String) : Line :=
  Line.flat ("export " ++ keyword ++ " " ++ name ++ extendsClause base ++ " \x7b")

theorem exportLine_none (keyword name : String) :
    exportLine keyword name none = Line.flat ("export " ++ keyword ++ " " ++ name ++ " \x7b") := by
  rw [exportLine, extendsClause, String.append_empty]

/-- A text declares a module, and in the block of that module there is a line that
    exports a name. -/
def Publishes (text keyword name module : String) : Prop :=
  ∃ (before inside rest after : List Line) (base : Option String),
    text = renderLines (before ++
      moduleBlock module (inside ++ exportLine keyword name base :: rest) ++ after)

namespace Publishes

variable {text keyword name module : String}

/-- The exported name is found behind its keyword. -/
theorem infix_export (h : Publishes text keyword name module) :
    ("export " ++ keyword ++ " " ++ name).toList <:+: text.toList := by
  rcases h with ⟨before, inside, rest, after, base, rfl⟩
  have hmem : (exportLine keyword name base).deeper ∈ before ++
      moduleBlock module (inside ++ exportLine keyword name base :: rest) ++ after := by
    refine List.mem_append_left _ (List.mem_append_right _ ?_)
    rw [moduleBlock, block]
    refine List.mem_append_left _ (List.mem_cons_of_mem _ (List.mem_map_of_mem ?_))
    exact List.mem_append_right _ List.mem_cons_self
  have htext : (exportLine keyword name base).deeper.text.toList =
      ("export " ++ keyword ++ " " ++ name).toList ++ (extendsClause base).toList ++ [' '] ++
        ['\x7b'] := by
    simp only [exportLine, Line.flat, Line.deeper, String.toList_append, List.append_assoc]
    rfl
  refine List.IsInfix.trans ?_ (infix_renderLines _ _ hmem _ htext)
  refine ⟨[], (extendsClause base).toList ++ [' '] ++ ['\x7b'], ?_⟩
  rw [htext]
  simp only [List.nil_append, List.append_assoc]

/-- The module is found behind the words that declare it. -/
theorem infix_module (h : Publishes text keyword name module) :
    ("declare module \"" ++ module ++ "\"").toList <:+: text.toList := by
  rcases h with ⟨before, inside, rest, after, base, rfl⟩
  have hmem : Line.flat ("declare module \"" ++ module ++ "\" \x7b") ∈ before ++
      moduleBlock module (inside ++ exportLine keyword name base :: rest) ++ after :=
    List.mem_append_left _ (List.mem_append_right _ List.mem_cons_self)
  have htext : (Line.flat ("declare module \"" ++ module ++ "\" \x7b")).text.toList =
      ("declare module \"" ++ module ++ "\"").toList ++ [' '] ++ ['\x7b'] := by
    simp only [Line.flat, String.toList_append, List.append_assoc]
    rfl
  refine List.IsInfix.trans ?_ (infix_renderLines _ _ hmem _ htext)
  refine ⟨[], [' '] ++ ['\x7b'], ?_⟩
  rw [htext]
  simp only [List.nil_append, List.append_assoc]

end Publishes

/-- A declaration that is exported: by which keyword, under which name, what its
    qualified name is, and the module that it belongs to. -/
structure Export where
  keyword : String
  name : String
  qualifiedName : String
  module : String
  deriving DecidableEq, Repr

/-- What an enum exports. -/
def Export.ofEnum (d : EnumDeclaration) : Export :=
  ⟨"enum", d.name, d.qualifiedName, d.module⟩

/-- What a class or an interface exports. -/
def Export.ofClass (kind : ClassKind) (d : ClassDeclaration) : Export :=
  ⟨kind.name, d.name, d.qualifiedName, d.module⟩

/-- What a namespace exports. -/
def Export.ofNamespace (d : NamespaceDeclaration) : Export :=
  ⟨"namespace", d.name, d.qualifiedName, d.module⟩

/-- What an item exports: the declarations it is rendered from. -/
def Item.exports : Item → List Export
  | .enums _ declarations => declarations.map Export.ofEnum
  | .interface d => [Export.ofClass .interface d]
  | .class d => [Export.ofClass .class d]
  | .namespace d => [Export.ofNamespace d]

section Enums

/-- Members of a list of lists are found between others. -/
theorem exists_separated (groups : List (List Line)) (lines : List Line) (hlines : lines ∈ groups) :
    ∃ before after, separated groups = before ++ lines ++ after := by
  induction groups with
  | nil => exact absurd hlines List.not_mem_nil
  | cons first rest ih =>
      cases rest with
      | nil =>
          rw [List.mem_singleton.mp hlines]
          exact ⟨[], [], (List.append_nil _).symm⟩
      | cons second more =>
          have hseparated : separated (first :: second :: more) =
              first ++ Line.blank :: separated (second :: more) := rfl
          rcases List.mem_cons.mp hlines with rfl | hrest
          · exact ⟨[], Line.blank :: separated (second :: more), hseparated⟩
          · rcases ih hrest with ⟨before, after, hsplit⟩
            refine ⟨first ++ Line.blank :: before, after, ?_⟩
            rw [hseparated, hsplit]
            simp only [List.append_assoc, List.cons_append]

/-- Every enum is in the group of its module. -/
theorem get?_enumsByModule (enums : List EnumDeclaration) (d : EnumDeclaration) (hd : d ∈ enums) :
    ∃ group, (enumsByModule enums).get? (moduleOrName d.module d.qualifiedName) = some group ∧
      d ∈ group := by
  -- A group only ever grows, so whoever is in it stays there.
  have hfold : ∀ (enums : List EnumDeclaration) (groups : Table (List EnumDeclaration)),
      (d ∈ enums ∨ ∃ group, groups.get? (moduleOrName d.module d.qualifiedName) = some group ∧
        d ∈ group) →
      ∃ group, (enums.foldl (fun groups d =>
          groups.put (moduleOrName d.module d.qualifiedName)
            ((groups.get? (moduleOrName d.module d.qualifiedName)).getD [] ++ [d])) groups).get?
          (moduleOrName d.module d.qualifiedName) = some group ∧ d ∈ group := by
    intro enums
    induction enums with
    | nil => exact fun groups h => h.resolve_left List.not_mem_nil
    | cons e rest ih =>
        intro groups h
        refine ih _ ?_
        by_cases hrest : d ∈ rest
        · exact Or.inl hrest
        · right
          rw [Table.get?_put]
          by_cases hmodule : moduleOrName d.module d.qualifiedName =
              moduleOrName e.module e.qualifiedName
          · rw [if_pos hmodule, ← hmodule]
            refine ⟨_, rfl, List.mem_append.mpr ?_⟩
            rcases h with hmem | ⟨group, hgroup, hmem⟩
            · exact Or.inr (List.mem_singleton.mpr ((List.mem_cons.mp hmem).resolve_right hrest))
            · left
              rwa [hgroup, Option.getD_some]
          · rw [if_neg hmodule]
            refine h.resolve_left fun hmem => hmodule ?_
            rw [(List.mem_cons.mp hmem).resolve_right hrest]
  exact hfold enums Table.empty (Or.inl hd)

/-- The file for the enums of a library exports each of them. -/
theorem publishes_enumsText (enums : List EnumDeclaration) (d : EnumDeclaration) (hd : d ∈ enums) :
    Publishes (enumsText enums) "enum" d.name (moduleOrName d.module d.qualifiedName) := by
  have htext : enumsText enums = renderLines (separated ((enumsByModule enums).entries.map
      fun entry => moduleBlock entry.1 (separated (entry.2.map enumBlock)))) := rfl
  rcases get?_enumsByModule enums d hd with ⟨group, hget, hmem⟩
  have hentry : (moduleOrName d.module d.qualifiedName, group) ∈ (enumsByModule enums).entries := by
    rcases List.lookup_eq_some_iff.mp hget with ⟨first, last, hentries, _⟩
    rw [hentries]
    exact List.mem_append_right _ List.mem_cons_self
  -- The block of the enum is one of its group, and that of the group one of the file.
  rcases exists_separated _ _ (List.mem_map_of_mem (f := enumBlock) hmem) with
    ⟨inside, rest, hgroup⟩
  rcases exists_separated _ _ (List.mem_map_of_mem
    (f := fun entry => moduleBlock entry.1 (separated (entry.2.map enumBlock))) hentry) with
    ⟨before, after, hfile⟩
  refine ⟨before, inside ++ describe d.description,
    (d.members.flatMap enumMember).map Line.deeper ++ [Line.flat "\x7d"] ++ rest, after, none, ?_⟩
  rw [htext, hfile, hgroup, enumBlock, block, exportLine_none]
  simp only [List.append_assoc, List.cons_append]
  rfl

end Enums

/-- The file for a class or an interface exports it. -/
theorem publishes_classText (kind : ClassKind) (d : ClassDeclaration) :
    Publishes (classText kind d) kind.name d.name (moduleOrName d.module d.qualifiedName) := by
  refine ⟨[], importLines (moduleOrName d.module d.qualifiedName) d.imports ++
      d.events.flatMap (fun e => payloadBlock d.name e ++ [Line.blank]) ++
      d.settings.toList.flatMap (fun s => settingsBlock s ++ [Line.blank]) ++
      describe d.description,
    ((d.constructors ++ d.methods).flatMap member).map Line.deeper ++ [Line.flat "\x7d"], [],
    d.baseClass, ?_⟩
  rw [List.nil_append, List.append_nil, classText, classBlock, block, exportLine]
  simp only [List.append_assoc, List.cons_append]

/-- The file for a namespace exports it. -/
theorem publishes_namespaceText (d : NamespaceDeclaration) :
    Publishes (namespaceText d) "namespace" d.name (moduleOrName d.module d.qualifiedName) := by
  refine ⟨[], importLines (moduleOrName d.module d.qualifiedName) d.imports ++
      describe d.description,
    (d.properties.flatMap namespaceProperty ++ d.functions.flatMap namespaceFunction).map
      Line.deeper ++ [Line.flat "\x7d"], [], none, ?_⟩
  rw [List.nil_append, List.append_nil, namespaceText, block, exportLine_none]
  simp only [List.append_assoc, List.cons_append]
  rfl

/-- An item exports its declarations, each from its module. -/
theorem publishes_of_mem_exports (item : Item) (e : Export) (he : e ∈ item.exports) :
    Publishes item.text e.keyword e.name (moduleOrName e.module e.qualifiedName) := by
  cases item with
  | enums library declarations =>
      rcases List.mem_map.mp he with ⟨d, hd, rfl⟩
      exact publishes_enumsText declarations d hd
  | interface d =>
      rw [List.mem_singleton.mp he]
      exact publishes_classText .interface d
  | «class» d =>
      rw [List.mem_singleton.mp he]
      exact publishes_classText .class d
  | «namespace» d =>
      rw [List.mem_singleton.mp he]
      exact publishes_namespaceText d

end Emit

end Typings
