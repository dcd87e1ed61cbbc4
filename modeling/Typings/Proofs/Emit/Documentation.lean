import Typings.Proofs.Emit.EnumFiles

/-!
# Documentation in Files

A file says what its declarations are and what they are for, and only the first is code.
What a file would be without any documentation is the file of the same item with its
documentation left out, so nothing has to be read off a text: the two files have the same
lines, and one of them has comments in front of some.

Blocks do not change this. What stands in a block is moved to the right in both files,
and a comment moved to the right is a comment still. So it is shown for the parts of a
file one after the other, in the way in which the file is put together from them.

## Main definitions

* `Item.undocumented`: An item without its documentation.
* `Documented`: Lines with those of comments put between them.
* `WithComments`: A text with comments put in front of some of its lines.

## Theorems

* `Documented.append`, `Documented.block`, `Documented.flatMap`,
  `Documented.separated`: Documented parts make up a documented whole.
* `Documented.withComments`: Comments between lines are comments in the text.
* `withComments_enumsText`, `withComments_classText`, `withComments_namespaceText`: The
  kinds of files.
* `withComments_text`: The documentation of an item is all in comments.
* `docComment_closes_once`: A documentation comment ends once, where it should.
-/

namespace Typings

section Undocumented

/-- A member of an enum without its documentation. -/
def EnumMember.undocumented (m : EnumMember) : EnumMember :=
  { m with description := "" }

/-- An enum without its documentation. -/
def EnumDeclaration.undocumented (d : EnumDeclaration) : EnumDeclaration :=
  { d with description := "", members := d.members.map EnumMember.undocumented }

/-- A method without its documentation. -/
def MethodDeclaration.undocumented (m : MethodDeclaration) : MethodDeclaration :=
  { m with doc := [] }

/-- A parameter without its documentation. -/
def Parameter.undocumented (p : Parameter) : Parameter :=
  { p with description := "" }

/-- The payload of an event without its documentation. -/
def EventDeclaration.undocumented (e : EventDeclaration) : EventDeclaration :=
  { e with description := "", parameters := e.parameters.map Parameter.undocumented }

/-- A setting without its documentation, of which its default is a part. -/
def Setting.undocumented (s : Setting) : Setting :=
  { s with description := "", defaultValue := none }

/-- The settings of a class without their documentation. -/
def SettingsInterface.undocumented (s : SettingsInterface) : SettingsInterface :=
  { s with properties := s.properties.map Setting.undocumented }

/-- A class or an interface without its documentation. -/
def ClassDeclaration.undocumented (d : ClassDeclaration) : ClassDeclaration :=
  { d with
    description := ""
    constructors := d.constructors.map MethodDeclaration.undocumented
    methods := d.methods.map MethodDeclaration.undocumented
    events := d.events.map EventDeclaration.undocumented
    settings := d.settings.map SettingsInterface.undocumented }

/-- A field of a namespace without its documentation. -/
def NamespaceProperty.undocumented (p : NamespaceProperty) : NamespaceProperty :=
  { p with description := "" }

/-- A namespace without its documentation. -/
def NamespaceDeclaration.undocumented (d : NamespaceDeclaration) : NamespaceDeclaration :=
  { d with
    description := ""
    functions := d.functions.map MethodDeclaration.undocumented
    properties := d.properties.map NamespaceProperty.undocumented }

/-- An item without its documentation. -/
def Emit.Item.undocumented : Emit.Item → Emit.Item
  | .enums library ds => .enums library (ds.map EnumDeclaration.undocumented)
  | .interface d => .interface d.undocumented
  | .class d => .class d.undocumented
  | .namespace d => .namespace d.undocumented

end Undocumented

namespace Emit

/-- A text with comments put in front of some of its lines. -/
inductive WithComments : List Char → List Char → Prop
  | nil : WithComments [] []
  | line (l : List Char) {plain text : List Char} (h : WithComments plain text) :
      WithComments (l ++ '\n' :: plain) (l ++ '\n' :: text)
  | comment {level : Nat} {c plain text : List Char} (hc : IsComment level c)
      (h : WithComments plain text) : WithComments plain (c ++ text)

/-- Lines with the lines of comments put between them. -/
inductive Documented : List Line → List Line → Prop
  | nil : Documented [] []
  | line (l : Line) {plain lines : List Line} (h : Documented plain lines) :
      Documented (l :: plain) (l :: lines)
  | comment (level : Nat) (doc : List String) {plain lines : List Line}
      (h : Documented plain lines) :
      Documented plain ((docComment doc).map Line.deeper^[level] ++ lines)

namespace Documented

theorem refl (lines : List Line) : Documented lines lines := by
  induction lines with
  | nil => exact .nil
  | cons l rest ih => exact .line l ih

theorem doc (doc : List String) : Documented [] (docComment doc) := by
  have h := Documented.comment 0 doc .nil
  rwa [Function.iterate_zero, List.map_id, List.append_nil] at h

variable {plain lines others more : List Line}

theorem append (h : Documented plain lines) (h' : Documented others more) :
    Documented (plain ++ others) (lines ++ more) := by
  induction h with
  | nil => exact h'
  | line l _ ih => exact .line l ih
  | comment level doc _ ih =>
      rw [List.append_assoc]
      exact .comment level doc ih

theorem deeper (h : Documented plain lines) :
    Documented (plain.map Line.deeper) (lines.map Line.deeper) := by
  induction h with
  | nil => exact .nil
  | line l _ ih => exact .line l.deeper ih
  | comment level doc _ ih =>
      rw [List.map_append, List.map_map, ← Function.iterate_succ']
      exact .comment (level + 1) doc ih

theorem block (head tail : String) (h : Documented plain lines) :
    Documented (block head plain tail) (block head lines tail) :=
  .line _ (h.deeper.append (refl _))

theorem flatMap {α : Type} {f g : α → List Line} (h : ∀ a, Documented (f a) (g a))
    (items : List α) : Documented (items.flatMap f) (items.flatMap g) := by
  induction items with
  | nil => exact .nil
  | cons a rest ih => exact (h a).append ih

theorem separated {α : Type} {f g : α → List Line} (h : ∀ a, Documented (f a) (g a))
    (items : List α) : Documented (separated (items.map f)) (separated (items.map g)) := by
  induction items with
  | nil => exact .nil
  | cons a rest ih =>
      rcases rest with _ | ⟨b, rest⟩
      · exact h a
      · exact (h a).append (.line _ ih)

/-- Comments between lines are comments in the text. -/
theorem withComments (h : Documented plain lines) :
    WithComments (charsAt 0 plain) (charsAt 0 lines) := by
  -- A line ends in a line feed, so comments are put between lines of the text.
  have hcons : ∀ l rest, charsAt 0 (l :: rest) =
      (l.indent.toList ++ l.text.toList).rdropWhile (· = ' ') ++ '\n' :: charsAt 0 rest := by
    intro l rest
    rw [charsAt, List.map_cons, List.flatMap_cons, Function.iterate_zero, id, Line.rendered,
      List.append_assoc, List.singleton_append, charsAt, Function.iterate_zero]
  induction h with
  | nil => exact .nil
  | line l _ ih =>
      rw [hcons, hcons]
      exact .line _ ih
  | comment level doc _ ih =>
      have hdoc :
          charsAt 0 ((docComment doc).map Line.deeper^[level]) = commentChars level doc := by
        rw [← charsAt_docComment, charsAt, charsAt, Function.iterate_zero, List.map_id]
      rw [charsAt_append, hdoc]
      -- Documentation without lines is no comment, and nothing in the text.
      rcases doc with _ | ⟨first, rest⟩
      · exact ih
      · exact .comment (isComment_commentChars level _ (List.cons_ne_nil first rest)) ih

end Documented

theorem describe_empty : describe "" = [] := by
  decide

/-- A description is put in front of what it describes. -/
theorem documented_describe (description : String) {plain lines : List Line}
    (h : Documented plain lines) :
    Documented (describe "" ++ plain) (describe description ++ lines) := by
  rw [describe_empty]
  exact (Documented.doc _).append h

theorem documented_enumMember (m : EnumMember) :
    Documented (enumMember m.undocumented) (enumMember m) :=
  documented_describe m.description (.refl _)

theorem documented_enumBlock (d : EnumDeclaration) :
    Documented (enumBlock d.undocumented) (enumBlock d) := by
  have hmembers : Documented (d.undocumented.members.flatMap enumMember)
      (d.members.flatMap enumMember) := by
    rw [EnumDeclaration.undocumented, List.flatMap_map]
    exact .flatMap documented_enumMember d.members
  exact documented_describe d.description (.block _ _ hmembers)

theorem documented_member (m : MethodDeclaration) :
    Documented (member m.undocumented) (member m) :=
  (Documented.doc m.doc).append (.refl _)

theorem documented_payloadParameter (p : Parameter) :
    Documented (payloadParameter p.undocumented) (payloadParameter p) :=
  documented_describe p.description (.refl _)

theorem payloadParameters_undocumented (e : EventDeclaration) :
    payloadParameters e.undocumented = payloadParameters e := by
  rw [payloadParameters, payloadParameters, EventDeclaration.undocumented]
  simp only [List.isEmpty_map, List.map_map]
  rfl

theorem documented_payloadBlock (sourceType : String) (e : EventDeclaration) :
    Documented (payloadBlock sourceType e.undocumented) (payloadBlock sourceType e) := by
  -- The object of all parameters says nothing of what they are for, their getters do.
  have hparameters : Documented (e.undocumented.parameters.flatMap payloadParameter)
      (e.parameters.flatMap payloadParameter) := by
    rw [EventDeclaration.undocumented, List.flatMap_map]
    exact .flatMap documented_payloadParameter e.parameters
  have hfields : Documented (payloadParameters e.undocumented) (payloadParameters e) := by
    rw [payloadParameters_undocumented]
    exact .refl _
  exact documented_describe e.description (.block _ _ (.line _ (hfields.append hparameters)))

theorem documented_setting (s : Setting) :
    Documented (settingLines s.undocumented) (settingLines s) :=
  (Documented.doc _).append (.refl _)

theorem documented_settingsBlock (s : SettingsInterface) :
    Documented (settingsBlock s.undocumented) (settingsBlock s) := by
  refine .block _ _ ?_
  rw [SettingsInterface.undocumented, List.flatMap_map]
  exact .flatMap documented_setting s.properties

theorem documented_classBlock (kind : ClassKind) (d : ClassDeclaration) :
    Documented (classBlock kind d.undocumented) (classBlock kind d) := by
  refine documented_describe d.description (.block _ _ ?_)
  rw [ClassDeclaration.undocumented, ← List.map_append, List.flatMap_map]
  exact .flatMap documented_member (d.constructors ++ d.methods)

theorem documented_namespaceProperty (p : NamespaceProperty) :
    Documented (namespaceProperty p.undocumented) (namespaceProperty p) :=
  documented_describe p.description (.refl _)

theorem documented_namespaceFunction (f : MethodDeclaration) :
    Documented (namespaceFunction f.undocumented) (namespaceFunction f) :=
  (Documented.doc f.doc).append (.refl _)

/-- Documentation in a text is comments. -/
theorem withComments_renderLines {plain lines : List Line} (h : Documented plain lines) :
    WithComments (renderLines plain).toList (renderLines lines).toList := by
  rw [renderLines_eq, renderLines_eq, String.toList_ofList, String.toList_ofList]
  exact h.withComments

theorem withComments_enumsText (ds : List EnumDeclaration) :
    WithComments (enumsText (ds.map EnumDeclaration.undocumented)).toList
      (enumsText ds).toList := by
  -- Documentation has no part in how enums are grouped.
  have hmodules : (ds.map EnumDeclaration.undocumented).map (·.emittedModule) =
      ds.map (·.emittedModule) := by
    rw [List.map_map]
    rfl
  have hgroup : ∀ module, (ds.map EnumDeclaration.undocumented).filter
      (·.emittedModule = module) = (ds.filter (·.emittedModule = module)).map
        EnumDeclaration.undocumented := by
    intro module
    rw [List.filter_map]
    rfl
  rw [enumsText_eq_renderLines, enumsText_eq_renderLines, hmodules]
  simp only [hgroup, List.map_map]
  exact withComments_renderLines (.separated (fun module =>
    .block _ _ (.separated documented_enumBlock (ds.filter (·.emittedModule = module)))) _)

theorem withComments_classText (kind : ClassKind) (d : ClassDeclaration) :
    WithComments (classText kind d.undocumented).toList (classText kind d).toList := by
  -- Payloads and settings have documentation of their own.
  have hevents : Documented
      (d.undocumented.events.flatMap fun e => payloadBlock d.name e ++ [Line.blank])
      (d.events.flatMap fun e => payloadBlock d.name e ++ [Line.blank]) := by
    rw [ClassDeclaration.undocumented, List.flatMap_map]
    exact .flatMap (fun e => (documented_payloadBlock d.name e).append (.refl _)) d.events
  have hsettings : Documented
      (d.undocumented.settings.toList.flatMap fun s => settingsBlock s ++ [Line.blank])
      (d.settings.toList.flatMap fun s => settingsBlock s ++ [Line.blank]) := by
    rw [ClassDeclaration.undocumented]
    cases d.settings with
    | none => exact .refl _
    | some s => exact .flatMap (fun s => (documented_settingsBlock s).append (.refl _)) [s]
  refine withComments_renderLines (.block _ _ ?_)
  exact (((Documented.refl _).append hevents).append hsettings).append
    (documented_classBlock kind d)

theorem withComments_namespaceText (d : NamespaceDeclaration) :
    WithComments (namespaceText d.undocumented).toList (namespaceText d).toList := by
  have hproperties : Documented (d.undocumented.properties.flatMap namespaceProperty)
      (d.properties.flatMap namespaceProperty) := by
    rw [NamespaceDeclaration.undocumented, List.flatMap_map]
    exact .flatMap documented_namespaceProperty d.properties
  have hfunctions : Documented (d.undocumented.functions.flatMap namespaceFunction)
      (d.functions.flatMap namespaceFunction) := by
    rw [NamespaceDeclaration.undocumented, List.flatMap_map]
    exact .flatMap documented_namespaceFunction d.functions
  refine withComments_renderLines (.block _ _ ?_)
  exact ((Documented.refl _).append (Documented.doc _)).append
    (.block _ _ (hproperties.append hfunctions))

/-- The documentation of an item is all in comments: its file is the file that it has
    without documentation, with comments put in front of lines. -/
theorem withComments_text (item : Item) :
    WithComments item.undocumented.text.toList item.text.toList := by
  cases item with
  | enums library ds => exact withComments_enumsText ds
  | interface d => exact withComments_classText .interface d
  | «class» d => exact withComments_classText .class d
  | «namespace» d => exact withComments_namespaceText d

/-- Whatever its lines hold, a documentation comment ends once, where it should: it writes
    nothing if it has no lines, and otherwise a text that is opened behind its indentation
    and closed in front of its last line feed only, wherever and at whatever level it is
    written. All documentation of a file is in such comments, so none of it can end one. -/
theorem docComment_closes_once :
    (∀ (level : Nat) (lines : List String), ∃ text : String,
      (∀ w : Writer,
        (((docComment lines).map Line.deeper^[level]).foldl Writer.writeLine w).output =
          w.output ++ text) ∧
        ((lines = [] ∧ text = "") ∨ (lines ≠ [] ∧ IsComment level text.toList))) ∧
      ∀ item : Item, WithComments item.undocumented.text.toList item.text.toList := by
  refine ⟨fun level lines => ⟨_, fun w => output_docComment w level lines, ?_⟩, withComments_text⟩
  rcases lines with _ | ⟨first, rest⟩
  · exact Or.inl ⟨rfl, rfl⟩
  · rw [String.toList_ofList]
    exact Or.inr ⟨List.cons_ne_nil first rest,
      isComment_commentChars level _ (List.cons_ne_nil first rest)⟩

end Emit

end Typings
