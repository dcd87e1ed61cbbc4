import Mathlib.Data.List.DropRight
import Typings.Enumeration
import Typings.Namespace
import Typings.Proofs.Emit.Exports
import Typings.Proofs.Naming
import Typings.Registry

/-!
# Module Paths Put Together Again

A path is cut at both kinds of separators, and its parts are always put together with
slashes. That loses which separator stood where and nothing else: the module of a
qualified path and its last segment, with a slash between them, are the path spelled with
slashes. Separators at the ends or next to each other make empty segments, which are
segments like any other.

A symbol that gives neither a module path nor a short name has both from its name. The
registry, the models and the declarations made from them all keep the module and the
short name, and so the module path can be read off any of them.

It cannot always be read off the file of a declaration. A declaration with an empty module
declares a module named after itself, and the module is empty not only where there is
none: it is as well if the only separator of a name is its first character.

## Main definitions

* `Api.Symbol.IsNamedOnly`: A symbol has its module path and its short name from its name.
* `Api.Symbol.RejoinsFrom`: The module path is a module and the short name put together.
* `Api.Symbol.KeptModule`, `Api.Symbol.IsIn`: The modules that are kept for a symbol, and
  the items that it is rendered in.
* `Api.Symbol.fileModule`: The module that a file declares for what is made from a symbol.

## Theorems

* `TypePath.isQualified_iff`: A qualified path has two segments at least.
* `TypePath.lastSegment_eq_rtakeWhile`: The last segment read from the end.
* `TypePath.moduleOf_append_lastSegment`: The parts of a path make up the path.
* `TypePath.moduleOf_eq_empty_iff`: Which qualified paths have an empty module.
* `Api.Symbol.IsNamedOnly.rejoinsFrom`: The module path can be read off whatever keeps the
  module.
* `Api.Symbol.IsNamedOnly.rejoinsFrom_fileModule_iff`: When it can be read off a file.
* `Api.Symbol.path_rejoined`: All of that together.
-/

namespace Typings

namespace Text

/-- There is one piece more than there are separators. -/
theorem length_splitChars (isSeparator : Char → Bool) (cs : List Char) :
    (splitChars isSeparator cs).length = cs.countP isSeparator + 1 := by
  induction cs with
  | nil => rfl
  | cons c rest ih =>
      by_cases hc : isSeparator c = true
      · rw [splitChars, if_pos hc, List.length_cons, ih, List.countP_cons_of_pos hc]
      · rw [splitChars, if_neg hc, List.countP_cons_of_neg hc, ← ih]
        cases hsplit : splitChars isSeparator rest with
        | nil => exact absurd hsplit (splitChars_ne_nil isSeparator rest)
        | cons piece pieces => rfl

/-- A piece put behind others has a separator in front of it. -/
theorem join_concat (separator piece : String) (pieces : List String) (hne : pieces ≠ []) :
    join separator (pieces ++ [piece]) = join separator pieces ++ separator ++ piece := by
  induction pieces with
  | nil => exact absurd rfl hne
  | cons first rest ih =>
      cases rest with
      | nil => rfl
      | cons second more =>
          have hleft : join separator (first :: second :: more ++ [piece]) =
              first ++ separator ++ join separator (second :: more ++ [piece]) := rfl
          have hright : join separator (first :: second :: more) =
              first ++ separator ++ join separator (second :: more) := rfl
          rw [hleft, hright, ih (List.cons_ne_nil _ _)]
          simp only [String.append_assoc]

/-- Only an empty piece makes an empty text, if the separator is not empty. -/
theorem join_eq_empty_iff (separator : String) (pieces : List String) (hseparator : separator ≠ "")
    (hne : pieces ≠ []) : join separator pieces = "" ↔ pieces = [""] := by
  cases pieces with
  | nil => exact absurd rfl hne
  | cons first rest =>
      cases rest with
      | nil => rw [join, List.cons.injEq, eq_self_iff_true, and_true]
      | cons second more =>
          have hjoin : join separator (first :: second :: more) =
              first ++ separator ++ join separator (second :: more) := rfl
          refine iff_of_false ?_ fun h => List.cons_ne_nil second more (List.cons.inj h).2
          rw [hjoin, String.append_eq_empty_iff, String.append_eq_empty_iff]
          exact fun h => hseparator h.1.2

/-- The last piece is what stands behind the last separator. -/
theorem getLast_splitChars (isSeparator : Char → Bool) (cs : List Char) :
    (splitChars isSeparator cs).getLast (splitChars_ne_nil isSeparator cs) =
      cs.rtakeWhile fun c => !isSeparator c := by
  have hback : ∀ c ∈ cs.rtakeWhile fun c => !isSeparator c, isSeparator c = false := by
    intro c hc
    rw [List.rtakeWhile, List.mem_reverse] at hc
    have hnot : (!isSeparator c) = true := List.mem_takeWhile_imp (p := fun c => !isSeparator c) hc
    rwa [Bool.not_eq_true'] at hnot
  have hwhole : (cs.reverse.dropWhile fun c => !isSeparator c).reverse ++
      cs.rtakeWhile (fun c => !isSeparator c) = cs := by
    rw [List.rtakeWhile, ← List.reverse_append, List.takeWhile_append_dropWhile,
      List.reverse_reverse]
  cases hfront : cs.reverse.dropWhile fun c => !isSeparator c with
  | nil =>
      -- Without separator the text is its own last piece.
      rw [hfront, List.reverse_nil, List.nil_append] at hwhole
      rw [hwhole] at hback ⊢
      simp only [splitChars_eq_singleton isSeparator cs hback, List.getLast_singleton]
  | cons s more =>
      have hs : isSeparator s = true := by
        have hne : cs.reverse.dropWhile (fun c => !isSeparator c) ≠ [] := by
          rw [hfront]
          exact List.cons_ne_nil s more
        have hhead := List.head_dropWhile_not (fun c => !isSeparator c) hne
        simpa only [hfront, List.head_cons, Bool.not_eq_false'] using hhead
      rw [hfront, List.reverse_cons, List.append_assoc, List.singleton_append] at hwhole
      have hsplit := splitChars_append_separator isSeparator more.reverse
        (cs.rtakeWhile fun c => !isSeparator c) s hs
      rw [hwhole, splitChars_eq_singleton isSeparator _ hback] at hsplit
      simp only [hsplit, List.getLast_concat]

end Text

namespace TypePath

/-- A qualified path has two segments at least. -/
theorem isQualified_iff (path : String) :
    isQualified path = true ↔ 2 ≤ (segments path).length := by
  rw [segments, Text.split, List.length_map, Text.length_splitChars, isQualified, List.any_eq_true,
    Nat.succ_le_succ_iff, Nat.succ_le_iff, List.countP_pos_iff]

/-- A path that is not qualified is its only segment. -/
theorem segments_of_not_isQualified (path : String) (hpath : isQualified path = false) :
    segments path = [path] :=
  Text.split_eq_singleton isSeparator path (not_isSeparator_of_not_isQualified path hpath)

/-- The last segment is the same if a path is read from its end. -/
theorem lastSegment_eq_rtakeWhile (path : String) :
    lastSegment path = String.ofList (path.toList.rtakeWhile fun c => !isSeparator c) := by
  rw [lastSegment_eq, ← Text.getLast_splitChars]
  exact List.getLast_map (segments_ne_nil path)

/-- A path spelled with slashes is its segments with slashes between them. -/
theorem join_slash_segments (path : String) :
    Text.join "/" (segments path) = toModulePath path := by
  rw [← segments_toModulePath]
  refine Text.join_split isSeparator '/' (toModulePath path) fun c hc hseparator => ?_
  rw [isSeparator, Bool.or_eq_true, decide_eq_true_eq, decide_eq_true_eq] at hseparator
  refine hseparator.resolve_left fun hdot => ?_
  -- No dot is left in that spelling.
  rw [toModulePath, Text.replaceChar, String.toList_ofList, List.mem_map] at hc
  rcases hc with ⟨d, _, hd⟩
  by_cases h : d = '.'
  · rw [if_pos h, hdot] at hd
    exact absurd hd (by decide)
  · rw [if_neg h] at hd
    exact h (hd.trans hdot)

/-- There are segments in front of the last one of a qualified path. -/
theorem dropLast_segments_ne_nil (path : String) (hpath : isQualified path = true) :
    (segments path).dropLast ≠ [] := by
  have hlength := (isQualified_iff path).mp hpath
  intro hnil
  have hdrop := congrArg List.length hnil
  rw [List.length_dropLast, List.length_nil] at hdrop
  omega

/-- The parts of a qualified path make up the path. -/
theorem moduleOf_append_lastSegment (path : String) (hpath : isQualified path = true) :
    moduleOf path ++ "/" ++ lastSegment path = toModulePath path := by
  have hjoin := Text.join_concat "/" ((segments path).getLast (segments_ne_nil path))
    (segments path).dropLast (dropLast_segments_ne_nil path hpath)
  rw [List.dropLast_append_getLast, join_slash_segments] at hjoin
  rw [hjoin, moduleOf, lastSegment_eq]

/-- A path that is not qualified is its own last segment and has no module. -/
theorem parts_of_not_isQualified (path : String) (hpath : isQualified path = false) :
    moduleOf path = "" ∧ lastSegment path = path := by
  rw [moduleOf, lastSegment, segments_of_not_isQualified path hpath]
  exact ⟨rfl, rfl⟩

/-- A qualified path has an empty module if its only separator is its first character. -/
theorem moduleOf_eq_empty_iff (path : String) (hpath : isQualified path = true) :
    moduleOf path = "" ↔ segments path = ["", lastSegment path] := by
  have hsegments := List.dropLast_append_getLast (segments_ne_nil path)
  rw [moduleOf, Text.join_eq_empty_iff "/" _ (by decide) (dropLast_segments_ne_nil path hpath),
    lastSegment_eq]
  constructor
  · intro hfirst
    rw [hfirst] at hsegments
    exact hsegments.symm
  · intro hboth
    rw [hboth]
    rfl

end TypePath

namespace Api.Symbol

open Emit (Item Publishes)

/-- A symbol gives neither a module path nor a short name, and its name is qualified. -/
structure IsNamedOnly (s : Symbol) : Prop where
  qualified : TypePath.isQualified s.name = true
  module : s.module = ""
  basename : s.basename = ""

/-- The module path of a symbol is a module and the short name put together. -/
def RejoinsFrom (s : Symbol) (module : String) : Prop :=
  module ++ "/" ++ s.shortName = s.modulePath

/-- The modules that are kept for a symbol: in its entry of the registry, and in the model
    or the declaration that is made from it. -/
inductive KeptModule (s : Symbol) : String → Prop
  | entry (library : String) : KeptModule s (RegistryEntry.ofSymbol library s).module
  | classModel (r : Resolver) (id : Nat) (kind : ClassKind) (library : String) :
      KeptModule s (ClassModel.build r id kind library s).moduleName
  | classDeclaration (r : Resolver) (id : Nat) (kind : ClassKind) (library : String)
      (base : Option ClassModel) :
      KeptModule s ((ClassModel.build r id kind library s).declaration base).module
  | namespaceDeclaration (r : Resolver) (library : String) :
      KeptModule s (NamespaceModel.build r library s).declaration.module
  | enumDeclaration (library : String) : KeptModule s (EnumDeclaration.ofSymbol library s).module

/-- The items that a declaration made from a symbol is rendered in. -/
inductive IsIn (s : Symbol) : Item → Prop
  | enums (library : String) (declarations : List EnumDeclaration)
      (hmem : EnumDeclaration.ofSymbol library s ∈ declarations) :
      IsIn s (.enums library declarations)
  | interface (r : Resolver) (id : Nat) (library : String) (base : Option ClassModel) :
      IsIn s (.interface ((ClassModel.build r id .interface library s).declaration base))
  | class (r : Resolver) (id : Nat) (library : String) (base : Option ClassModel) :
      IsIn s (.class ((ClassModel.build r id .class library s).declaration base))
  | namespace (r : Resolver) (library : String) :
      IsIn s (.namespace (NamespaceModel.build r library s).declaration)

/-- The module that a file declares for what is made from a symbol. -/
def fileModule (s : Symbol) : String :=
  Emit.moduleOrName (TypePath.moduleOf s.modulePath) s.name

/-- What is made from a symbol is exported under its short name, from that module. -/
theorem IsIn.publishes {s : Symbol} {item : Item} (h : s.IsIn item) :
    ∃ keyword, Publishes item.text keyword s.shortName s.fileModule := by
  cases h with
  | enums library declarations hmem =>
      exact ⟨"enum", Emit.publishes_enumsText declarations (EnumDeclaration.ofSymbol library s)
        hmem⟩
  | interface r id library base =>
      exact ⟨"interface", Emit.publishes_classText .interface
        ((ClassModel.build r id .interface library s).declaration base)⟩
  | «class» r id library base =>
      exact ⟨"class", Emit.publishes_classText .class
        ((ClassModel.build r id .class library s).declaration base)⟩
  | «namespace» r library =>
      exact ⟨"namespace", Emit.publishes_namespaceText (NamespaceModel.build r library s).declaration⟩

variable {s : Symbol}

/-- The short name and the module path of a symbol that gives neither. -/
theorem IsNamedOnly.names (h : s.IsNamedOnly) :
    s.shortName = TypePath.lastSegment s.name ∧
      s.modulePath = TypePath.toModulePath s.name :=
  ⟨((s.lastSegment_eq_shortName_iff).mpr (Or.inl h.basename)).symm,
    s.modulePath_of_module_empty h.module⟩

/-- Both spellings of a path have the same module. -/
theorem IsNamedOnly.moduleOf_modulePath (h : s.IsNamedOnly) :
    TypePath.moduleOf s.modulePath = TypePath.moduleOf s.name := by
  rw [h.names.2, TypePath.moduleOf, TypePath.moduleOf, TypePath.segments_toModulePath]

/-- The module path can be read off whatever keeps the module. -/
theorem IsNamedOnly.rejoinsFrom (h : s.IsNamedOnly) {module : String} (hkept : s.KeptModule module) :
    s.RejoinsFrom module := by
  have hmodule : module = TypePath.moduleOf s.name := by
    rw [← h.moduleOf_modulePath]
    cases hkept <;> rfl
  rw [RejoinsFrom, hmodule, h.names.1, h.names.2]
  exact TypePath.moduleOf_append_lastSegment s.name h.qualified

/-- The module path can be read off a file unless the module is empty; the file then
    declares a module that has the whole name for its own. -/
theorem IsNamedOnly.rejoinsFrom_fileModule_iff (h : s.IsNamedOnly) :
    s.RejoinsFrom s.fileModule ↔ TypePath.moduleOf s.name ≠ "" := by
  by_cases hempty : TypePath.moduleOf s.name = ""
  · have hfile : s.fileModule = s.name := by
      rw [fileModule, h.moduleOf_modulePath, hempty]
      rfl
    refine iff_of_false (fun hrejoins => ?_) (not_not.mpr hempty)
    -- The name alone is as long as the module path.
    rw [RejoinsFrom, hfile, h.names.2] at hrejoins
    have hlength := congrArg (fun text => text.toList.length) hrejoins
    simp only [String.toList_append, List.length_append, TypePath.toModulePath, Text.replaceChar,
      String.toList_ofList, List.length_map] at hlength
    have hslash : "/".toList.length = 1 := rfl
    omega
  · have hfile : s.fileModule = TypePath.moduleOf s.modulePath := by
      rw [fileModule, h.moduleOf_modulePath, Emit.moduleOrName, if_neg]
      rwa [String.isEmpty_iff]
    refine iff_of_true ?_ hempty
    rw [hfile]
    exact h.rejoinsFrom (.entry "")

/-- A path is taken apart without loss: it has at least one segment, and a segment holds no
    separator. It is qualified if it has two at least; then its module and its last segment
    make it up, and otherwise it is its own last segment. So the module path of a symbol that
    gives only a qualified name can be read off its entry, its model and its declaration. It
    can be read off the file, unless the module is empty and the file declares a module named
    after the symbol itself. -/
theorem path_rejoined (path : String) :
    TypePath.segments path ≠ [] ∧
    (∀ piece ∈ TypePath.segments path, ∀ c ∈ piece.toList, TypePath.isSeparator c = false) ∧
    (TypePath.isQualified path = true ↔ 2 ≤ (TypePath.segments path).length) ∧
    (TypePath.isQualified path = true →
      TypePath.moduleOf path ++ "/" ++ TypePath.lastSegment path =
        Text.replaceChar '.' '/' path) ∧
    (TypePath.isQualified path = false →
      TypePath.moduleOf path = "" ∧ TypePath.lastSegment path = path) ∧
    TypePath.lastSegment path =
      String.ofList (path.toList.rtakeWhile fun c => !TypePath.isSeparator c) ∧
    ∀ s : Symbol, s.name = path → s.IsNamedOnly →
      (∀ module, s.KeptModule module → s.RejoinsFrom module) ∧
      (∀ item, s.IsIn item → ∃ keyword, Publishes item.text keyword s.shortName s.fileModule) ∧
      (s.RejoinsFrom s.fileModule ↔ TypePath.segments path ≠ ["", TypePath.lastSegment path]) ∧
      (¬ s.RejoinsFrom s.fileModule → s.fileModule = path) := by
  refine ⟨TypePath.segments_ne_nil path, TypePath.not_isSeparator_of_mem_segments path,
    TypePath.isQualified_iff path, TypePath.moduleOf_append_lastSegment path,
    TypePath.parts_of_not_isQualified path, TypePath.lastSegment_eq_rtakeWhile path, ?_⟩
  rintro s rfl hs
  refine ⟨fun module => hs.rejoinsFrom, fun item => IsIn.publishes, ?_, fun hnot => ?_⟩
  · rw [hs.rejoinsFrom_fileModule_iff, ne_eq, TypePath.moduleOf_eq_empty_iff _ hs.qualified]
  · rw [hs.rejoinsFrom_fileModule_iff, not_not] at hnot
    rw [fileModule, hs.moduleOf_modulePath, hnot]
    rfl

/-- A class whose name mixes both separators and has an empty segment. -/
def mixedName : Symbol := { kind := .class, name := "lib/ui..Button" }

/-- Its path is put together again from what its file declares. -/
theorem path_rejoined_mixedName :
    mixedName.IsNamedOnly ∧ mixedName.fileModule = "lib/ui/" ∧ mixedName.shortName = "Button" ∧
      mixedName.modulePath = "lib/ui//Button" ∧ mixedName.RejoinsFrom mixedName.fileModule := by
  have hnamed : mixedName.IsNamedOnly := ⟨by decide, rfl, rfl⟩
  rcases path_rejoined mixedName.name with ⟨_, _, _, _, _, _, hsymbol⟩
  exact ⟨hnamed, by decide, by decide, by decide,
    (hsymbol mixedName rfl hnamed).2.2.1.mpr (by decide)⟩

/-- A class whose name has a separator in front and no other. -/
def rootName : Symbol := { kind := .class, name := ".Button" }

/-- Its file declares a module named after the class itself, from which its path is not put
    together again. -/
theorem not_rejoinsFrom_rootName :
    rootName.IsNamedOnly ∧ rootName.modulePath = "/Button" ∧
      (∃ item, rootName.IsIn item ∧ Publishes item.text "class" "Button" ".Button") ∧
      ¬ ∀ item keyword module, rootName.IsIn item →
        Publishes item.text keyword rootName.shortName module → rootName.RejoinsFrom module := by
  have hin : rootName.IsIn
      (.class ((ClassModel.build default 0 .class "lib" rootName).declaration none)) :=
    .class default 0 "lib" none
  have hpublishes := Emit.publishes_classText .class
    ((ClassModel.build default 0 .class "lib" rootName).declaration none)
  have hmodule : Emit.moduleOrName (TypePath.moduleOf rootName.modulePath) rootName.name =
      ".Button" := by
    decide
  have hname : rootName.shortName = "Button" := by decide
  have hfile : Publishes (Item.text
      (.class ((ClassModel.build default 0 .class "lib" rootName).declaration none))) "class"
      rootName.shortName ".Button" := hmodule ▸ hpublishes
  refine ⟨⟨by decide, rfl, rfl⟩, by decide, ⟨_, hin, hname ▸ hfile⟩, fun hall => ?_⟩
  have hrejoins : ".Button" ++ "/" ++ rootName.shortName = rootName.modulePath :=
    hall _ _ _ hin hfile
  exact absurd hrejoins (by decide)

end Api.Symbol

end Typings
