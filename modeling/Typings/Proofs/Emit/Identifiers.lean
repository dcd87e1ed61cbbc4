import Typings.Proofs.Emit.Exports

/-!
# The Identifiers That Declarations Export

A declaration is exported under its name, and so is what is declared beside it: the
interface for the settings of a class, and an interface for the payload of every event
of a class or an interface. All of them stand in the same block, so they are exported
from the same module, and declarations of one module share their names even though
they are written to different files.

## Main definitions

* `Declaration`: A declaration of any kind.
* `Declaration.identifiers`: All names that are exported for a declaration.

## Theorems

* `Emit.publishes_of_mem_identifiers`: A file exports all of them.
-/

namespace Typings

/-- The module that a class or an interface is declared in; without one it is declared
    in a module named after it. -/
def ClassDeclaration.emittedModule (d : ClassDeclaration) : String :=
  Emit.moduleOrName d.module d.qualifiedName

/-- The payload interfaces that are declared beside a class or an interface. -/
def ClassDeclaration.payloads (d : ClassDeclaration) : List String :=
  d.events.map (·.payloadType)

/-- A declaration of any kind. -/
inductive Declaration where
  | enum (d : EnumDeclaration)
  | interface (d : ClassDeclaration)
  | class (d : ClassDeclaration)
  | namespace (d : NamespaceDeclaration)

namespace Declaration

/-- The name of a declaration. -/
def name : Declaration → String
  | .enum d => d.name
  | .interface d => d.name
  | .class d => d.name
  | .namespace d => d.name

/-- The qualified name of a declaration. -/
def qualifiedName : Declaration → String
  | .enum d => d.qualifiedName
  | .interface d => d.qualifiedName
  | .class d => d.qualifiedName
  | .namespace d => d.qualifiedName

/-- The module that a declaration belongs to. -/
def module : Declaration → String
  | .enum d => d.module
  | .interface d => d.module
  | .class d => d.module
  | .namespace d => d.module

/-- The module that a declaration is declared in. -/
def emittedModule (x : Declaration) : String :=
  Emit.moduleOrName x.module x.qualifiedName

/-- The events that a declaration has payload interfaces for. -/
def events : Declaration → List EventDeclaration
  | .enum _ => []
  | .interface d => d.events
  | .class d => d.events
  | .namespace _ => []

/-- The interface for settings that is declared beside a declaration. -/
def settings : Declaration → Option SettingsInterface
  | .enum _ => none
  | .interface d => d.settings
  | .class d => d.settings
  | .namespace _ => none

/-- What is exported for a declaration itself. -/
def exported : Declaration → Emit.Export
  | .enum d => Emit.Export.ofEnum d
  | .interface d => Emit.Export.ofClass .interface d
  | .class d => Emit.Export.ofClass .class d
  | .namespace d => Emit.Export.ofNamespace d

/-- All names that are exported for a declaration: its own, that of its settings, and
    those of its payloads. -/
def identifiers (x : Declaration) : List String :=
  x.name :: (x.settings.toList.map (·.name) ++ x.events.map (·.payloadType))

end Declaration

namespace Emit

/-- The declarations that an item is rendered from. -/
def Item.declarations : Item → List Declaration
  | .enums _ ds => ds.map .enum
  | .interface d => [.interface d]
  | .class d => [.class d]
  | .namespace d => [.namespace d]

theorem moduleOrName_of_ne (module qualifiedName : String) (hmodule : module ≠ "") :
    moduleOrName module qualifiedName = module := by
  rw [moduleOrName, if_neg]
  rwa [String.isEmpty_iff]

theorem Item.exports_eq (item : Item) :
    item.exports = item.declarations.map Declaration.exported := by
  cases item with
  | enums library ds =>
      rw [declarations, List.map_map]
      rfl
  | interface d => rfl
  | «class» d => rfl
  | «namespace» d => rfl

theorem exported_eq (x : Declaration) :
    x.exported.name = x.name ∧ x.exported.qualifiedName = x.qualifiedName ∧
      x.exported.module = x.module := by
  cases x <;> exact ⟨rfl, rfl, rfl⟩

/-- The file for a class or an interface exports the payloads of its events. -/
theorem publishes_payload (kind : ClassKind) (d : ClassDeclaration) (e : EventDeclaration)
    (he : e ∈ d.events) :
    Publishes (classText kind d) "interface" e.payloadType d.emittedModule := by
  rcases List.append_of_mem he with ⟨before, after, hevents⟩
  -- Around the opening line of the event's block stands all the rest of the file.
  refine ⟨[], importLines d.emittedModule d.imports ++
      before.flatMap (fun e => payloadBlock d.name e ++ [Line.blank]) ++ describe e.description,
    (Line.flat ("getSource(): " ++ d.name ++ ";") ::
        payloadParameters e ++ e.parameters.flatMap payloadParameter).map Line.deeper ++
      [Line.flat "\x7d", Line.blank] ++
      after.flatMap (fun e => payloadBlock d.name e ++ [Line.blank]) ++
      d.settings.toList.flatMap (fun s => settingsBlock s ++ [Line.blank]) ++ classBlock kind d,
    [], none, ?_⟩
  rw [List.nil_append, List.append_nil, classText, hevents, List.flatMap_append,
    List.flatMap_cons, payloadBlock, block, exportLine_none]
  simp only [List.append_assoc, List.cons_append, List.nil_append]
  rfl

/-- The file for a class exports the settings of the class. -/
theorem publishes_settings (kind : ClassKind) (d : ClassDeclaration) (s : SettingsInterface)
    (hs : d.settings = some s) :
    Publishes (classText kind d) "interface" s.name d.emittedModule := by
  refine ⟨[], importLines d.emittedModule d.imports ++
      d.events.flatMap (fun e => payloadBlock d.name e ++ [Line.blank]),
    (s.properties.flatMap settingLines).map Line.deeper ++ [Line.flat "\x7d", Line.blank] ++
      classBlock kind d, [], s.base, ?_⟩
  rw [List.nil_append, List.append_nil, classText, hs, Option.toList_some, List.flatMap_cons,
    List.flatMap_nil, settingsBlock, block, exportLine]
  simp only [List.append_assoc, List.cons_append, List.nil_append]
  rfl

theorem publishes_class_identifiers (kind : ClassKind) (d : ClassDeclaration) (n : String)
    (hn : n = d.name ∨ n ∈ d.settings.toList.map (·.name) ∨ n ∈ d.payloads) :
    ∃ keyword, Publishes (classText kind d) keyword n d.emittedModule := by
  rw [List.mem_map, ClassDeclaration.payloads, List.mem_map] at hn
  rcases hn with rfl | ⟨s, hs, rfl⟩ | ⟨e, he, rfl⟩
  · exact ⟨kind.name, publishes_classText kind d⟩
  · exact ⟨"interface", publishes_settings kind d s (Option.mem_toList.mp hs)⟩
  · exact ⟨"interface", publishes_payload kind d e he⟩

/-- A file exports all identifiers of the declarations that it is rendered from. -/
theorem publishes_of_mem_identifiers (item : Item) (x : Declaration) (hx : x ∈ item.declarations)
    (n : String) (hn : n ∈ x.identifiers) :
    ∃ keyword, Publishes item.text keyword n x.emittedModule := by
  rw [Declaration.identifiers, List.mem_cons, List.mem_append] at hn
  cases item with
  | enums library ds =>
      rcases List.mem_map.mp hx with ⟨d, hd, rfl⟩
      rcases hn with rfl | hnone | hnone
      · exact ⟨"enum", publishes_enumsText ds d hd⟩
      · exact absurd hnone List.not_mem_nil
      · exact absurd hnone List.not_mem_nil
  | interface d =>
      rw [List.mem_singleton.mp hx] at hn ⊢
      exact publishes_class_identifiers .interface d n hn
  | «class» d =>
      rw [List.mem_singleton.mp hx] at hn ⊢
      exact publishes_class_identifiers .class d n hn
  | «namespace» d =>
      rw [List.mem_singleton.mp hx] at hn ⊢
      rcases hn with rfl | hnone | hnone
      · exact ⟨"namespace", publishes_namespaceText d⟩
      · exact absurd hnone List.not_mem_nil
      · exact absurd hnone List.not_mem_nil

end Emit

end Typings
