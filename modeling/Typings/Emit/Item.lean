import Typings.Emit.Declaration
import Typings.Emit.Target

/-!
# What Is Rendered

A run renders one item at a time: the enums of a library together, and every
other declaration by itself. Whatever renders an item gets to see all of it
and answers only whether that went well.

## Main definitions

* `RenderKind`: The kinds of items.
* `Item`: What is rendered at a time.
* `Item.target`, `Item.text`: The file for an item.
* `RenderError`: Why an item could not be rendered.
-/

namespace Typings

namespace Emit

/-- The kinds of items. -/
inductive RenderKind where
  | enums
  | interface
  | «class»
  | namespace
  deriving DecidableEq, Repr, Inhabited

/-- The word for a kind. -/
def RenderKind.name : RenderKind → String
  | .enums => "enums"
  | .interface => "interface"
  | .class => "class"
  | .namespace => "namespace"

/-- What is rendered at a time. -/
inductive Item where
  | enums (library : String) (declarations : List EnumDeclaration)
  | interface (declaration : ClassDeclaration)
  | class (declaration : ClassDeclaration)
  | namespace (declaration : NamespaceDeclaration)
  deriving DecidableEq, Repr

namespace Item

/-- The kind of an item. -/
def kind : Item → RenderKind
  | .enums _ _ => .enums
  | .interface _ => .interface
  | .class _ => .class
  | .namespace _ => .namespace

/-- What reports call an item: the enums of a library have its name. -/
def name : Item → String
  | .enums library _ => library
  | .interface d => d.qualifiedName
  | .class d => d.qualifiedName
  | .namespace d => d.qualifiedName

/-- The target of an item. -/
def target : Item → String
  | .enums library _ => enumsTarget library
  | .interface d => interfaceTarget d
  | .class d => classTarget d
  | .namespace d => namespaceTarget d

/-- The text of an item. -/
def text : Item → String
  | .enums _ declarations => enumsText declarations
  | .interface d => classText .interface d
  | .class d => classText .class d
  | .namespace d => namespaceText d

end Item

/-- Why an item could not be rendered. -/
inductive RenderError where
  | io (path reason : String)
  | postProcess (target message : String)
  | other (message : String)
  deriving DecidableEq, Repr, Inhabited

/-- The message of an error. -/
def RenderError.message : RenderError → String
  | .io path reason => "failed to write " ++ path ++ ": " ++ reason
  | .postProcess target message => "post-processing failed for " ++ target ++ ": " ++ message
  | .other message => message

end Emit

end Typings
