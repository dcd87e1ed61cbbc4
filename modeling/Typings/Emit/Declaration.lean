import Typings.Declaration.Basic
import Typings.Emit.Line
import Typings.Text.Order

/-!
# Declaration Files

The text of a file for each kind of declaration. Everything stands inside a
`declare module` block, so declarations of one module merge even though they
are written to different files. A declaration without module declares a
module named after itself.

A block opens with the imports it needs: one line for each module, modules
and names in order and without repetition. What the block's own module
declares is visible in it and not imported.

## Main definitions

* `docComment`: A documentation comment.
* `importLines`: The imports of a block.
* `enumsText`: The file for the enums of a library.
* `classText`: The file for a class or an interface.
* `namespaceText`: The file for a namespace.
-/

namespace Typings

namespace Emit

/-- Break up the characters that would end a comment. -/
def guardComment : List Char → List Char
  | '*' :: '/' :: rest => '*' :: '\\' :: '/' :: guardComment rest
  | c :: rest => c :: guardComment rest
  | [] => []

/-- A line inside a documentation comment. -/
def docLine (text : String) : Line :=
  Line.flat (" * " ++ String.ofList (guardComment text.toList))

/-- A documentation comment; nothing at all if it would have no lines. -/
def docComment (lines : List String) : List Line :=
  if lines.isEmpty then []
  else Line.flat "/**" :: lines.map docLine ++ [Line.flat " */"]

/-- The documentation comment of a description. -/
def describe (description : String) : List Line :=
  docComment (Text.lines description)

/-- The module that a declaration stands in. -/
def moduleOrName (module qualifiedName : String) : String :=
  if module.isEmpty then qualifiedName else module

/-- The block of a module. -/
def moduleBlock (module : String) (body : List Line) : List Line :=
  block ("declare module \"" ++ module ++ "\" \x7b") body "\x7d"

/-- The imports that a block of a module cannot do without. -/
def outsideImports (module : String) (imports : List TypeImport) : List TypeImport :=
  imports.filter fun i => !i.module.isEmpty && i.module ≠ module

/-- The modules of imports, in order and without repetition. -/
def importedModules (imports : List TypeImport) : List String :=
  Text.sort (addAllNew [] (imports.map (·.module)))

/-- The names imported from a module, in order and without repetition. -/
def importedNames (imports : List TypeImport) (module : String) : List String :=
  Text.sort (addAllNew [] ((imports.filter (·.module = module)).map (·.name)))

/-- The imports of a module, with a blank line behind them if there are any. -/
def importLines (module : String) (imports : List TypeImport) : List Line :=
  -- What the module itself declares is visible in it.
  let needed := outsideImports module imports
  if needed.isEmpty then []
  else
    (importedModules needed).map (fun source =>
      Line.flat ("import \x7b " ++ Text.join ", " (importedNames needed source) ++
        " \x7d from \"" ++ source ++ "\";")) ++
    [Line.blank]

/-- Lists of lines with a blank line between neighbours. -/
def separated : List (List Line) → List Line
  | [] => []
  | [lines] => lines
  | lines :: rest => lines ++ Line.blank :: separated rest

/-- A member of an enum. -/
def enumMember (m : EnumMember) : List Line :=
  describe m.description ++ [Line.flat (m.render ++ ",")]

/-- An enum. -/
def enumBlock (d : EnumDeclaration) : List Line :=
  describe d.description ++
    block ("export enum " ++ d.name ++ " \x7b") (d.members.flatMap enumMember) "\x7d"

/-- Enums by the module they stand in, modules in the order in which they
    first occur. -/
def enumsByModule (enums : List EnumDeclaration) : Table (List EnumDeclaration) :=
  enums.foldl (fun groups d =>
    let module := moduleOrName d.module d.qualifiedName
    groups.put module ((groups.get? module).getD [] ++ [d])) Table.empty

/-- The file for the enums of a library. -/
def enumsText (enums : List EnumDeclaration) : String :=
  renderLines (separated ((enumsByModule enums).entries.map fun (module, group) =>
    moduleBlock module (separated (group.map enumBlock))))

/-- The documentation and the signature of a member. -/
def member (m : MethodDeclaration) : List Line :=
  docComment m.doc ++ [Line.flat (m.signature ++ ";")]

/-- The parameters of an event, as one object. -/
def payloadParameters (e : EventDeclaration) : List Line :=
  if e.parameters.isEmpty then [Line.flat "getParameters(): \x7b\x7d;"]
  else
    block "getParameters(): \x7b"
      (e.parameters.map fun p => Line.flat (p.name ++ ": " ++ p.type ++ ";")) "\x7d;"

/-- The parameter of an event by its name. -/
def payloadParameter (p : Parameter) : List Line :=
  describe p.description ++
    [Line.flat ("getParameter(sName: \"" ++ p.name ++ "\"): " ++ p.type ++ ";")]

/-- The payload interface of an event, which is fired by a source of a given
    type. -/
def payloadBlock (sourceType : String) (e : EventDeclaration) : List Line :=
  describe e.description ++
    block ("export interface " ++ e.payloadType ++ " \x7b")
      (Line.flat ("getSource(): " ++ sourceType ++ ";") ::
        payloadParameters e ++ e.parameters.flatMap payloadParameter) "\x7d"

/-- What an extending declaration says behind its name. -/
def extendsClause : Option String → String
  | some base => " extends " ++ base
  | none => ""

/-- A setting; its default ends its documentation. -/
def settingLines (s : Setting) : List Line :=
  docComment (Text.lines s.description ++
    s.defaultValue.toList.map fun value => "@default " ++ value) ++
  [Line.flat (s.name ++ "?: " ++ s.type ++ ";")]

/-- The interface for the settings of a class. -/
def settingsBlock (s : SettingsInterface) : List Line :=
  block ("export interface " ++ s.name ++ extendsClause s.base ++ " \x7b")
    (s.properties.flatMap settingLines) "\x7d"

/-- A class or an interface itself. -/
def classBlock (kind : ClassKind) (d : ClassDeclaration) : List Line :=
  describe d.description ++
    block ("export " ++ kind.name ++ " " ++ d.name ++ extendsClause d.baseClass ++ " \x7b")
      ((d.constructors ++ d.methods).flatMap member) "\x7d"

/-- The file for a class or an interface: its payload interfaces, the
    interface for its settings, and then itself. -/
def classText (kind : ClassKind) (d : ClassDeclaration) : String :=
  let module := moduleOrName d.module d.qualifiedName
  renderLines (moduleBlock module
    (importLines module d.imports ++
      d.events.flatMap (fun e => payloadBlock d.name e ++ [Line.blank]) ++
      d.settings.toList.flatMap (fun s => settingsBlock s ++ [Line.blank]) ++
      classBlock kind d))

/-- A field of a namespace. -/
def namespaceProperty (p : NamespaceProperty) : List Line :=
  describe p.description ++ [Line.flat ("export const " ++ p.name ++ ": " ++ p.type ++ ";")]

/-- A function of a namespace. -/
def namespaceFunction (f : MethodDeclaration) : List Line :=
  docComment f.doc ++ [Line.flat ("export function " ++ f.signature ++ ";")]

/-- The file for a namespace: fields, then functions. -/
def namespaceText (d : NamespaceDeclaration) : String :=
  let module := moduleOrName d.module d.qualifiedName
  renderLines (moduleBlock module
    (importLines module d.imports ++ describe d.description ++
      block ("export namespace " ++ d.name ++ " \x7b")
        (d.properties.flatMap namespaceProperty ++ d.functions.flatMap namespaceFunction)
        "\x7d"))

end Emit

end Typings
