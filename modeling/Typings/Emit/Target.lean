import Typings.Declaration.Basic

/-!
# Targets

Where each declaration is written: a path below the output directory, without
the extension of declaration files. The patterns of a configuration are
matched against targets.

## Main definitions

* `enumsTarget`, `interfaceTarget`, `classTarget`, `namespaceTarget`: The
  targets of declarations.
* `substitutedTarget`: The target for the tokens that others stand for.
* `targetFile`: The file of a target.
-/

namespace Typings

namespace Emit

/-- The target for the enums of a library. -/
def enumsTarget (library : String) : String :=
  "enums/" ++ library ++ ".enums"

/-- The target for an interface. -/
def interfaceTarget (d : ClassDeclaration) : String :=
  "interfaces/" ++ d.fullName ++ "." ++ d.name

/-- The target for a class. -/
def classTarget (d : ClassDeclaration) : String :=
  "classes/" ++ d.fullName

/-- The target for a namespace. -/
def namespaceTarget (d : NamespaceDeclaration) : String :=
  "namespaces/" ++ d.qualifiedName

/-- The target for the tokens that others stand for. -/
def substitutedTarget : String := "substituted"

/-- The extension of declaration files. -/
def declarationExtension : String := ".d.ts"

/-- The file of a target. -/
def targetFile (target : String) : String :=
  target ++ declarationExtension

end Emit

end Typings
