/-!
# Exported symbols

A symbol that a module exports has a name, a kind, and the line of the using
declaration that exported it, unless that line could not be recovered.  The kind
is named in a dump by an open vocabulary of declaration kinds, which is mapped
onto a closed set; **a declaration kind that is not listed is unknown.**
-/

namespace ExportAudit.Export

set_option autoImplicit false

/-- What an exported name stands for. -/
inductive SymbolKind where
  | function
  | functionTemplate
  | classType
  | classTemplate
  | struct
  | typeAlias
  | variable
  | namespaceScope
  | unknown
  deriving DecidableEq, Repr

namespace SymbolKind

/-- The kind that a declaration kind of a dump stands for. -/
def ofDeclaration : String → SymbolKind
  | "Function" | "CXXMethod" | "CXXConversion" => .function
  | "FunctionTemplate" => .functionTemplate
  | "CXXRecord" | "Record" | "Class" => .classType
  | "ClassTemplate" | "ClassTemplateSpecialization" => .classTemplate
  | "Struct" => .struct
  | "TypeAlias" | "TypeAliasTemplate" | "Typedef" => .typeAlias
  | "Var" | "VarTemplate" | "Variable" => .variable
  | "Namespace" | "NamespaceAlias" => .namespaceScope
  | _ => .unknown

/-- The name of a kind in reports. -/
def label : SymbolKind → String
  | .function => "function"
  | .functionTemplate => "function-template"
  | .classType => "class"
  | .classTemplate => "class-template"
  | .struct => "struct"
  | .typeAlias => "type-alias"
  | .variable => "variable"
  | .namespaceScope => "namespace"
  | .unknown => "unknown"

end SymbolKind

/-- A symbol that a module exports. -/
structure Symbol where
  name : String
  kind : SymbolKind
  /-- Line of the using declaration, when it was recovered. -/
  line : Option Nat
  deriving DecidableEq, Repr

end ExportAudit.Export
