import ComponentAtlas.Source.Imports
import ComponentAtlas.Tree.Node

/-! # Imports of a tree

Only import statements at the top of a file bring names into it. -/

namespace ComponentAtlas.Tree

open ComponentAtlas.Source

/-- Text without the quotes around it, however many there are. -/
def unquote (text : String) : String :=
  let isQuote (c : Char) : Bool := c = '\x22' || c = '\x27' || c = '\x60'
  let chars := text.toList.dropWhile isQuote
  String.ofList (chars.reverse.dropWhile isQuote).reverse

namespace Node

/-- The name that one specifier of a list binds. -/
def specifierBinding? (source : String) (n : Node) : Option (String × Binding) :=
  (n.textOf? .name).map fun imported =>
    ((n.textOf? .alias).getD imported, .named imported source)

/-- The names that one part of an import clause binds. -/
def partBindings (source : String) (n : Node) : List (String × Binding) :=
  match n.kind with
  | .identifier => [(n.text, .default source)]
  | .namespaceImport =>
    (n.childOf? .identifier).toList.map fun name => (name.text, .whole source)
  | .namedImports => (n.childrenOf .importSpecifier).filterMap (specifierBinding? source)
  | _ => []

/-- The names that an import statement binds. One without a clause or a source of its own binds
none. -/
def importedNames (n : Node) : List (String × Binding) :=
  match n.textOf? .source, n.childOf? .importClause with
  | some source, some clause => clause.namedChildren.flatMap (partBindings (unquote source))
  | _, _ => []

end Node

/-- The import table of a file. -/
def imports (root : Node) : ImportTable :=
  ((root.childrenOf .importStatement).flatMap Node.importedNames).foldl
    (fun table (name, binding) => table.insert name binding) .empty

end ComponentAtlas.Tree
