import ComponentAtlas.Source.Imports

/-! # Declarations

What a file declares, as far as detection rules may ask. -/

namespace ComponentAtlas.Source

/-- The three sorts of declaration that a rule can look for. -/
inductive DeclarationKind where
  | classes
  | methods
  | functions
deriving DecidableEq, Repr

namespace DeclarationKind

/-- The word for one declaration of the sort. -/
def singular : DeclarationKind → String
  | classes => "class"
  | methods => "method"
  | functions => "function"

/-- The word for the sort, as rules write it. -/
def plural : DeclarationKind → String
  | classes => "classes"
  | methods => "methods"
  | functions => "functions"

/-- Every sort, in the order in which messages list them. -/
def all : List DeclarationKind := [classes, methods, functions]

def ofPlural? (s : String) : Option DeclarationKind := all.find? (·.plural = s)

end DeclarationKind

/-- A class, method or function of a file. -/
structure Declaration where
  kind : DeclarationKind
  /-- The declared name; an anonymous default export has none. -/
  name : Option String := none
  /-- The line of its first token behind decorators and comments, from one. -/
  line : Nat := 1
  decorators : List Decorator := []
  /-- The block tags of its doc comment, without the at sign. -/
  docTags : List String := []
  /-- What it extends, without type arguments. -/
  extended : Option String := none
  /-- What it implements, without type arguments. -/
  implemented : List String := []
  /-- The place of the class it stands in, in the list of the file's declarations. -/
  enclosing : Option Nat := none
deriving DecidableEq, Repr

end ComponentAtlas.Source
