import ComponentAtlas.Path
import ComponentAtlas.Script.Statements
import ComponentAtlas.Source.Declaration
import ComponentAtlas.Tree.Declarations
import ComponentAtlas.Tree.Imports

/-! # Source files

What rules may ask of a file: its path, its declarations in source order and its imports. -/

namespace ComponentAtlas

/-- A file that has been read. -/
structure SourceFile where
  /-- The path with slashes and without a dot in front. -/
  path : String
  declarations : List Source.Declaration
  imports : Source.ImportTable
deriving DecidableEq, Repr

namespace SourceFile

/-- The file with the given contents, however its path is spelled. -/
def ofParts (path : String) (declarations : List Source.Declaration)
    (imports : Source.ImportTable) : SourceFile :=
  ⟨Path.normalize path, declarations, imports⟩

/-- The file that a text in a certain dialect is. -/
def ofText (language : Language) (path content : String) : SourceFile :=
  let tree := Script.read language content
  ofParts path (Tree.declarations tree) (Tree.imports tree)

/-- Why a file cannot be read. -/
inductive Failure where
  /-- Its extension selects no dialect. -/
  | unsupported (path : String)
deriving DecidableEq, Repr

def Failure.message : Failure → String
  | unsupported path => "Unsupported file type: " ++ path

/-- Reads a file in the dialect that its extension selects. -/
def parse (path content : String) : Except Failure SourceFile :=
  match Path.language? path with
  | some language => .ok (ofText language path content)
  | none => .error (.unsupported path)

/-- The class that a declaration stands in. -/
def enclosing? (f : SourceFile) (d : Source.Declaration) : Option Source.Declaration :=
  d.enclosing.bind fun i => f.declarations[i]?

end SourceFile

end ComponentAtlas
