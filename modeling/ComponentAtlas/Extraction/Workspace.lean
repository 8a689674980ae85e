import ComponentAtlas.Extraction.Extractor
import ComponentAtlas.FileSystem

/-! # Extraction from a workspace

A workspace is a directory of a file system. Files are named by their paths, absolute or as seen
from the workspace, and recorded by where they really lie below it. One file that does not lie below
it, or cannot be read, makes the whole extraction fail. -/

namespace ComponentAtlas

/-- Why a workspace cannot be extracted. -/
inductive WorkspaceFailure where
  | outside (path root : String)
  | unreadable (path : String) (reason : FileSystem.Failure)
  | source (failure : SourceFile.Failure)
deriving DecidableEq, Repr

namespace WorkspaceFailure

/-- The complaint about a path that is not below a root. -/
def outsideMessage (path root : String) : String :=
  "File path '" ++ path ++ "' is not within workspace root '" ++ root ++ "'"

def message : WorkspaceFailure → String
  | outside path root => outsideMessage path root
  | unreadable path reason => "Failed to read " ++ path ++ ": " ++ reason.message
  | source failure => failure.message

end WorkspaceFailure

/-- The path below the workspace and the text of a file that is named by a path. -/
def readBelow (fs : FileSystem) (root path : String) :
    Except WorkspaceFailure (String × String) := do
  let whole := Path.join root path
  let relative ← match fs.relative whole root with
    | .ok relative => pure relative
    | .error (p, r) => .error (.outside p r)
  match fs.readText whole with
  | .ok text => return (relative, text)
  | .error reason => .error (.unreadable whole reason)

/-- The drafts of the files of a workspace, in the order in which they are named. -/
def Extractor.extractWorkspace (e : Extractor) (fs : FileSystem) (root : String)
    (paths : List String) : Except WorkspaceFailure (List Draft) := do
  let files ← paths.mapM (readBelow fs root)
  match e.extractFiles files with
  | .ok drafts => return drafts
  | .error failure => .error (.source failure)

end ComponentAtlas
