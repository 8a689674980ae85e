import ComponentAtlas.Path

/-! # File systems

A file system is a tree of directories, files and links below a root, together with the directory
in which relative paths begin. A path is resolved piece by piece; a link is replaced by its target,
and only so many links are followed. -/

namespace ComponentAtlas

/-- What stands under a name in a directory. -/
inductive Entry where
  | file (bytes : List UInt8)
  | directory (entries : List (String × Entry))
  | link (target : String)
deriving Repr

/-- The names that lead from the root to an entry. -/
abbrev Place := List String

namespace Entry

/-- The entry of that name, if this is a directory that has one. -/
def child? : Entry → String → Option Entry
  | directory entries, name => entries.lookup name
  | _, _ => none

/-- The entry that names lead to. Links are not followed. -/
def at? (e : Entry) : Place → Option Entry
  | [] => some e
  | name :: rest => (e.child? name).bind fun c => c.at? rest

end Entry

structure FileSystem where
  root : Entry
  /-- Where relative paths begin. -/
  working : Place := []
deriving Repr

namespace FileSystem

/-- Why something cannot be read. -/
inductive Failure where
  | missing
  | notDirectory
  | isDirectory
  | tooManyLinks
  | notText
deriving DecidableEq, Repr

def Failure.message : Failure → String
  | missing => "No such file or directory (os error 2)"
  | notDirectory => "Not a directory (os error 20)"
  | isDirectory => "Is a directory (os error 21)"
  | tooManyLinks => "Too many levels of symbolic links (os error 40)"
  | notText => "stream did not contain valid UTF-8"

/-- How many links are followed in one path. -/
def greatestLinks : Nat := 40

/-- The pieces of a path between slashes. -/
def pieces (path : String) : List String := (Path.pieces path.toList).map String.ofList

/-- Where the pieces of a path begin. -/
def start (path : String) (here : Place) : Place := if Path.isAbsolute path then [] else here

/-- Follows pieces from a place whose entry is no link. `jump` goes on behind a link: from the
place of the link's directory, with the target and the pieces that are left. -/
def follow (root : Entry) (jump : Place → String → List String → Except Failure Place) :
    Place → List String → Except Failure Place
  | here, [] => .ok here
  | here, piece :: rest =>
    match root.at? here with
    | some (.directory entries) =>
      if piece = "" || piece = "." then follow root jump here rest
      else if piece = ".." then follow root jump here.dropLast rest
      else
        match entries.lookup piece with
        | none => .error .missing
        | some (.link target) => jump here target rest
        | some _ => follow root jump (here ++ [piece]) rest
    | some _ => .error .notDirectory
    | none => .error .missing

/-- Follows pieces and at most that many links. -/
def walk (root : Entry) : Nat → Place → List String → Except Failure Place
  | 0 => follow root fun _ _ _ => .error .tooManyLinks
  | n + 1 => follow root fun here target rest =>
    if target = "" then .error .missing
    else walk root n (start target here) (pieces target ++ rest)

/-- The place that a path leads to when all links are followed. -/
def resolve (fs : FileSystem) (path : String) : Except Failure Place :=
  if path = "" then .error .missing
  else walk fs.root greatestLinks (start path fs.working) (pieces path)

/-- The absolute path of a place. -/
def pathOf (p : Place) : String := "/" ++ "/".intercalate p

/-- The text of the file that a path leads to. -/
def readText (fs : FileSystem) (path : String) : Except Failure String := do
  let place ← fs.resolve path
  match fs.root.at? place with
  | some (.file bytes) =>
    match String.fromUTF8? ⟨bytes.toArray⟩ with
    | some text => return text
    | none => .error .notText
  | some (.directory _) => .error .isDirectory
  | _ => .error .missing

/-- The two paths, resolved when both can be. -/
def resolveBoth (fs : FileSystem) (a b : String) : String × String :=
  match fs.resolve a, fs.resolve b with
  | .ok p, .ok q => (pathOf p, pathOf q)
  | _, _ => (a, b)

/-- A path as seen from a root above it, or the two paths that were compared in vain. -/
def relative (fs : FileSystem) (path root : String) : Except (String × String) String :=
  let (p, r) := fs.resolveBoth path root
  match Path.below? r p with
  | some s => .ok s
  | none => .error (p, r)

/-- Puts an entry under a name, in place of the one that is there. -/
def setEntry (name : String) (e : Entry) : List (String × Entry) → List (String × Entry)
  | [] => [(name, e)]
  | (other, old) :: rest =>
    if other = name then (name, e) :: rest else (other, old) :: setEntry name e rest

/-- Adds an entry at a place; directories on the way are made where there is none. -/
def put (e : Entry) : Place → Entry → Entry
  | [], _ => e
  | name :: rest, .directory entries =>
    .directory (setEntry name (put e rest ((entries.lookup name).getD (.directory []))) entries)
  | name :: rest, _ => .directory [(name, put e rest (.directory []))]

end FileSystem

end ComponentAtlas
