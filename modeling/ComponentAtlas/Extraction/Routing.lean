import ComponentAtlas.Config.Check

/-! # Which modules a file belongs to

A file belongs to every module whose glob selects its path. A router has the globs of all modules
read; without one, the glob of each module is read anew, and a text that is no glob selects
nothing. -/

namespace ComponentAtlas

/-- The glob selects the path. -/
def selectsPath (glob path : String) : Bool :=
  match Glob.read glob with
  | .ok g => g.selects path
  | .error _ => false

/-- The modules that a path belongs to, in the order of the configuration. -/
def Config.modulesFor (c : Config) (path : String) : List Config.Module :=
  c.modules.filter fun m => selectsPath m.path path

/-- The globs of a configuration's modules, in order. -/
structure Router where
  globs : List Glob
deriving DecidableEq, Repr

namespace Router

/-- The violations of the globs of modules, the first of which has the index given. -/
def globViolations (index : Nat) : List Config.Module → List Config.Violation
  | [] => []
  | m :: rest =>
    (match Glob.read m.path with
      | .ok _ => []
      | .error f => [⟨[.key "modules", .index index, .key "path"], .badGlob m.path f⟩]) ++
    globViolations (index + 1) rest

/-- The globs of modules, those that can be read. -/
def readGlobs (modules : List Config.Module) : List Glob :=
  modules.filterMap fun m => (Glob.read m.path).toOption

/-- The router of a configuration, or what is wrong with its globs. -/
def ofConfig (c : Config) : Except (List Config.Violation) Router :=
  match globViolations 0 c.modules with
  | [] => .ok ⟨readGlobs c.modules⟩
  | violations => .error violations

/-- The indices of the globs that select a path, the first glob having the index given. -/
def indices (path : String) (index : Nat) : List Glob → List Nat
  | [] => []
  | g :: rest =>
    if g.selects path then index :: indices path (index + 1) rest
    else indices path (index + 1) rest

/-- The indices of the modules that a path belongs to. -/
def route (r : Router) (path : String) : List Nat := indices path 0 r.globs

end Router

end ComponentAtlas
