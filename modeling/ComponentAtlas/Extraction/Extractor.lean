import ComponentAtlas.Extraction.Matching
import ComponentAtlas.Extraction.Routing

/-! # Extraction

An extractor is a configuration without faults and its router. It makes drafts of the declarations
in files: for every module that a file belongs to, slot after slot, then put in the order of their
lines. -/

namespace ComponentAtlas

/-- A checked configuration, ready for use. -/
structure Extractor where
  config : Config
  router : Router

namespace Extractor

/-- The extractor of a configuration, or what is wrong with it. -/
def ofConfig (c : Config) : Except (List Config.Violation) Extractor :=
  match c.violations with
  | [] => (Router.ofConfig c).map fun r => ⟨c, r⟩
  | violations => .error violations

/-- The drafts that a module makes of a file, slot after slot. -/
def moduleDrafts (file : SourceFile) (m : Config.Module) : List Draft :=
  Slot.all.flatMap fun slot => matchRule slot (m.rule slot) m file

/-- The drafts of a file before they are put in order. -/
def unordered (e : Extractor) (file : SourceFile) : List Draft :=
  ((e.router.route file.path).filterMap fun i => e.config.modules[i]?).flatMap (moduleDrafts file)

/-- The drafts of a file in the order of their lines. On one line they keep the order of modules
and slots. -/
def extractSource (e : Extractor) (file : SourceFile) : List Draft :=
  (e.unordered file).mergeSort fun a b => a.location.line ≤ b.location.line

/-- The drafts of a file given by its path and text. A file that belongs to no module, or whose
extension selects no dialect, is passed over. -/
def extractFile (e : Extractor) (path content : String) :
    Except SourceFile.Failure (List Draft) :=
  if (e.router.route path).isEmpty then .ok []
  else if (Path.language? path).isNone then .ok []
  else (SourceFile.parse path content).map e.extractSource

/-- The drafts of files, one file after another. -/
def extractFiles (e : Extractor) (files : List (String × String)) :
    Except SourceFile.Failure (List Draft) :=
  (files.mapM fun (path, content) => e.extractFile path content).map List.flatten

end Extractor

end ComponentAtlas
