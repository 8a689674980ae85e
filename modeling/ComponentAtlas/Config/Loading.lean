import ComponentAtlas.Config.Check
import ComponentAtlas.FileSystem
import ComponentAtlas.Json.Reader

/-! # Loading configurations

A configuration is read from a document, and the document from a file. The document is checked as a
whole before it is decoded. -/

namespace ComponentAtlas.Config

/-- Why there is no configuration. -/
inductive Failure where
  | invalid (violations : List Violation)
  | unreadable (path : String) (reason : FileSystem.Failure)
  | malformed (error : Json.ReadError)
  | undecodable (error : DecodeError)

namespace Failure

/-- The wording of violations, one on a line. -/
def invalidMessage (violations : List Violation) : String :=
  "Invalid extraction config:\n" ++ "\n".intercalate (violations.map (·.text))

def message : Failure → String
  | invalid violations => invalidMessage violations
  | unreadable path reason =>
    "Failed to read extraction config '" ++ path ++ "': " ++ reason.message
  | malformed error => "Extraction config is not valid JSON: " ++ error.message
  | undecodable error => "Extraction config is not valid JSON: " ++ error.message

/-- The violations of a document that is none of a configuration. -/
def violations : Failure → List Violation
  | invalid violations => violations
  | _ => []

end Failure

/-- The configuration of a document. -/
def ofJson (v : Json) : Except Failure Config :=
  match check v with
  | [] => (Config.decode v).mapError .undecodable
  | violations => .error (.invalid violations)

/-- The configuration in a file. -/
def load (fs : FileSystem) (path : String) : Except Failure Config := do
  let text ← (fs.readText path).mapError (.unreadable path)
  let document ← (Json.read text).mapError .malformed
  ofJson document

end ComponentAtlas.Config
