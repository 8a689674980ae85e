import ComponentAtlas.Graph.Decoding
import ComponentAtlas.Graph.Encoding
import ComponentAtlas.Graph.Schema

/-! # Admitting graphs

The way from a document to a graph. The document is checked as a whole before it is decoded. -/

namespace ComponentAtlas.Graph

/-- Why a document is no graph. -/
inductive Failure where
  | invalid (violations : List Violation)
  | undecodable (error : DecodeError)

namespace Failure

/-- What is wrong, line by line, each with the text of its place. -/
def lines : Failure → List (String × String)
  | invalid violations => violations.map fun v => (v.place.text, v.cause.message)
  | undecodable error => [("", error.message)]

def message : Failure → String
  | invalid violations =>
    "Invalid RiviereGraph:\n" ++ "\n".intercalate (violations.map (·.text))
  | undecodable error => "Invalid RiviereGraph:\n/: " ++ error.message

end Failure

/-- The graph of a document. -/
def ofJson (document : Json) : Except Failure Graph :=
  match check document with
  | [] => (Graph.decode document).mapError .undecodable
  | violations => .error (.invalid violations)

/-- The document is one of a graph. -/
def isGraph (document : Json) : Bool := (ofJson document).isOk

end ComponentAtlas.Graph
