import ComponentAtlas.Json.Pointer

/-! # Violations of the graph schema

What can be wrong with a document that should be a graph, and how it is worded. -/

namespace ComponentAtlas.Graph

/-- What can be wrong with a document that should be a graph. -/
inductive Cause where
  | notObject
  | notArray
  | notString
  | notInteger
  | missing (key : String)
  | notVersion
  /-- A text is none of those allowed. -/
  | notAllowed
  | notIdentifier
  | belowOne
  | aboveLimit
  | repeatedId (id : String)
  | undeclaredDomain (name : String)
  | unknownComponent (id : String)
deriving DecidableEq, Repr

/-- The greatest number of a line. -/
def lineLimit : Nat := UInt32.size - 1

def Cause.message : Cause → String
  | notObject => "must be object"
  | notArray => "must be array"
  | notString => "must be string"
  | notInteger => "must be integer"
  | missing key => "must have required property '" ++ key ++ "'"
  | notVersion => "must match pattern \"^\\d+\\.\\d+$\""
  | notAllowed => "must be equal to one of the allowed values"
  | notIdentifier => "must be a component ID of the form 'domain:module:type:name'"
  | belowOne => "must be >= 1"
  | aboveLimit => "must be <= " ++ toString lineLimit
  | repeatedId id => "duplicate component ID '" ++ id ++ "'"
  | undeclaredDomain name =>
    "must reference a domain declared in /metadata/domains (got '" ++ name ++ "')"
  | unknownComponent id => "must reference an existing component ID (got '" ++ id ++ "')"

/-- A cause at a place. -/
structure Violation where
  place : Pointer
  cause : Cause
deriving DecidableEq, Repr

/-- The place and the cause as one line. The document itself is written as a slash. -/
def Violation.text (v : Violation) : String :=
  (if v.place = [] then "/" else v.place.text) ++ ": " ++ v.cause.message

end ComponentAtlas.Graph
