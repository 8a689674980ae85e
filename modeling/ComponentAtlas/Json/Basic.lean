import ComponentAtlas.Keyed

/-! # JSON values

Values as documents hold them. The members of an object stand in ascending order of their keys,
each key once; `Json.Ordered` says so, and everything that builds objects here keeps it. -/

namespace ComponentAtlas

/-- A number: a whole one, or the bits of a binary floating point one. -/
inductive JsonNumber where
  | whole (value : Int)
  | real (bits : UInt64)
deriving DecidableEq, Repr

inductive Json where
  | null
  | bool (value : Bool)
  | number (value : JsonNumber)
  | string (value : String)
  | array (items : List Json)
  | object (members : List (String × Json))
deriving Repr

namespace Json

/-- A whole number. -/
def int (n : Int) : Json := .number (.whole n)

/-- The object with these members; of two with one key the later counts. -/
def ofMembers (members : List (String × Json)) : Json := .object (Keyed.sorted members)

/-- A member that is left out if it has no value. -/
def optional (key : String) : Option Json → List (String × Json)
  | none => []
  | some v => [(key, v)]

/-- The value of a member. -/
def memberOf? (members : List (String × Json)) (key : String) : Option Json := members.lookup key

def get? : Json → String → Option Json
  | object members, key => memberOf? members key
  | _, _ => none

def string? : Json → Option String
  | string s => some s
  | _ => none

def array? : Json → Option (List Json)
  | array items => some items
  | _ => none

def object? : Json → Option (List (String × Json))
  | object members => some members
  | _ => none

/-- Everywhere in the value the keys of an object ascend. -/
inductive Ordered : Json → Prop where
  | null : Ordered null
  | bool (b : Bool) : Ordered (bool b)
  | number (n : JsonNumber) : Ordered (number n)
  | string (s : String) : Ordered (string s)
  | array {items : List Json} (h : ∀ v ∈ items, Ordered v) : Ordered (array items)
  | object {members : List (String × Json)} (ascending : Keyed.Ascending members)
      (h : ∀ m ∈ members, Ordered m.2) : Ordered (object members)

end Json

end ComponentAtlas
