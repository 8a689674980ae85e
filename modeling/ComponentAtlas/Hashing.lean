import ComponentAtlas.ComponentId

/-! # What is hashed

A hash is computed of what is written to a hasher, one write after the other. A text writes its
bytes and then a byte that ends it. An identifier writes its text and then where its last segment
begins. -/

namespace ComponentAtlas

/-- One write to a hasher: some bytes, a single byte, or a number that counts bytes. -/
inductive HashWrite
  | bytes (data : List UInt8)
  | byte (data : UInt8)
  | size (n : Nat)
deriving DecidableEq, Repr

/-- What computes hashes: it begins in a state, each write changes the state, and the last state
has the hash. -/
structure Hasher where
  State : Type
  start : State
  write : State → HashWrite → State
  finish : State → UInt64

/-- The hash of writes. -/
def Hasher.hash (h : Hasher) (writes : List HashWrite) : UInt64 :=
  h.finish (writes.foldl h.write h.start)

/-- What a text writes. -/
def Text.hashWrites (text : String) : List HashWrite := [.bytes (bytes text.toList), .byte 0xff]

/-- What an identifier writes. -/
def ComponentId.hashWrites (id : ComponentId) : List HashWrite :=
  Text.hashWrites id.text ++ [.size id.nameStart]

end ComponentAtlas
