/-! # Imported names

How names come into a file, and what a decorator's name stands for there. A later import of the
same local name takes the place of an earlier one. -/

namespace ComponentAtlas.Source

/-- A decorator as it is written: `@name`, or `@qualifier.name`. Arguments do not count. -/
structure Decorator where
  name : String
  qualifier : Option String := none
deriving DecidableEq, Repr

/-- How an import brings a local name into a file. -/
inductive Binding where
  /-- One exported thing, which may have another name where it comes from. -/
  | named (imported source : String)
  /-- The default export. -/
  | default (source : String)
  /-- Everything, as a group of names. -/
  | whole (source : String)
deriving DecidableEq, Repr

/-- The local names of a file that imports bring, each with the binding that holds. -/
structure ImportTable where
  entries : List (String × Binding) := []
deriving DecidableEq, Repr

namespace ImportTable

def empty : ImportTable := {}

def get? (t : ImportTable) (local' : String) : Option Binding := t.entries.lookup local'

/-- Binds a name in a list of entries, in place of its old binding if it has one. -/
def bind (local' : String) (b : Binding) : List (String × Binding) → List (String × Binding)
  | [] => [(local', b)]
  | (other, old) :: rest =>
    if other = local' then (local', b) :: rest else (other, old) :: bind local' b rest

def insert (t : ImportTable) (local' : String) (b : Binding) : ImportTable :=
  ⟨bind local' b t.entries⟩

def size (t : ImportTable) : Nat := t.entries.length

def isEmpty (t : ImportTable) : Bool := t.entries.isEmpty

theorem lookup_bind (l : List (String × Binding)) (x y : String) (b : Binding) :
    (bind x b l).lookup y = if y = x then some b else l.lookup y := by
  induction l with
  | nil =>
    by_cases h : y = x
    · simp [bind, h]
    · have : (y == x) = false := by simpa using h
      simp [bind, List.lookup_cons, this, h]
  | cons e rest ih =>
    obtain ⟨k, v⟩ := e
    by_cases hk : k = x
    · subst hk
      by_cases hy : y = k
      · simp [bind, hy]
      · have : (y == k) = false := by simpa using hy
        simp [bind, List.lookup_cons, this, hy]
    · by_cases hy : y = k
      · subst hy
        simp [bind, hk]
      · have : (y == k) = false := by simpa using hy
        simp [bind, hk, List.lookup_cons, this, ih]

/-- After a name is bound it has that binding, and every other name has the one it had. -/
theorem get?_insert (t : ImportTable) (x y : String) (b : Binding) :
    (t.insert x b).get? y = if y = x then some b else t.get? y :=
  lookup_bind t.entries x y b

end ImportTable

/-- What a decorator stands for: the name it was exported under, and where it comes from if the
file says so. -/
structure ResolvedDecorator where
  name : String
  source : Option String
deriving DecidableEq, Repr

/-- A qualified decorator comes from the group that its qualifier names. A bare one comes from
the import that binds it; only a named import can change its name. -/
def ImportTable.resolve (t : ImportTable) (d : Decorator) : ResolvedDecorator :=
  match d.qualifier with
  | some q =>
    match t.get? q with
    | some (.whole source) => ⟨d.name, some source⟩
    | _ => ⟨d.name, none⟩
  | none =>
    match t.get? d.name with
    | some (.named imported source) => ⟨imported, some source⟩
    | some (.default source) => ⟨d.name, some source⟩
    | _ => ⟨d.name, none⟩

end ComponentAtlas.Source
