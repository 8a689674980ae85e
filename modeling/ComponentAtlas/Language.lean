/-! # Script languages

The three script dialects, their names and the file extensions that select them. -/

namespace ComponentAtlas

/-- A script dialect. It fixes which grammar a source text is read with. -/
inductive Language where
  | typescript
  | tsx
  | javascript
deriving DecidableEq, Repr

namespace Language

/-- The name by which configurations and reports speak of the dialect. -/
def name : Language → String
  | typescript => "typescript"
  | tsx => "tsx"
  | javascript => "javascript"

/-- The dialect of that name. -/
def ofName? : String → Option Language
  | "typescript" => some typescript
  | "tsx" => some tsx
  | "javascript" => some javascript
  | _ => none

/-- The complaint about a name that is none of a dialect. -/
def complaint (name : String) : String :=
  "Unsupported language: '" ++ name ++ "'. Supported languages: typescript, tsx, javascript"

/-- The dialect a file extension selects; the spelling is exact, so `TS` selects none. -/
def ofExtension? : String → Option Language
  | "ts" | "mts" | "cts" => some typescript
  | "tsx" => some tsx
  | "js" | "mjs" | "cjs" | "jsx" => some javascript
  | _ => none

/-- Types may be written in the dialect. -/
def hasTypes : Language → Bool
  | javascript => false
  | _ => true

/-- Elements may be written as expressions in the dialect. -/
def hasElements : Language → Bool
  | typescript => false
  | _ => true

theorem ofName?_name (l : Language) : ofName? l.name = some l := by
  cases l <;> rfl

end Language

end ComponentAtlas
